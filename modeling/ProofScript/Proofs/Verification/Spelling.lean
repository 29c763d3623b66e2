import ProofScript.Proofs.Evaluation.Respelled
import ProofScript.Proofs.Grammar.Parameters
import ProofScript.Proofs.Verification.Refl

/-!
# Proofs by evaluation and the spelling of parameters

A signature stays the same, up to the choice of names, when a parameter is respelled. Whether it is
proved by evaluation then stays the same too, provided that neither spelling is that of a builtin.

A parameter may be spelled like a builtin, though. Evaluation does not know of parameters and takes
it for the builtin, and then the check accepts what it refuses under any other spelling.
-/
namespace ProofScript.Refl

variable {old new : String}

/-- Both sides of an equation are respelled, so they have a common value afterwards if and only if
they had one before. -/
theorem common_value_respell_iff (foreign : Builtin.ofName? old = none)
    (foreign' : Builtin.ofName? new = none) {left right : Term} (fresh : new ∉ left.spellings)
    (fresh' : new ∉ right.spellings) (limit : Nat) :
    (∃ value, ProofScript.evaluate limit [] left = .ok value ∧
      ProofScript.evaluate limit [] right = .ok value ∧ value.isStuck = false) ↔
    ∃ value, ProofScript.evaluate limit [] (left.respell old new) = .ok value ∧
      ProofScript.evaluate limit [] (right.respell old new) = .ok value ∧
      value.isStuck = false := by
  have lefts := evaluate_respelled foreign foreign' limit fresh
  have rights := evaluate_respelled foreign foreign' limit fresh'
  constructor
  · rintro ⟨value, first, second, settled⟩
    rw [first] at lefts
    rw [second] at rights
    obtain ⟨image, evaluated, respelled⟩ := lefts.right_ok fun _ fails => fails
    obtain ⟨image', evaluated', respelled'⟩ := rights.right_ok fun _ fails => fails
    have same : image = image' := Value.Respelled.right_unique value respelled respelled'
    refine ⟨image, evaluated, by rw [evaluated', same], ?_⟩
    rw [Value.Respelled.isStuck_eq value respelled, settled]
  · rintro ⟨image, first, second, settled⟩
    rw [first] at lefts
    rw [second] at rights
    obtain ⟨value, evaluated, respelled⟩ := lefts.left_ok fun _ fails => fails
    obtain ⟨value', evaluated', respelled'⟩ := rights.left_ok fun _ fails => fails
    have same : value = value' := Value.Respelled.left_unique value respelled respelled'
    refine ⟨value, evaluated, by rw [evaluated', same], ?_⟩
    rw [← Value.Respelled.isStuck_eq value respelled, settled]

/-- The spelling of a parameter does not matter to a proof by evaluation, unless it is that of a
builtin. -/
theorem check_respell_iff {text : String} {signature : Signature}
    (parsed : Signature.parse text = .ok signature)
    (declared : old ∈ signature.params.map Param.name) (foreign : Builtin.ofName? old = none)
    (foreign' : Builtin.ofName? new = none) (fresh : new ∉ signature.spellings) (limit : Nat) :
    signature.alike (signature.respell old new) = true ∧
      (check limit signature = .ok () ↔ check limit (signature.respell old new) = .ok ()) := by
  refine ⟨Signature.alike_respell (Signature.parse_nodup parsed) declared fresh, ?_⟩
  rw [Signature.spellings, List.mem_append, not_or] at fresh
  have after : signature.respell old new = _ := Signature.respell_of_declared declared
  cases result : signature.result with
  | eq left right =>
    rw [result, Ty.spellings, List.mem_append, not_or] at fresh
    have respelled : (signature.respell old new).result =
        .eq (left.respell old new) (right.respell old new) := by
      rw [after, result, Ty.respell]
    rw [check_equation_iff result, check_equation_iff respelled]
    exact common_value_respell_iff foreign foreign' fresh.2.1 fresh.2.2 limit
  -- other signatures are not proved by evaluation under any spelling
  | _ => simp [check_eq_ok_iff, after, result, Ty.respell]

/-- A signature whose sides hold the parameter in a lambda and in a list. -/
def keeping (param : String) : Signature :=
  ⟨[⟨param, .const "Nat"⟩],
    .eq (.app "map" [.lambda "x" (.lambda "y" (.var param)),
        .app "Cons" [.const "Z", .const "Nil"]])
      (.app "map" [.lambda "x" (.lambda "y" (.var param)),
        .app "Cons" [.app "pred" [.const "Z"], .const "Nil"]])⟩

theorem check_respell_iff_keeping :
    Signature.parse "(n : Nat) -> map (\\x => \\y => n) (Cons Z Nil) = map (\\x => \\y => n) (Cons (pred Z) Nil)" = .ok (keeping "n") ∧
      "n" ∈ (keeping "n").params.map Param.name ∧ Builtin.ofName? "n" = none ∧
      Builtin.ofName? "m" = none ∧ "m" ∉ (keeping "n").spellings ∧
      (keeping "n").respell "n" "m" = keeping "m" ∧
      (keeping "n").alike (keeping "m") = true ∧ check 1 (keeping "m") = .ok () := by
  have parsed : Signature.parse "(n : Nat) -> map (\\x => \\y => n) (Cons Z Nil) = map (\\x => \\y => n) (Cons (pred Z) Nil)" = .ok (keeping "n") :=
    Signature.parse_ofList _ (by decide +kernel)
  have declared : "n" ∈ (keeping "n").params.map Param.name := by decide
  have foreign : Builtin.ofName? "n" = none := by decide +kernel
  have foreign' : Builtin.ofName? "m" = none := by decide +kernel
  have fresh : "m" ∉ (keeping "n").spellings := by decide
  have respelled : (keeping "n").respell "n" "m" = keeping "m" := by decide +kernel
  have unchanged := check_respell_iff parsed declared foreign foreign' fresh 1
  rw [respelled] at unchanged
  exact ⟨parsed, declared, foreign, foreign', fresh, respelled, unchanged.1, unchanged.2.mp rfl⟩

/-- The sum of zero and zero, by a function that is a parameter. -/
def summing (function : String) : Signature :=
  ⟨[⟨function, .arrow (.const "Nat") (.arrow (.const "Nat") (.const "Nat"))⟩],
    .eq (.app function [.const "Z", .const "Z"]) (.const "Z")⟩

/-- A parameter that is spelled like a builtin is taken for it, so another spelling of it turns
acceptance into failure. -/
theorem check_takes_parameter_for_builtin :
    Signature.parse "(plus : Nat -> Nat -> Nat) -> plus Z Z = Z" = .ok (summing "plus") ∧
      Signature.parse "(f : Nat -> Nat -> Nat) -> f Z Z = Z" = .ok (summing "f") ∧
      "plus" ∈ (summing "plus").params.map Param.name ∧ Builtin.ofName? "f" = none ∧
      "f" ∉ (summing "plus").spellings ∧ (summing "plus").respell "plus" "f" = summing "f" ∧
      (summing "plus").alike (summing "f") = true ∧
      ∀ limit, check limit (summing "plus") = .ok () ∧
        check limit (summing "f") = .error (.eval (.unknownFunction "f")) := by
  refine ⟨Signature.parse_ofList _ (by decide +kernel),
    Signature.parse_ofList _ (by decide +kernel),
    by decide, by decide +kernel, by decide, by decide +kernel, by decide +kernel, ?_⟩
  intro limit
  exact ⟨rfl, rfl⟩

end ProofScript.Refl
