import ProofScript.Proofs.Evaluation.Instance
import ProofScript.Proofs.Evaluation.Limit
import ProofScript.Proofs.Outcome
import ProofScript.Proofs.Reading
import ProofScript.Verification.Refl

/-!
# Proofs by evaluation and the values of parameters

A proof by evaluation is checked without values for the parameters of the signature. The value that
both sides were found to have says what they evaluate to when the parameters do have values: an
instance of it. If there is no unknown in it, not even among the bindings that its lambdas hold,
the instances of both sides are the same.

The check itself looks for unknowns in lists, but not inside of lambdas. So it lets a lambda pass
that holds an unknown, and two computations that got stuck in the same builtin then look alike.
-/
namespace ProofScript.Refl

theorem evaluate_eq_ok_iff {limit : Nat} {signature : Signature} {sides : Sides} :
    evaluate limit signature = .ok sides ↔
      signature.result = .eq sides.left sides.right ∧
        ProofScript.evaluate limit [] sides.left = .ok sides.leftValue ∧
        ProofScript.evaluate limit [] sides.right = .ok sides.rightValue := by
  unfold evaluate
  cases signature.result with
  | eq left right =>
    constructor
    · intro evaluated
      obtain ⟨leftValue, first, ran⟩ := bind_eq_ok.mp evaluated
      obtain ⟨rightValue, second, done⟩ := bind_eq_ok.mp ran
      cases done
      exact ⟨rfl, mapError_eq_ok.mp first, mapError_eq_ok.mp second⟩
    · rintro ⟨result, first, second⟩
      cases result
      exact bind_eq_ok.mpr ⟨sides.leftValue, mapError_eq_ok.mpr first,
        bind_eq_ok.mpr ⟨sides.rightValue, mapError_eq_ok.mpr second, rfl⟩⟩
  | _ =>
    constructor
    · intro evaluated
      cases evaluated
    · rintro ⟨result, -, -⟩
      cases result

theorem compare_eq_ok_iff {sides : Sides} :
    compare sides = .ok () ↔
      sides.leftValue = sides.rightValue ∧ sides.leftValue.isStuck = false := by
  unfold compare
  constructor
  · intro accepted
    split at accepted
    next => cases accepted
    next settled =>
      split at accepted
      next => cases accepted
      next =>
        split at accepted
        next same => exact ⟨same, by simpa using settled⟩
        next => cases accepted
  · rintro ⟨same, settled⟩
    rw [← same, settled]
    simp

/-- A signature is accepted if it ends in an equation whose sides have a common value that is not
stuck. -/
theorem check_eq_ok_iff {limit : Nat} {signature : Signature} :
    check limit signature = .ok () ↔
      ∃ left right value, signature.result = .eq left right ∧
        ProofScript.evaluate limit [] left = .ok value ∧
        ProofScript.evaluate limit [] right = .ok value ∧ value.isStuck = false := by
  rw [check, bind_eq_ok]
  constructor
  · rintro ⟨sides, evaluated, compared⟩
    obtain ⟨result, leftValue, rightValue⟩ := evaluate_eq_ok_iff.mp evaluated
    obtain ⟨same, settled⟩ := compare_eq_ok_iff.mp compared
    rw [← same] at rightValue
    exact ⟨sides.left, sides.right, sides.leftValue, result, leftValue, rightValue, settled⟩
  · rintro ⟨left, right, value, result, leftValue, rightValue, settled⟩
    exact ⟨⟨left, right, value, value⟩,
      evaluate_eq_ok_iff.mpr ⟨result, leftValue, rightValue⟩,
      compare_eq_ok_iff.mpr ⟨rfl, settled⟩⟩

theorem check_equation_iff {limit : Nat} {signature : Signature} {left right : Term}
    (result : signature.result = .eq left right) :
    check limit signature = .ok () ↔
      ∃ value, ProofScript.evaluate limit [] left = .ok value ∧
        ProofScript.evaluate limit [] right = .ok value ∧ value.isStuck = false := by
  rw [check_eq_ok_iff]
  constructor
  · rintro ⟨first, second, value, same, evaluated⟩
    rw [result] at same
    cases same
    exact ⟨value, evaluated⟩
  · rintro ⟨value, evaluated⟩
    exact ⟨left, right, value, result, evaluated⟩

/-- An accepted equation whose value holds no unknown stays true when the parameters are given
values. -/
theorem check_survives_instantiation {limit : Nat} {signature : Signature} {env : Env}
    (accepted : check limit signature = .ok ())
    (foreign : ∀ param ∈ signature.params, Builtin.ofName? param.name = none)
    (binds : ∀ name, (env.find? name).isSome = true ↔
      ∃ param ∈ signature.params, param.name = name) :
    ∃ left right value, signature.result = .eq left right ∧
      ProofScript.evaluate limit [] left = .ok value ∧
      ProofScript.evaluate limit [] right = .ok value ∧
      ∀ limit₁ limit₂ v w, ProofScript.evaluate limit₁ env left = .ok v →
        ProofScript.evaluate limit₂ env right = .ok w →
        value.Instance env v ∧ value.Instance env w ∧ (value.holdsUnknown = false → v = w) := by
  -- being settled is of no use here: `isStuck` does not look inside of lambdas
  obtain ⟨left, right, value, result, leftValue, rightValue, -⟩ := check_eq_ok_iff.mp accepted
  have foreignNames : env.Foreign := by
    intro name bound
    obtain ⟨param, member, rfl⟩ := (binds name).mp bound
    exact foreign param member
  refine ⟨left, right, value, result, leftValue, rightValue, ?_⟩
  intro limit₁ limit₂ v w leftBound rightBound
  -- each side is compared with its own value without bindings, under the larger limit
  have first : value.Instance env v :=
    evaluate_instance foreignNames (evaluate_mono (Nat.le_max_left limit limit₁) leftValue)
      (evaluate_mono (Nat.le_max_right limit limit₁) leftBound)
  have second : value.Instance env w :=
    evaluate_instance foreignNames (evaluate_mono (Nat.le_max_left limit limit₂) rightValue)
      (evaluate_mono (Nat.le_max_right limit limit₂) rightBound)
  exact ⟨first, second, fun known => Value.Instance.unique value known first second⟩

private theorem binds_single (bound : String) (value : Value) (type : Ty) (name : String) :
    (Env.find? [(bound, value)] name).isSome = true ↔
      ∃ param ∈ [(⟨bound, type⟩ : Param)], param.name = name := by
  rw [Env.find?_cons, Env.find?_nil]
  by_cases same : name = bound
  · simp [same]
  · simp [same, Ne.symm same]

/-- `\x => \y => n` applied to zero, in a list. Without a value for `n` this is a lambda that holds
the zero, and it holds the value of `n` as well once there is one. -/
def heldParameter : Term :=
  .app "map" [.lambda "x" (.lambda "y" (.var "n")), .app "Cons" [.const "Z", .const "Nil"]]

/-- The same lambda, but in a list that is put together from two, and the zero is computed. -/
def heldParameterComputed : Term :=
  .app "map" [.lambda "x" (.lambda "y" (.var "n")),
    .app "append" [.const "Nil", .app "Cons" [.app "pred" [.app "S" [.const "Z"]], .const "Nil"]]]

/-- Both sides have equal values once there is a value for the parameter that they hold. -/
theorem check_survives_instantiation_heldParameter :
    check 2 ⟨[⟨"n", .const "Nat"⟩], .eq heldParameter heldParameterComputed⟩ = .ok () ∧
      ∀ limit₁ limit₂ v w,
        ProofScript.evaluate limit₁ [("n", .nat 5)] heldParameter = .ok v →
        ProofScript.evaluate limit₂ [("n", .nat 5)] heldParameterComputed = .ok w → v = w := by
  have accepted :
      check 2 ⟨[⟨"n", .const "Nat"⟩], .eq heldParameter heldParameterComputed⟩ = .ok () := rfl
  have foreign : ∀ param ∈ [(⟨"n", .const "Nat"⟩ : Param)],
      Builtin.ofName? param.name = none := by
    intro param member
    rw [List.mem_singleton.mp member]
    rfl
  obtain ⟨left, right, value, sides, found, -, survives⟩ :=
    check_survives_instantiation accepted foreign (binds_single "n" (.nat 5) (.const "Nat"))
  cases sides
  -- the lambda holds the zero that it was applied to, and nothing else
  have held : value = .list [.lambda "y" (.var "n") [("x", .nat 0)]] :=
    (Except.ok.inj found).symm
  refine ⟨accepted, fun limit₁ limit₂ v w first second => ?_⟩
  exact (survives limit₁ limit₂ v w first second).2.2 (by rw [held]; rfl)

/-- A lambda that holds the value of `stuck`, made by applying `\x => \y => x` inside of a list. -/
def holding (stuck : Term) : Term :=
  .app "map" [.lambda "f" (.app "f" [stuck]),
    .app "Cons" [.lambda "x" (.lambda "y" (.var "x")), .const "Nil"]]

/-- The check lets unknowns pass that a lambda holds. The successors of `n` and of `S n` are both
unknown without a value for `n`, and the lambdas that hold them are taken to be the same. -/
theorem check_accepts_held_unknown :
    ∃ signature,
      Signature.parse "(n : Nat) -> map (\\f => f (S n)) (Cons (\\x => \\y => x) Nil) = map (\\f => f (S (S n))) (Cons (\\x => \\y => x) Nil)" = .ok signature ∧
      signature.result =
        .eq (holding (.app "S" [.var "n"])) (holding (.app "S" [.app "S" [.var "n"]])) ∧
      (∀ param ∈ signature.params, Builtin.ofName? param.name = none) ∧
      check 3 signature = .ok () ∧
      (∀ name, (Env.find? [("n", .nat 0)] name).isSome = true ↔
        ∃ param ∈ signature.params, param.name = name) ∧
      ∃ v w, ProofScript.evaluate 3 [("n", .nat 0)] (holding (.app "S" [.var "n"])) = .ok v ∧
        ProofScript.evaluate 3 [("n", .nat 0)]
          (holding (.app "S" [.app "S" [.var "n"]])) = .ok w ∧ v ≠ w := by
  refine ⟨⟨[⟨"n", .const "Nat"⟩], _⟩, Signature.parse_ofList _ (by decide +kernel), rfl, ?_, rfl,
    ?_, .list [.lambda "y" (.var "x") [("n", .nat 0), ("x", .nat 1)]],
    .list [.lambda "y" (.var "x") [("n", .nat 0), ("x", .nat 2)]], rfl, rfl, by decide⟩
  · intro param member
    rw [List.mem_singleton.mp member]
    rfl
  · exact binds_single "n" _ _

end ProofScript.Refl
