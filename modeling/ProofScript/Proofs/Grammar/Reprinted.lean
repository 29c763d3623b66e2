import ProofScript.Proofs.Grammar.PrintedSignature
import ProofScript.Proofs.Naming.References

/-!
# What printing keeps of a signature

Whether a parameter is printed with its name is decided by the spelling of the name, and a declared
name can be spelled like a positional one. Reading then numbers the parameter anew, while the names
that refer to it stay as they are.

So a signature is read back up to the choice of names if and only if no parameter that is printed
with its name stands behind one that is not, and all names still refer to the same parameters.

## Main results

`Signature.reread_alike_iff`: when a signature is read back up to the choice of names.

`Signature.reread_not_alike`: two signatures that are not.
-/
namespace ProofScript

open Grammar

/-! ### Positional names are not generated -/

theorem Param.not_generated {param : Param} (unnamed : param.isAnonymous = true) :
    ¬ Generated param.name := by
  obtain ⟨rest, spelled⟩ := List.isPrefixOf_iff_prefix.mp unnamed
  apply not_generated_of_spelling
  rw [looksGenerated, ← spelled]
  rfl

namespace Signature

instance (signature : Signature) : Decidable signature.PositionalLast :=
  List.decidableBAll (fun param : Param => param.isAnonymous = true) signature.trailing

/-- New numbers change names only that are not spelled like generated ones. -/
theorem respelled_anonymousParams {params : List Param}
    (unnamed : ∀ param ∈ params, param.isAnonymous = true) (index : Nat) :
    List.Forall₂ Param.Respelled params (anonymousParams index (params.map Param.type)) := by
  induction params generalizing index with
  | nil => exact .nil
  | cons param params ih =>
    rw [List.forall_mem_cons] at unnamed
    refine .cons ⟨rfl, .inr ⟨Param.not_generated unnamed.1, ?_⟩⟩ (ih unnamed.2 (index + 1))
    exact Param.not_generated (Param.isAnonymous_anonymous index param.type)

theorem PositionalLast.respelled {signature : Signature} (last : signature.PositionalLast) :
    List.Forall₂ Param.Respelled signature.params signature.renumbered.params := by
  have leading : List.Forall₂ Param.Respelled signature.leading signature.leading :=
    List.forall₂_same.mpr fun _ _ => ⟨rfl, .inl rfl⟩
  rw [← leading_append_trailing]
  exact List.rel_append leading (respelled_anonymousParams last 0)

/-- A signature is read back from its text, up to the choice of names, if and only if the parameters
that are printed without their names are the last ones and all names refer to the same parameters
when these are numbered anew. -/
theorem reread_alike_iff {text : String} {signature : Signature}
    (parsed : Signature.parse text = .ok signature) :
    (∃ again, Signature.parse signature.render = .ok again ∧ signature.alike again = true) ↔
      signature.PositionalLast ∧ signature.references = signature.renumbered.references := by
  have wellFormed := wellFormed_of_parse parsed
  constructor
  · rintro ⟨again, reread, alike⟩
    obtain ⟨last, rfl⟩ := wellFormed.parse_render_eq_ok_iff.mp reread
    exact ⟨last, (alike_iff_references last.respelled rfl).mp alike⟩
  · rintro ⟨last, refer⟩
    refine ⟨signature.renumbered, wellFormed.parse_render last, ?_⟩
    exact (alike_iff_references last.respelled rfl).mpr refer

/-- Two parameters that are declared under names that look positional. The result refers to the
first of them, and a lambda in it binds the name of the second. -/
def declaredPositional : Signature where
  params := [⟨"_param_0", .const "Nat"⟩, ⟨"_param_9", .const "Nat"⟩]
  result := .eq (.app "f" [.var "_param_0", .lambda "_param_9" (.var "_param_9")]) (.const "Z")

theorem reread_alike_iff_declaredPositional :
    Signature.parse
        "(_param_0 : Nat) -> (_param_9 : Nat) -> f _param_0 \\_param_9 => _param_9 = Z" =
        .ok declaredPositional ∧
      declaredPositional.render = "Nat -> Nat -> f _param_0 (\\_param_9 => _param_9) = Z" ∧
      declaredPositional.PositionalLast ∧
      declaredPositional.references = declaredPositional.renumbered.references ∧
      ∃ again, Signature.parse declaredPositional.render = .ok again ∧
        declaredPositional.alike again = true := by
  have parsed : Signature.parse
      "(_param_0 : Nat) -> (_param_9 : Nat) -> f _param_0 \\_param_9 => _param_9 = Z" =
        .ok declaredPositional :=
    parse_ofList _ (by decide +kernel)
  have last : declaredPositional.PositionalLast := by decide +kernel
  have refer : declaredPositional.references = declaredPositional.renumbered.references := by
    decide +kernel
  exact ⟨parsed, by decide +kernel, last, refer, (reread_alike_iff parsed).mpr ⟨last, refer⟩⟩

/-- The result refers to a parameter that is declared as `_param_1`. -/
def referringPositional : Signature :=
  ⟨[⟨"_param_1", .const "Nat"⟩], .eq (.var "_param_1") (.const "Z")⟩

/-- A parameter that looks positional is declared before one that does not. -/
def leadingPositional : Signature :=
  ⟨[⟨"_param_5", .const "Nat"⟩, ⟨"n", .const "Nat"⟩], .eq (.var "n") (.var "n")⟩

/-- Names that look positional are lost in printing: what refers to such a parameter refers to
nothing when it is read again, and what is printed may not even be readable. -/
theorem reread_not_alike :
    (Signature.parse "(_param_1 : Nat) -> _param_1 = Z" = .ok referringPositional ∧
        referringPositional.render = "Nat -> _param_1 = Z" ∧
        Signature.parse "Nat -> _param_1 = Z" = .ok referringPositional.renumbered ∧
        referringPositional.alike referringPositional.renumbered = false) ∧
      Signature.parse "(_param_5 : Nat) -> (n : Nat) -> n = n" = .ok leadingPositional ∧
        leadingPositional.render = "Nat -> (n : Nat) -> n = n" ∧
        ∀ again, Signature.parse "Nat -> (n : Nat) -> n = n" ≠ .ok again := by
  have leading : Signature.parse "(_param_5 : Nat) -> (n : Nat) -> n = n" = .ok leadingPositional :=
    parse_ofList _ (by decide +kernel)
  have printed : leadingPositional.render = "Nat -> (n : Nat) -> n = n" := by decide +kernel
  refine ⟨⟨parse_ofList _ (by decide +kernel), by decide +kernel,
    parse_ofList _ (by decide +kernel), by decide +kernel⟩, leading, printed, ?_⟩
  intro again reread
  rw [← printed, (wellFormed_of_parse leading).parse_render_eq_ok_iff] at reread
  exact absurd reread.1 (by decide +kernel)

end Signature

end ProofScript
