import ProofScript.Proofs.Grammar.PrintedSignature

/-!
# The signatures that can be read

Whatever is read is well formed. Conversely, a well-formed signature is read from the text in which
every parameter is written with its name: a name that looks like a positional one can be declared as
any other name can, and no parameter is left to be numbered.

That the names of variables and of constants are spelled as names is part of being well formed and
cannot be left out. It does not follow from their being told apart by their spelling: a numeral is
no constant, but it is no name either, and no text is read as a variable with that name.

## Main results

`Signature.exists_parse_iff_wellFormed`: a signature is read from some text if and only if it is
well formed.

`Signature.classified_not_parsed`: it is not enough that constants and variables are told apart.
-/
namespace ProofScript

open Grammar

namespace Signature

/-! ### Writing all names -/

/-- The signature as it is written with the names of all its parameters. -/
def renderNamed (signature : Signature) : String :=
  renderParamsNamed signature.params ++ signature.result.render

/-- A well-formed signature is read from the text that gives all names. -/
theorem WellFormed.parse_renderNamed {signature : Signature} (wellFormed : signature.WellFormed) :
    Signature.parse signature.renderNamed = .ok signature := by
  obtain ⟨trees, derived, leads⟩ := exists_namedTrees_renderParamsNamed wellFormed.params
  obtain ⟨residual, printed⟩ := signature.result.exists_printedAs wellFormed.result
  let tree : SignatureTree := ⟨trees, residual⟩
  have spelled : Spells signature.renderNamed.toList tree.tokens := by
    rw [renderNamed, String.toList_append]
    exact leads _ _ printed.spells
  -- what the signature ends in is no function type, so no parameter is taken from it
  have args : signature.result.arrowArgs = [] := Ty.arrowArgs_foldr wellFormed.ends []
  have result : signature.result.arrowResult = signature.result :=
    Ty.arrowResult_foldr wellFormed.ends []
  rw [Signature.parse, readText_eq_ok (lex_of_spells spelled), signature_eq_ok_iff]
  refine ⟨tree, rfl, SignatureTree.signature?_eq_some.mpr
    ⟨_, _, derived, printed.derived, ?_⟩⟩
  rw [args, result, anonymousParams, List.append_nil]
  exact ⟨wellFormed.distinct, rfl⟩

/-- The signatures that are read from some text are the well-formed ones. -/
theorem exists_parse_iff_wellFormed (signature : Signature) :
    (∃ text, Signature.parse text = .ok signature) ↔ signature.WellFormed := by
  constructor
  · rintro ⟨text, parsed⟩
    exact wellFormed_of_parse parsed
  · intro wellFormed
    exact ⟨signature.renderNamed, wellFormed.parse_renderNamed⟩

end Signature

/-! ### Names that are only told apart -/

namespace Term

mutual

/-- As being well formed, with nothing said of variables and constants but which of the two they
are. -/
def Classified : Term → Prop
  | .var name => isTermConstant name = false
  | .const name => isTermConstant name = true
  | .app head args => IsName head ∧ args ≠ [] ∧ ClassifiedArgs args
  | .lambda param body => IsName param ∧ isTermConstant param = false ∧ Classified body

def ClassifiedArgs : List Term → Prop
  | [] => True
  | arg :: args => Classified arg ∧ ClassifiedArgs args

end

end Term

namespace Ty

mutual

/-- As being well formed, with nothing said of variables and constants but which of the two they
are. -/
def Classified : Ty → Prop
  | .const name => isTypeConstant name = true
  | .var name => isTypeConstant name = false
  | .app head args => IsName head ∧ args ≠ [] ∧ ClassifiedArgs args
  | .eq left right => left.Classified ∧ right.Classified
  | .arrow source target => Classified source ∧ Classified target

def ClassifiedArgs : List Ty → Prop
  | [] => True
  | arg :: args => Classified arg ∧ ClassifiedArgs args

end

end Ty

namespace Signature

/-- As being well formed, with nothing said of the variables and constants in types and terms but
which of the two they are. -/
structure Classified (signature : Signature) : Prop where
  names : ∀ param ∈ signature.params, IsName param.name ∧ isTermConstant param.name = false
  types : ∀ param ∈ signature.params, param.type.Classified
  distinct : (signature.params.map Param.name).Nodup
  result : signature.result.Classified
  ends : ∀ source target, signature.result ≠ .arrow source target

/-- An equation with a numeral, as a variable. -/
def numeralEquation : Signature :=
  ⟨[], .eq (.var "1") (.const "Z")⟩

/-- No text is read as an equation with a numeral, though the numeral is no constant. -/
theorem classified_not_parsed :
    numeralEquation.Classified ∧ ∀ text, Signature.parse text ≠ .ok numeralEquation := by
  constructor
  · have left : isTermConstant "1" = false := by decide +kernel
    have right : isTermConstant "Z" = true := by decide +kernel
    exact ⟨List.forall_mem_nil _, List.forall_mem_nil _, List.nodup_nil, ⟨left, right⟩,
      fun _ _ => Ty.noConfusion⟩
  · intro text parsed
    have wellFormed := (wellFormed_of_parse parsed).result
    -- a numeral is refused as a name since it begins with a digit
    have legal : isIdentifier "1" = true := wellFormed.1.1.legal
    exact absurd legal (by decide)

end Signature

end ProofScript
