import ProofScript.Proofs.Grammar.WellFormed
import ProofScript.Proofs.Text.Trimming

/-!
# Printing stays on one line

What is printed for a well-formed tree is made of word characters, marks and blanks only, and begins
and ends with something that can be seen. So it can stand on a line of a script: it holds neither a
newline nor the beginning of a comment, and trimming the line leaves all of it.
-/
namespace ProofScript

open Text

/-- The characters that printing writes between names. -/
def printedMarks : List Char := [' ', '(', ')', '\\', '=', '>', '-', ':']

/-- Whether printing may write `c`. -/
def isPrinted (c : Char) : Bool :=
  isWordChar c || printedMarks.contains c

/-- Characters that may be printed, with no white space around them. -/
structure Printed (chars : List Char) : Prop where
  trimmed : Trimmed chars
  plain : ∀ c ∈ chars, isPrinted c = true

namespace Printed

variable {chars front rest : List Char} {text : String}

theorem newline_not_mem (printed : Printed chars) : '\n' ∉ chars := fun member =>
  absurd (printed.plain '\n' member) (by decide)

theorem comment_not_mem (printed : Printed chars) : '#' ∉ chars := fun member =>
  absurd (printed.plain '#' member) (by decide)

theorem append (begins : Printed front) (ends : Printed rest) (between : List Char)
    (plain : between.all isPrinted = true) : Printed (front ++ between ++ rest) where
  trimmed := begins.trimmed.append ends.trimmed between
  plain := by
    rw [List.all_eq_true] at plain
    simp only [List.forall_mem_append]
    exact ⟨⟨begins.plain, plain⟩, ends.plain⟩

/-- A single mark. -/
theorem mark {c : Char} (seen : isBlank c = false) (plain : isPrinted c = true) :
    Printed [c] where
  trimmed := trimmed_of_seen (List.cons_ne_nil c []) (by simpa using seen)
  plain := by simpa using plain

theorem parens (printed : Printed text.toList) : Printed ("(" ++ text ++ ")").toList := by
  have opened := (mark (by decide) (by decide) : Printed ['(']).append printed [] (by simp)
  have closed := opened.append (mark (by decide) (by decide) : Printed [')']) [] (by simp)
  rw [String.toList_append, String.toList_append]
  simpa using closed

theorem parensUnless (printed : Printed text.toList) (bare : Bool) :
    Printed (Text.parensUnless bare text).toList := by
  cases bare with
  | true => exact printed
  | false => exact printed.parens

end Printed

theorem IsName.printed {name : String} (isName : IsName name) : Printed name.toList where
  trimmed := by
    refine trimmed_of_seen isName.nonempty (List.any_eq_false.mpr ?_)
    intro c member
    simp [isBlank_of_isWordChar (isName.word c member)]
  plain c member := by
    rw [isPrinted, isName.word c member, Bool.true_or]

namespace Term

mutual

theorem printed_render : (term : Term) → term.WellFormed → Printed term.render.toList
  | .var _, wellFormed => wellFormed.1.printed
  | .const _, wellFormed => wellFormed.1.printed
  | .app head args, wellFormed => by
    have whole := wellFormed.1.printed.append
      (printed_renderArgs args wellFormed.2.2 wellFormed.2.1) [' '] (by decide)
    simpa [render, String.toList_append] using whole
  | .lambda param body, wellFormed => by
    have body := printed_render body wellFormed.2.2
    have arrow := wellFormed.1.printed.append body " => ".toList (by decide)
    have whole := (Printed.mark (by decide) (by decide) : Printed ['\\']).append arrow
      [] (by simp)
    simpa [render, String.toList_append] using whole

theorem printed_renderArgs : (args : List Term) → WellFormedArgs args → args ≠ [] →
    Printed (renderArgs args).toList
  | [], _, several => absurd rfl several
  | [arg], wellFormed, _ => (printed_render arg wellFormed.1).parensUnless arg.isAtomic
  | arg :: other :: args, wellFormed, _ => by
    have first := (printed_render arg wellFormed.1).parensUnless arg.isAtomic
    have more := printed_renderArgs (other :: args) wellFormed.2 (List.cons_ne_nil _ _)
    have whole := first.append more [' '] (by decide)
    simpa [renderArgs, String.toList_append] using whole

end

end Term

namespace Ty

mutual

theorem printed_render : (type : Ty) → type.WellFormed → Printed type.render.toList
  | .const _, wellFormed => wellFormed.1.printed
  | .var _, wellFormed => wellFormed.1.printed
  | .app head args, wellFormed => by
    have whole := wellFormed.1.printed.append
      (printed_renderArgs args wellFormed.2.2 wellFormed.2.1) [' '] (by decide)
    simpa [render, String.toList_append] using whole
  | .eq left right, wellFormed => by
    have whole := (left.printed_render wellFormed.1).append (right.printed_render wellFormed.2)
      " = ".toList (by decide)
    simpa [render, String.toList_append] using whole
  | .arrow source target, wellFormed => by
    have first := (printed_render source wellFormed.1).parensUnless source.isArrowSource
    have whole := first.append (printed_render target wellFormed.2) " -> ".toList (by decide)
    simpa [render, String.toList_append] using whole

theorem printed_renderArgs : (args : List Ty) → WellFormedArgs args → args ≠ [] →
    Printed (renderArgs args).toList
  | [], _, several => absurd rfl several
  | [arg], wellFormed, _ => (printed_render arg wellFormed.1).parensUnless arg.isAtomic
  | arg :: other :: args, wellFormed, _ => by
    have first := (printed_render arg wellFormed.1).parensUnless arg.isAtomic
    have more := printed_renderArgs (other :: args) wellFormed.2 (List.cons_ne_nil _ _)
    have whole := first.append more [' '] (by decide)
    simpa [renderArgs, String.toList_append] using whole

end

end Ty

theorem Param.printed_render {param : Param} (wellFormed : param.WellFormed) :
    Printed param.render.toList := by
  have type := param.type.printed_render wellFormed.type
  unfold Param.render
  split
  · exact type.parensUnless param.type.isArrowSource
  · have inside := wellFormed.name.printed.append type " : ".toList (by decide)
    have whole : Printed (param.name ++ " : " ++ param.type.render).toList := by
      simpa [String.toList_append] using inside
    simpa [String.toList_append] using whole.parens

namespace Signature

/-- Parameters are printed before something. -/
theorem printed_renderParams {params : List Param} {chars : List Char}
    (wellFormed : ∀ param ∈ params, param.WellFormed) (printed : Printed chars) :
    Printed ((renderParams params).toList ++ chars) := by
  induction params with
  | nil => simpa [renderParams] using printed
  | cons param params ih =>
    rw [List.forall_mem_cons] at wellFormed
    have whole := (Param.printed_render wellFormed.1).append (ih wellFormed.2)
      " -> ".toList (by decide)
    simpa [renderParams, String.toList_append] using whole

/-- The text of a signature stays on one line. -/
theorem WellFormed.printed_render {signature : Signature} (wellFormed : signature.WellFormed) :
    Printed signature.render.toList := by
  have result := signature.result.printed_render wellFormed.result
  rw [render, String.toList_append]
  exact printed_renderParams wellFormed.params result

end Signature

end ProofScript
