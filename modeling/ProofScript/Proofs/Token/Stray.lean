import ProofScript.Grammar
import ProofScript.Proofs.Outcome
import ProofScript.Proofs.Text.Excerpt
import ProofScript.Proofs.Token.Spelling

/-!
# Stray characters

A character that no token begins with is reported together with the number of bytes before it. It
comes before any violation of the grammar, and the grammar itself reports none.
-/
namespace ProofScript

open Text

/-- The character stands in `chars`, a text that begins at `offset`, where it says. -/
def StrayCharacter.In (stray : StrayCharacter) (offset : Nat) (chars : List Char) : Prop :=
  ∃ before after, chars = before ++ stray.char :: after ∧
    stray.offset = offset + byteLength before

variable {stray : StrayCharacter}

theorem StrayCharacter.In.behind {offset : Nat} {chars : List Char} (front : List Char)
    (rest : stray.In (offset + byteLength front) chars) : stray.In offset (front ++ chars) := by
  obtain ⟨before, after, split, counted⟩ := rest
  refine ⟨front ++ before, after, ?_, ?_⟩
  · rw [split, List.append_assoc]
  · rw [counted, byteLength_append, Nat.add_assoc]

/-- The scanner counts the bytes that it has read, whatever they are read as. -/
theorem stray_of_scan {offset : Nat} {word : List Char} {tokens : List Token} {chars : List Char}
    (refused : scan offset word tokens chars = .error stray) : stray.In offset chars := by
  fun_induction scan offset word tokens chars with
  | case1 => cases refused
  | case2 offset word tokens rest ih => exact (ih refused).behind ['-', '>']
  | case3 offset word tokens rest ih => exact (ih refused).behind ['=', '>']
  | case4 offset word tokens rest ih => exact (ih refused).behind ['\\', '\\']
  | case5 offset word tokens c rest _ _ _ _ ih => exact (ih refused).behind [c]
  | case6 offset word tokens c rest _ _ _ _ _ ih => exact (ih refused).behind [c]
  | case7 offset word tokens c rest _ _ _ _ _ _ _ ih => exact (ih refused).behind [c]
  | case8 offset word tokens c rest =>
    cases refused
    exact ⟨[], rest, rfl, rfl⟩

theorem stray_of_readText {α : Type} {read : List Token → Except GrammarError α} {text : String}
    (refused : readText read text = .error (.stray stray)) : stray.In 0 text.toList := by
  rcases bind_eq_error.mp refused with lexical | ⟨tokens, -, grammatical⟩
  · obtain ⟨found, scanned, same⟩ := mapError_eq_error.mp lexical
    cases same
    exact stray_of_scan scanned
  · obtain ⟨cause, -, other⟩ := mapError_eq_error.mp grammatical
    cases other

end ProofScript
