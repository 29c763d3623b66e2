import ProofScript.Grammar
import ProofScript.Proofs.Outcome

/-!
# Reading a list of characters

What a text is read as depends on its characters only. Stated for texts that are given by their
characters, this lets the reading of a literal be computed without decoding it first.
-/
namespace ProofScript

/-- What `characters` are read as, if they can be read. -/
def readCharacters? {α : Type} (read : List Token → Except GrammarError α)
    (characters : List Char) : Option α :=
  match scan 0 [] [] characters with
  | .ok tokens => (read tokens).toOption
  | .error _ => none

theorem readText_ofList {α : Type} {read : List Token → Except GrammarError α}
    {characters : List Char} {result : α}
    (spelled : readCharacters? read characters = some result) :
    readText read (String.ofList characters) = .ok result := by
  unfold readCharacters? at spelled
  cases scanned : scan 0 [] [] characters with
  | error stray =>
    rw [scanned] at spelled
    cases spelled
  | ok tokens =>
    rw [scanned] at spelled
    have lexed : lex (String.ofList characters) = .ok tokens := by
      rw [lex, String.toList_ofList, scanned]
    exact bind_eq_ok.mpr ⟨tokens, mapError_eq_ok.mpr lexed,
      mapError_eq_ok.mpr (toOption_eq_some.mp spelled)⟩

theorem Signature.parse_ofList (characters : List Char) {signature : Signature}
    (spelled : readCharacters? Grammar.signature characters = some signature) :
    Signature.parse (String.ofList characters) = .ok signature :=
  readText_ofList spelled

theorem Term.parse_ofList (characters : List Char) {term : Term}
    (spelled : readCharacters? (Grammar.complete Grammar.term) characters = some term) :
    Term.parse (String.ofList characters) = .ok term :=
  readText_ofList spelled

theorem Ty.parse_ofList (characters : List Char) {type : Ty}
    (spelled : readCharacters? (Grammar.complete Grammar.type) characters = some type) :
    Ty.parse (String.ofList characters) = .ok type :=
  readText_ofList spelled

end ProofScript
