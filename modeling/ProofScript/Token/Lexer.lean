import ProofScript.Text.Blank
import ProofScript.Text.WordChar
import ProofScript.Token

/-!
# From text to tokens

One pass over the characters. Marks of two characters are tried before those of one, and a name is
a maximal run of word characters, so the pass carries the run that is still open. A lambda may be
written with one backslash or with two.
-/
namespace ProofScript

open Text

/-- A character that no token begins with, and its byte offset in the text. -/
structure StrayCharacter where
  offset : Nat
  char : Char
deriving DecidableEq, Repr

/-- The tokens `read`, last first, followed by the name whose characters are `word`, last first. -/
def closeWord (word : List Char) (read : List Token) : List Token :=
  match word with
  | [] => read
  | _ => .ident (String.ofList word.reverse) :: read

/-- Reads on at byte `offset`, after the tokens `read` and within the name `word`. -/
def scan (offset : Nat) (word : List Char) (read : List Token) :
    List Char → Except StrayCharacter (List Token)
  | [] => .ok (closeWord word read).reverse
  | '-' :: '>' :: rest => scan (offset + 2) [] (.arrow :: closeWord word read) rest
  | '=' :: '>' :: rest => scan (offset + 2) [] (.fatArrow :: closeWord word read) rest
  | '\\' :: '\\' :: rest => scan (offset + 2) [] (.lambda :: closeWord word read) rest
  | c :: rest =>
    if isWordChar c then
      scan (offset + c.utf8Size) (c :: word) read rest
    else if isBlank c then
      scan (offset + c.utf8Size) [] (closeWord word read) rest
    else
      match Token.ofMark? c with
      | some mark => scan (offset + c.utf8Size) [] (mark :: closeWord word read) rest
      | none => .error ⟨offset, c⟩

/-- The tokens of `text`, or the first character that belongs to none. -/
def lex (text : String) : Except StrayCharacter (List Token) :=
  scan 0 [] [] text.toList

end ProofScript
