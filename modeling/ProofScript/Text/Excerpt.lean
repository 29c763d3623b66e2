import ProofScript.Source.Span
import ProofScript.Text.Blank
import ProofScript.Text.Bytes

/-!
# Excerpts

An excerpt is a stretch of a source text that remembers the byte offset at which it begins. Cutting
an excerpt gives excerpts, so each part of a line can be pointed at in the source.
-/
namespace ProofScript

open Text

structure Excerpt where
  offset : Nat
  chars : List Char
deriving DecidableEq

namespace Excerpt

def text (excerpt : Excerpt) : String :=
  String.ofList excerpt.chars

/-- Where the excerpt stands in the source. -/
def span (excerpt : Excerpt) : Span :=
  .ofNat excerpt.offset (excerpt.offset + byteLength excerpt.chars)

/-- What is left after the characters `front`, which the excerpt begins with. -/
def skip (excerpt : Excerpt) (front : List Char) : Excerpt :=
  ⟨excerpt.offset + byteLength front, excerpt.chars.drop front.length⟩

/-- What is left after `front`, if the excerpt begins with it. -/
def after? (excerpt : Excerpt) (front : List Char) : Option Excerpt :=
  if front.isPrefixOf excerpt.chars then some (excerpt.skip front) else none

/-- What stands before the first `mark`, or all of it if there is none. -/
def before (excerpt : Excerpt) (mark : Char) : Excerpt :=
  ⟨excerpt.offset, excerpt.chars.takeWhile (· != mark)⟩

/-- What stands before and after the first `mark`. -/
def split? (excerpt : Excerpt) (mark : Char) : Option (Excerpt × Excerpt) :=
  let front := excerpt.chars.takeWhile (· != mark)
  if excerpt.chars.contains mark then some (excerpt.before mark, excerpt.skip (front ++ [mark]))
  else none

/-- The excerpt without the white space around it. -/
def trim (excerpt : Excerpt) : Excerpt :=
  let rest := excerpt.skip (excerpt.chars.takeWhile isBlank)
  { rest with chars := trimRight rest.chars }

end Excerpt

end ProofScript
