import ProofScript.Text.Bytes

/-!
# Lines of a source text

Where the lines of a text begin, and on which line a byte offset lies. Lines and columns count from
one, columns in bytes, and both are reported only when they fit 32 bits.

A cache keeps the line starts of every buffer it was asked about, so that they are found once. It
knows a buffer by its place in memory and does not look at the text again.
-/
namespace ProofScript

/-- A line and a column on it. -/
structure Position where
  line : Nat
  column : Nat
deriving DecidableEq, Repr

/-- The byte offsets of the newlines of a text that begins at `offset`. -/
def newlinesFrom (offset : Nat) : List Char → List Nat
  | [] => []
  | c :: rest =>
    if c = '\n' then offset :: newlinesFrom (offset + 1) rest
    else newlinesFrom (offset + c.utf8Size) rest

/-- The byte offsets of the newlines of `text`. -/
def newlines (text : String) : List Nat :=
  newlinesFrom 0 text.toList

/-- The byte offsets at which the lines of `text` begin. -/
def lineStarts (text : String) : List Nat :=
  0 :: (newlines text).map (· + 1)

/-- The position of the byte at `offset`, given where the lines begin. -/
def positionIn (starts : List Nat) (offset : Nat) : Option Position :=
  let before := starts.takeWhile (· ≤ offset)
  let line := before.length
  let column := offset - before.getLast?.getD 0 + 1
  if line < UInt32.size && column < UInt32.size then some ⟨line, column⟩ else none

/-- The position of the byte at `offset` in `text`. -/
def positionAt (text : String) (offset : Nat) : Option Position :=
  positionIn (lineStarts text) offset

/-- The offset of the first newline at or after `offset`, or the length of the text. -/
def endOfLine (text : String) (offset : Nat) : Nat :=
  ((newlines text).find? (offset ≤ ·)).getD text.utf8ByteSize

/-- A text that stands in memory from `address` on. -/
structure Buffer where
  address : Nat
  text : String

/-- The place that the buffer takes up: its address and its length in bytes. -/
def Buffer.place (buffer : Buffer) : Nat × Nat :=
  (buffer.address, buffer.text.utf8ByteSize)

/-- The line starts of the buffers asked about so far, by the places of the buffers. -/
structure PositionCache where
  known : List ((Nat × Nat) × List Nat)

namespace PositionCache

def empty : PositionCache :=
  ⟨[]⟩

/-- The line starts of the text in `buffer`, which are kept. -/
def starts (cache : PositionCache) (buffer : Buffer) : List Nat × PositionCache :=
  match cache.known.lookup buffer.place with
  | some starts => (starts, cache)
  | none =>
    let starts := lineStarts buffer.text
    (starts, ⟨(buffer.place, starts) :: cache.known⟩)

/-- The position of the byte at `offset` of the text in `buffer`. -/
def positionAt (cache : PositionCache) (buffer : Buffer) (offset : Nat) :
    Option Position × PositionCache :=
  let (starts, cache) := cache.starts buffer
  (positionIn starts offset, cache)

end PositionCache

end ProofScript
