/-!
# Spans

A span is a half-open range of byte offsets in a source text, each of 32 bits. A span that ends at
zero is the null span: it points nowhere.
-/
namespace ProofScript

structure Span where
  start : UInt32
  stop : UInt32
deriving DecidableEq, Repr

namespace Span

/-- The span with the given ends, reduced to 32 bits. -/
def ofNat (start stop : Nat) : Span :=
  ⟨.ofNat start, .ofNat stop⟩

/-- The span that points nowhere. -/
def null : Span :=
  ⟨0, 0⟩

def isNull (span : Span) : Bool :=
  span.stop == 0

def isEmpty (span : Span) : Bool :=
  span.start == span.stop

/-- The number of bytes. -/
def length (span : Span) : Nat :=
  span.stop.toNat - span.start.toNat

/-- What is left of the span from `offset` bytes in, or the span itself if nothing is. -/
def drop (span : Span) (offset : Nat) : Span :=
  if span.stop.toNat ≤ span.start.toNat + offset then span
  else ofNat (span.start.toNat + offset) span.stop.toNat

end Span

end ProofScript
