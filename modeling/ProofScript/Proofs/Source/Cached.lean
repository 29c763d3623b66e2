import ProofScript.Proofs.Source.Counting

/-!
# Cached positions

A cache knows a buffer by its place in memory. So it may give the lines of another text, if that one
stood in the same place before. While all buffers that it is asked about are held in one memory,
this cannot happen: the bytes at a place are those of every buffer there.

That what is known is right for all buffers held in the memory is `PositionCache.Valid`. One query
keeps it, hence every sequence of queries does, and each answer is that of a cache that was never
asked before.

## Main result

`positions_by_counting`: positions are found by counting newlines, greater offsets have greater
positions, lines end at the next newline, and what a cache was asked before does not matter.
-/
namespace ProofScript

/-! ### Buffers in memory -/

/-- The text of the buffer stands in `memory`, byte by byte. -/
def Buffer.HeldIn (memory : Nat → UInt8) (buffer : Buffer) : Prop :=
  ∀ (index : Nat) (_ : index < (utf8Bytes buffer.text).length),
    memory (buffer.address + index) = (utf8Bytes buffer.text)[index]

instance (memory : Nat → UInt8) (buffer : Buffer) : Decidable (buffer.HeldIn memory) :=
  Nat.decidableBallLT _ _

theorem length_utf8Bytes (text : String) : (utf8Bytes text).length = text.utf8ByteSize := by
  rw [utf8Bytes, String.toUTF8_eq_toByteArray, Array.length_toList, ← String.size_toByteArray]
  rfl

theorem utf8Bytes_injective {text other : String} (same : utf8Bytes text = utf8Bytes other) :
    text = other := by
  rw [utf8Bytes, utf8Bytes, String.toUTF8_eq_toByteArray, String.toUTF8_eq_toByteArray,
    Array.toList_inj] at same
  exact String.toByteArray_inj.mp (ByteArray.ext same)

/-- Buffers that are held in one memory and take up the same place have the same text. -/
theorem Buffer.HeldIn.text_eq {memory : Nat → UInt8} {left right : Buffer}
    (held : left.HeldIn memory) (held' : right.HeldIn memory) (same : left.place = right.place) :
    left.text = right.text := by
  obtain ⟨address, size⟩ := Prod.mk.inj same
  rw [← length_utf8Bytes, ← length_utf8Bytes] at size
  apply utf8Bytes_injective
  apply List.ext_getElem size
  intro index inside inside'
  -- both have the byte that the memory holds there
  rw [← held index inside, ← held' index inside', address]

/-! ### Queries -/

namespace PositionCache

variable {memory : Nat → UInt8} {cache : PositionCache} {buffer : Buffer}

/-- What the cache knows about a place are the line starts of any buffer that takes it up. -/
def Valid (memory : Nat → UInt8) (cache : PositionCache) : Prop :=
  ∀ (buffer : Buffer) (starts : List Nat), buffer.HeldIn memory →
    cache.known.lookup buffer.place = some starts → starts = lineStarts buffer.text

theorem valid_empty : empty.Valid memory := by
  intro buffer starts _ found
  cases found

/-- What the cache knows about the place of the buffer, if anything, are the line starts of its
text. -/
def RightAbout (cache : PositionCache) (buffer : Buffer) : Prop :=
  ∀ starts, cache.known.lookup buffer.place = some starts → starts = lineStarts buffer.text

theorem rightAbout_empty (buffer : Buffer) : empty.RightAbout buffer := by
  intro starts found
  cases found

theorem Valid.rightAbout (valid : cache.Valid memory) (held : buffer.HeldIn memory) :
    cache.RightAbout buffer :=
  fun starts found => valid buffer starts held found

theorem RightAbout.starts_eq (right : cache.RightAbout buffer) :
    (cache.starts buffer).1 = lineStarts buffer.text := by
  unfold starts
  split
  next starts found => exact right starts found
  next => rfl

theorem RightAbout.starts (right : cache.RightAbout buffer) :
    (cache.starts buffer).2.RightAbout buffer := by
  unfold PositionCache.starts
  split
  next => exact right
  next =>
    intro starts found
    rw [List.lookup_cons_self, Option.some.injEq] at found
    exact found.symm

theorem RightAbout.positionAt_eq (right : cache.RightAbout buffer) (offset : Nat) :
    (cache.positionAt buffer offset).1 = ProofScript.positionAt buffer.text offset :=
  congrArg (positionIn · offset) right.starts_eq

/-- A query keeps what is known right. -/
theorem Valid.starts (valid : cache.Valid memory) (held : buffer.HeldIn memory) :
    (cache.starts buffer).2.Valid memory := by
  unfold PositionCache.starts
  split
  next => exact valid
  next =>
    intro other starts held' found
    simp only [List.lookup_cons] at found
    split at found
    next same =>
      -- the same place, hence the same text
      have place : other.place = buffer.place := by simpa using same
      rw [held'.text_eq held place]
      exact (Option.some.inj found).symm
    next => exact valid other starts held' found

/-- The answer of a cache that was never asked before. -/
theorem positionAt_empty (buffer : Buffer) (offset : Nat) :
    (empty.positionAt buffer offset).1 = ProofScript.positionAt buffer.text offset := rfl

/-- The answers to queries for the positions of offsets in buffers, asked one after the other. -/
def answers (cache : PositionCache) : List (Buffer × Nat) → List (Option Position)
  | [] => []
  | (buffer, offset) :: queries =>
    let (position, cache) := cache.positionAt buffer offset
    position :: cache.answers queries

theorem Valid.answers_eq (valid : cache.Valid memory) {queries : List (Buffer × Nat)}
    (held : ∀ query ∈ queries, query.1.HeldIn memory) :
    cache.answers queries =
      queries.map fun query => ProofScript.positionAt query.1.text query.2 := by
  induction queries generalizing cache with
  | nil => rfl
  | cons query queries ih =>
    obtain ⟨first, others⟩ := List.forall_mem_cons.mp held
    have rest := ih (valid.starts first) others
    rw [List.map_cons, ← (valid.rightAbout first).positionAt_eq, ← rest]
    rfl

end PositionCache

/-! ### Main theorem -/

/-- Positions and ends of lines are what counting newlines gives, whatever was asked before. -/
theorem positions_by_counting {memory : Nat → UInt8} {queries : List (Buffer × Nat)}
    (held : ∀ query ∈ queries, query.1.HeldIn memory) :
    (∀ (buffer : Buffer) (offset : Nat), (countedPosition buffer.text offset).Fits →
      (PositionCache.empty.positionAt buffer offset).1 =
        some (countedPosition buffer.text offset)) ∧
    (∀ (buffer : Buffer) (offset later : Nat) (position position' : Position), offset < later →
      (PositionCache.empty.positionAt buffer offset).1 = some position →
      (PositionCache.empty.positionAt buffer later).1 = some position' →
      position.Before position') ∧
    (∀ (text : String) (offset : Nat),
      IsLeast {newline | offset ≤ newline ∧ NewlineAt text newline} (endOfLine text offset) ∨
        (∀ newline, offset ≤ newline → ¬ NewlineAt text newline) ∧
          endOfLine text offset = text.utf8ByteSize) ∧
    PositionCache.empty.answers queries =
      queries.map fun query => (PositionCache.empty.positionAt query.1 query.2).1 := by
  refine ⟨?_, ?_, endOfLine_spec, PositionCache.valid_empty.answers_eq held⟩
  · intro buffer offset fits
    rw [PositionCache.positionAt_empty, positionAt_eq, if_pos fits]
  · intro buffer offset later position position' ordered found found'
    rw [eq_countedPosition found, eq_countedPosition found']
    exact countedPosition_before buffer.text ordered

/-- A memory with two newlines in a row and a character of two bytes in it. -/
def page (address : Nat) : UInt8 :=
  ([120, 10, 10, 195, 169] : List UInt8).getD address 0

/-- The whole page, what is behind its first letter, and its first line, which begins where the
whole page does. -/
def wholePage : Buffer := ⟨0, String.ofList ['x', '\n', '\n', 'é']⟩

def restOfPage : Buffer := ⟨1, String.ofList ['\n', '\n', 'é']⟩

def firstLine : Buffer := ⟨0, String.ofList ['x', '\n']⟩

def pageQueries : List (Buffer × Nat) :=
  [(wholePage, 4), (firstLine, 1), (wholePage, 2), (restOfPage, 1), (firstLine, 9)]

theorem positions_by_counting_page :
    (∀ query ∈ pageQueries, query.1.HeldIn page) ∧
      PositionCache.empty.answers pageQueries =
        [some ⟨3, 2⟩, some ⟨1, 2⟩, some ⟨2, 1⟩, some ⟨2, 1⟩, some ⟨2, 8⟩] := by
  have held : ∀ query ∈ pageQueries, query.1.HeldIn page := by decide +kernel
  refine ⟨held, ?_⟩
  rw [(positions_by_counting held).2.2.2]
  decide +kernel

-- a second text in the place of the first one, which no memory holds both, gets the lines of that
example : PositionCache.empty.answers
    [(⟨0, String.ofList ['\n', 'x']⟩, 2), (⟨0, String.ofList ['x', 'x']⟩, 2)] =
      [some ⟨2, 2⟩, some ⟨2, 2⟩] := by
  decide +kernel

end ProofScript
