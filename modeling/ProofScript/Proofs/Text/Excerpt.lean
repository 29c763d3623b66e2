import ProofScript.Proofs.Text.Trimming
import ProofScript.Text.Excerpt

/-!
# Excerpts stand where they say

Every way to cut an excerpt gives a stretch of it, and the offset of that stretch is the number of
bytes before it. So the span of an excerpt that was cut out of a text covers its characters in that
text, both ends being between two characters, as long as the text is short enough for 32 bits.
-/
namespace ProofScript

open Text

/-! ### Counting bytes -/

namespace Text

theorem byteLength_reverse (chars : List Char) : byteLength chars.reverse = byteLength chars := by
  induction chars with
  | nil => rfl
  | cons c chars ih =>
    rw [List.reverse_cons, byteLength_append, byteLength_cons, byteLength_cons, ih]
    exact Nat.add_comm _ _

theorem byteLength_pos {chars : List Char} (nonempty : chars ≠ []) : 0 < byteLength chars := by
  obtain ⟨c, rest, rfl⟩ := List.exists_cons_of_ne_nil nonempty
  have positive := c.utf8Size_pos
  rw [byteLength_cons]
  omega

theorem byteLength_toList (text : String) : byteLength text.toList = text.utf8ByteSize := by
  have encoded : ∀ chars : List Char, byteLength chars = (String.ofList chars).utf8ByteSize := by
    intro chars
    induction chars with
    | nil => rfl
    | cons c chars ih =>
      rw [byteLength_cons, ih, String.ofList_cons, String.utf8ByteSize_append,
        String.utf8ByteSize_singleton]
  rw [encoded, String.ofList_toList]

end Text

/-- The bytes of `source` in the span are the characters `chars`. -/
def Span.Covers (span : Span) (source chars : List Char) : Prop :=
  ∃ before after, source = before ++ chars ++ after ∧
    span.start.toNat = byteLength before ∧ span.stop.toNat = byteLength before + byteLength chars

namespace Excerpt

/-- `part` is a stretch of `whole` and begins where it says. -/
def Within (part whole : Excerpt) : Prop :=
  ∃ before after, whole.chars = before ++ part.chars ++ after ∧
    part.offset = whole.offset + byteLength before

variable {part inner whole excerpt rest : Excerpt} {front : List Char} {mark : Char}

theorem Within.trans (first : inner.Within part) (second : part.Within whole) :
    inner.Within whole := by
  obtain ⟨before, after, chars, offset⟩ := first
  obtain ⟨before', after', chars', offset'⟩ := second
  refine ⟨before' ++ before, after ++ after', ?_, ?_⟩
  · rw [chars', chars]
    simp only [List.append_assoc]
  · rw [offset, offset', byteLength_append, Nat.add_assoc]

theorem Within.mem {c : Char} (within : part.Within whole) (member : c ∈ part.chars) :
    c ∈ whole.chars := by
  obtain ⟨before, after, chars, -⟩ := within
  rw [chars]
  exact List.mem_append_left _ (List.mem_append_right _ member)

theorem Within.stop_le (within : part.Within whole) :
    part.offset + byteLength part.chars ≤ whole.offset + byteLength whole.chars := by
  obtain ⟨before, after, chars, offset⟩ := within
  rw [chars, offset, byteLength_append, byteLength_append]
  omega

theorem within_skip (others : List Char) (begins : excerpt.chars = front ++ others) :
    (excerpt.skip front).Within excerpt := by
  refine ⟨front, [], ?_, rfl⟩
  rw [skip, begins, List.drop_left, List.append_nil]

theorem after?_eq_some (found : excerpt.after? front = some rest) :
    excerpt.chars = front ++ rest.chars ∧ rest.Within excerpt := by
  unfold after? at found
  split at found
  next begins =>
    obtain ⟨others, spelled⟩ := List.isPrefixOf_iff_prefix.mp begins
    rw [Option.some.injEq] at found
    subst found
    refine ⟨?_, within_skip others spelled.symm⟩
    rw [skip, ← spelled, List.drop_left]
  next => cases found

theorem within_before (excerpt : Excerpt) (mark : Char) : (excerpt.before mark).Within excerpt :=
  ⟨[], excerpt.chars.dropWhile (· != mark), by simp [before], rfl⟩

theorem split?_eq_some {left right : Excerpt} (found : excerpt.split? mark = some (left, right)) :
    mark ∉ left.chars ∧ left.Within excerpt ∧ right.Within excerpt := by
  unfold split? at found
  dsimp only at found
  split at found
  next present =>
    rw [Option.some.injEq, Prod.mk.injEq] at found
    obtain ⟨rfl, rfl⟩ := found
    refine ⟨?_, within_before excerpt mark, ?_⟩
    · intro member
      have differs := List.mem_takeWhile_imp member
      simp at differs
    · -- the mark is what stands behind everything that differs from it
      have member : mark ∈ excerpt.chars := List.contains_iff_mem.mp present
      have stops : excerpt.chars.dropWhile (· != mark) ≠ [] := by
        simpa [List.dropWhile_eq_nil_iff] using member
      obtain ⟨c, others, left⟩ := List.exists_cons_of_ne_nil stops
      have same : c = mark := by
        have head := List.head?_dropWhile_not (· != mark) excerpt.chars
        rw [left] at head
        simpa using head
      subst same
      refine within_skip others ?_
      rw [List.append_assoc, List.singleton_append, ← left, List.takeWhile_append_dropWhile]
  next => cases found

@[simp] theorem chars_trim (excerpt : Excerpt) : excerpt.trim.chars = Text.trim excerpt.chars := by
  have dropped : (excerpt.chars.takeWhile isBlank ++ excerpt.chars.dropWhile isBlank).drop
      (excerpt.chars.takeWhile isBlank).length = excerpt.chars.dropWhile isBlank :=
    List.drop_left
  rw [List.takeWhile_append_dropWhile] at dropped
  rw [trim, skip, Text.trim, trimLeft, dropped]

theorem within_trim (excerpt : Excerpt) : excerpt.trim.Within excerpt := by
  refine ⟨excerpt.chars.takeWhile isBlank, (trimLeft excerpt.chars).rtakeWhile isBlank, ?_, rfl⟩
  rw [chars_trim, append_trim_append]

/-- The span of an excerpt covers its characters in the text that it was cut out of. -/
theorem Within.covers {source : List Char} (within : excerpt.Within ⟨0, source⟩)
    (small : byteLength source < UInt32.size) : excerpt.span.Covers source excerpt.chars := by
  have inside := within.stop_le
  obtain ⟨before, after, spelled, offset⟩ := within
  simp only [Nat.zero_add] at inside offset
  refine ⟨before, after, spelled, ?_, ?_⟩
  · rw [← offset]
    exact UInt32.toNat_ofNat_of_lt' (by omega)
  · rw [← offset]
    exact UInt32.toNat_ofNat_of_lt' (by omega)

end Excerpt

end ProofScript
