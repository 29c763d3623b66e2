import Mathlib.Data.Nat.Count
import Mathlib.Data.Nat.Find
import Mathlib.Order.Bounds.Basic
import ProofScript.Proofs.Source.Stretch

/-!
# Positions and the bytes of a text

The lines of a text are found by its characters, while positions are about the bytes of its UTF-8
encoding. Both see the same newlines: a newline is encoded as one byte, and that byte is not part of
the encoding of any other character. So the position of an offset is what counting newlines among
the bytes before it gives, whether the offset is inside of the text, on a newline, in the middle of
a character or behind the end.

## Main results

`positionAt_eq`: lines and columns are those that are counted, if they fit 32 bits.

`countedPosition_before`: a greater offset has a greater position.

`endOfLine_spec`: a line ends at the least position from the offset on that holds a newline.
-/
namespace ProofScript

open Text

/-! ### Newlines among bytes -/

/-- The bytes of the UTF-8 encoding. -/
def utf8Bytes (text : String) : List UInt8 :=
  text.toUTF8.data.toList

/-- The byte at `position` is a newline. -/
def NewlineAt (text : String) (position : Nat) : Prop :=
  (utf8Bytes text)[position]? = some 10

instance (text : String) : DecidablePred (NewlineAt text) :=
  fun _ => inferInstanceAs (Decidable (_ = _))

theorem utf8Bytes_eq (text : String) :
    utf8Bytes text = text.toList.flatMap String.utf8EncodeChar := by
  rw [utf8Bytes, String.toUTF8_eq_toByteArray, ← String.utf8Encode_toList, List.utf8Encode,
    List.toList_data_toByteArray]

theorem ofNat_ne_newline {number : Nat} (high : 128 ≤ number) (small : number < 256) :
    UInt8.ofNat number ≠ 10 := by
  intro same
  have value := congrArg UInt8.toNat same
  rw [UInt8.toNat_ofNat_of_lt' small] at value
  change number = 10 at value
  omega

/-- The byte of a newline is part of the encoding of no other character. -/
theorem newline_not_mem_utf8EncodeChar {c : Char} (other : c ≠ '\n') :
    10 ∉ String.utf8EncodeChar c := by
  have differs : c.val.toNat ≠ 10 := fun same => other (Char.ext (UInt32.toNat_inj.mp same))
  intro member
  unfold String.utf8EncodeChar at member
  dsimp only at member
  split_ifs at member with one two three
  · have small : c.val.toNat < 256 := by omega
    have value := congrArg UInt8.toNat (List.mem_singleton.mp member)
    rw [UInt8.toNat_ofNat_of_lt' small] at value
    exact differs value.symm
  -- all bytes of a longer encoding have their highest bit set
  all_goals simp only [List.mem_cons, List.not_mem_nil, or_false] at member
  · rcases member with same | same <;>
      exact ofNat_ne_newline (by omega) (by omega) same.symm
  · rcases member with same | same | same <;>
      exact ofNat_ne_newline (by omega) (by omega) same.symm
  · rcases member with same | same | same | same <;>
      exact ofNat_ne_newline (by omega) (by omega) same.symm

theorem newlinesFrom_eq_findIdxs (chars : List Char) (offset : Nat) :
    newlinesFrom offset chars =
      (chars.flatMap String.utf8EncodeChar).findIdxs (· == 10) offset := by
  induction chars generalizing offset with
  | nil => rfl
  | cons c chars ih =>
    rw [List.flatMap_cons, List.findIdxs_append, newlinesFrom]
    split
    next newline =>
      rw [newline, ih]
      rfl
    next other =>
      have none : (String.utf8EncodeChar c).findIdxs (· == 10) offset = [] := by
        rw [List.findIdxs_eq_nil_iff]
        intro byte member
        rw [beq_eq_false_iff_ne]
        rintro rfl
        exact newline_not_mem_utf8EncodeChar other member
      rw [none, List.nil_append, String.length_utf8EncodeChar, ih]

theorem newlines_eq_findIdxs (text : String) :
    newlines text = (utf8Bytes text).findIdxs (· == 10) := by
  rw [newlines, newlinesFrom_eq_findIdxs, utf8Bytes_eq]

theorem mem_newlines {text : String} {position : Nat} :
    position ∈ newlines text ↔ NewlineAt text position := by
  rw [newlines_eq_findIdxs, List.mem_findIdxs_iff_exists_getElem_pos, NewlineAt,
    List.getElem?_eq_some_iff]
  simp

theorem pairwise_newlines (text : String) : (newlines text).Pairwise (· < ·) := by
  rw [newlines_eq_findIdxs]
  exact List.pairwise_findIdxs

/-! ### Newlines before an offset -/

theorem count_newlineAt (text : String) (offset : Nat) :
    Nat.count (NewlineAt text) offset = ((utf8Bytes text).take offset).countP (· == 10) := by
  induction offset with
  | zero => simp
  | succ offset ih =>
    rw [Nat.count_succ, ih, List.take_add_one, List.countP_append]
    cases found : (utf8Bytes text)[offset]? with
    | none => simp [NewlineAt, found]
    | some byte => simp [NewlineAt, found, List.countP_cons]

/-- The newlines of a text, cut at an offset: the `earlier` ones stand before it. -/
structure NewlinesCut (text : String) (offset : Nat) (earlier later : List Nat) : Prop where
  split : newlines text = earlier ++ later
  before : ∀ newline ∈ earlier, newline < offset
  behind : ∀ newline ∈ later, offset ≤ newline
  count : earlier.length = Nat.count (NewlineAt text) offset

theorem exists_newlinesCut (text : String) (offset : Nat) :
    ∃ earlier later, NewlinesCut text offset earlier later := by
  have whole := List.take_append_drop offset (utf8Bytes text)
  refine ⟨((utf8Bytes text).take offset).findIdxs (· == 10),
    ((utf8Bytes text).drop offset).findIdxs (· == 10) ((utf8Bytes text).take offset).length,
    ?_, ?_, ?_, ?_⟩
  · rw [newlines_eq_findIdxs]
    nth_rewrite 1 [← whole]
    rw [List.findIdxs_append, Nat.zero_add]
  · intro newline member
    have inside := List.lt_add_of_mem_findIdxs newline member
    have short := List.length_take_le offset (utf8Bytes text)
    omega
  · intro newline member
    have inside := List.ge_of_mem_findIdxs newline member
    have bounded := List.lt_add_of_mem_findIdxs newline member
    rw [List.length_take] at inside bounded
    rw [List.length_drop] at bounded
    omega
  · rw [List.length_findIdxs, count_newlineAt]

namespace NewlinesCut

variable {text : String} {offset newline : Nat} {earlier later : List Nat}

theorem mem_earlier (cut : NewlinesCut text offset earlier later) (found : NewlineAt text newline)
    (early : newline < offset) : newline ∈ earlier := by
  rw [← mem_newlines, cut.split, List.mem_append] at found
  rcases found with member | member
  · exact member
  · have late := cut.behind newline member
    omega

theorem mem_later (cut : NewlinesCut text offset earlier later) (found : NewlineAt text newline)
    (late : offset ≤ newline) : newline ∈ later := by
  rw [← mem_newlines, cut.split, List.mem_append] at found
  rcases found with member | member
  · have early := cut.before newline member
    omega
  · exact member

theorem newlineAt (cut : NewlinesCut text offset earlier later)
    (member : newline ∈ earlier ++ later) : NewlineAt text newline := by
  rwa [← mem_newlines, cut.split]

theorem pairwise (cut : NewlinesCut text offset earlier later) :
    (earlier ++ later).Pairwise (· < ·) := by
  rw [← cut.split]
  exact pairwise_newlines text

end NewlinesCut

/-! ### Positions -/

/-- The position stands right behind a newline. -/
def BehindNewline (text : String) (position : Nat) : Prop :=
  0 < position ∧ NewlineAt text (position - 1)

instance (text : String) : DecidablePred (BehindNewline text) :=
  fun _ => inferInstanceAs (Decidable (_ ∧ _))

/-- The position right behind the last newline before `offset`, or zero if there is none. -/
def lineStartBefore (text : String) (offset : Nat) : Nat :=
  Nat.findGreatest (BehindNewline text) offset

/-- The position of an offset by counting: as many lines as there are newlines before it come before
its own, and the column counts from the last one of them. -/
def countedPosition (text : String) (offset : Nat) : Position where
  line := 1 + Nat.count (NewlineAt text) offset
  column := 1 + offset - lineStartBefore text offset

namespace Position

/-- Line and column fit 32 bits. -/
def Fits (position : Position) : Prop :=
  position.line < UInt32.size ∧ position.column < UInt32.size

instance (position : Position) : Decidable position.Fits :=
  inferInstanceAs (Decidable (_ ∧ _))

/-- The lexicographic order of positions. -/
def Before (first second : Position) : Prop :=
  first.line < second.line ∨ first.line = second.line ∧ first.column < second.column

end Position

theorem lineStartBefore_le (text : String) (offset : Nat) : lineStartBefore text offset ≤ offset :=
  Nat.findGreatest_le offset

/-- The last line that begins at or before an offset begins right behind the last newline. -/
theorem NewlinesCut.getLast?_starts {text : String} {offset : Nat} {earlier later : List Nat}
    (cut : NewlinesCut text offset earlier later) :
    (0 :: earlier.map (· + 1)).getLast? = some (lineStartBefore text offset) := by
  rcases List.eq_nil_or_concat' earlier with rfl | ⟨others, last, rfl⟩
  · have none : lineStartBefore text offset = 0 := by
      refine Nat.findGreatest_eq_zero_iff.mpr ?_
      rintro position - inside ⟨positive, found⟩
      exact List.not_mem_nil (cut.mem_earlier found (by omega))
    rw [none]
    rfl
  · have begins : lineStartBefore text offset = last + 1 := by
      have member : last ∈ others ++ [last] := by simp
      have found : NewlineAt text last := cut.newlineAt (List.mem_append_left later member)
      refine Nat.findGreatest_eq_iff.mpr ⟨cut.before last member, fun _ => ⟨by omega, found⟩, ?_⟩
      rintro position beyond inside ⟨positive, found'⟩
      -- a newline between the last one and the offset would come after it in the list
      rcases List.mem_append.mp (cut.mem_earlier found' (by omega)) with listed | same
      · have sorted := (List.pairwise_append.mp cut.pairwise).1
        have below := (List.pairwise_append.mp sorted).2.2 _ listed last (by simp)
        omega
      · have equal := List.mem_singleton.mp same
        omega
    rw [begins, List.map_append, ← List.cons_append]
    exact List.getLast?_concat

theorem positionAt_eq (text : String) (offset : Nat) :
    positionAt text offset =
      if (countedPosition text offset).Fits then some (countedPosition text offset) else none := by
  obtain ⟨earlier, later, cut⟩ := exists_newlinesCut text offset
  have line : (0 :: earlier.map (· + 1)).length = (countedPosition text offset).line := by
    simp [countedPosition, cut.count, Nat.add_comm]
  have column : offset - lineStartBefore text offset + 1 = (countedPosition text offset).column := by
    have bound := lineStartBefore_le text offset
    simp only [countedPosition]
    omega
  rw [positionAt, positionIn, takeWhile_lineStarts cut.split cut.before cut.behind,
    cut.getLast?_starts, Option.getD_some, line, column]
  simp only [Position.Fits, Bool.and_eq_true, decide_eq_true_eq]
  rfl

theorem eq_countedPosition {text : String} {offset : Nat} {position : Position}
    (found : positionAt text offset = some position) : position = countedPosition text offset := by
  rw [positionAt_eq, Option.ite_none_right_eq_some] at found
  exact (Option.some.inj found.2).symm

/-- A greater offset has a greater position. -/
theorem countedPosition_before (text : String) {offset later : Nat} (ordered : offset < later) :
    (countedPosition text offset).Before (countedPosition text later) := by
  have lines : Nat.count (NewlineAt text) offset ≤ Nat.count (NewlineAt text) later :=
    Nat.count_monotone _ ordered.le
  rcases lines.lt_or_eq with fewer | same
  · exact .inl (Nat.add_lt_add_left fewer 1)
  · -- no newline stands between them, so they are on one line
    have none : ∀ newline, NewlineAt text newline → offset ≤ newline → ¬ newline < later := by
      intro newline found above below
      have more := Nat.count_strict_mono found below
      have least : Nat.count (NewlineAt text) offset ≤ Nat.count (NewlineAt text) newline :=
        Nat.count_monotone _ above
      omega
    have start : lineStartBefore text later = lineStartBefore text offset := by
      refine Nat.findGreatest_eq_iff.mpr ⟨(lineStartBefore_le text offset).trans ordered.le,
        Nat.findGreatest_of_ne_zero rfl, ?_⟩
      rintro position beyond inside ⟨positive, found⟩
      by_cases early : position ≤ offset
      · exact Nat.findGreatest_is_greatest beyond early ⟨positive, found⟩
      · exact none _ found (by omega) (by omega)
    have bound := lineStartBefore_le text offset
    refine .inr ⟨congrArg (1 + ·) same, ?_⟩
    simp only [countedPosition, start]
    omega

/-! ### Ends of lines -/

/-- A line ends at the first newline from the offset on, or else with the text. -/
theorem endOfLine_spec (text : String) (offset : Nat) :
    IsLeast {newline | offset ≤ newline ∧ NewlineAt text newline} (endOfLine text offset) ∨
      (∀ newline, offset ≤ newline → ¬ NewlineAt text newline) ∧
        endOfLine text offset = text.utf8ByteSize := by
  obtain ⟨earlier, later, cut⟩ := exists_newlinesCut text offset
  have skipped : earlier.find? (offset ≤ ·) = none := by
    simpa using cut.before
  rw [endOfLine, cut.split, List.find?_append, skipped, Option.none_or]
  cases later with
  | nil => exact .inr ⟨fun newline late found => List.not_mem_nil (cut.mem_later found late), rfl⟩
  | cons first others =>
    have late := cut.behind first List.mem_cons_self
    have found : NewlineAt text first := cut.newlineAt (by simp)
    rw [List.find?_cons_of_pos (by simpa using late), Option.getD_some]
    refine .inl ⟨⟨late, found⟩, ?_⟩
    rintro newline ⟨late', found'⟩
    rcases List.mem_cons.mp (cut.mem_later found' late') with rfl | member
    · exact Nat.le_refl _
    · have sorted := (List.pairwise_append.mp cut.pairwise).2.1
      exact ((List.pairwise_cons.mp sorted).1 newline member).le

end ProofScript
