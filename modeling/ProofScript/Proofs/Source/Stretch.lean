import ProofScript.Proofs.Text.Excerpt
import ProofScript.Source.Position

/-!
# Stretches of a line

A stretch is a part of one line of a text, together with the rest of that line and with the lines
before and after it. Its position counts the newlines before the line and the bytes before the
stretch on the line, the line begins as many bytes before the stretch as the column says, and it
ends at the first newline from the end of the stretch on.

Whatever has no newline in it is a stretch of the line that it stands on.
-/
namespace ProofScript

open Text

/-! ### Newlines -/

section Newlines

variable {chars : List Char} {offset newline : Nat}

theorem newlinesFrom_append (left right : List Char) (offset : Nat) :
    newlinesFrom offset (left ++ right) =
      newlinesFrom offset left ++ newlinesFrom (offset + byteLength left) right := by
  induction left generalizing offset with
  | nil => simp [newlinesFrom, byteLength]
  | cons c left ih =>
    by_cases newline : c = '\n'
    · have width : c.utf8Size = 1 := by rw [newline]; rfl
      simp [newlinesFrom, newline, ih, byteLength_cons, ← width, Nat.add_assoc]
    · simp [newlinesFrom, newline, ih, byteLength_cons, Nat.add_assoc]

theorem newlinesFrom_of_not_mem (oneLine : '\n' ∉ chars) (offset : Nat) :
    newlinesFrom offset chars = [] := by
  induction chars generalizing offset with
  | nil => rfl
  | cons c chars ih =>
    rw [List.mem_cons, not_or] at oneLine
    rw [newlinesFrom, if_neg (Ne.symm oneLine.1), ih oneLine.2]

theorem length_newlinesFrom (chars : List Char) (offset : Nat) :
    (newlinesFrom offset chars).length = chars.count '\n' := by
  induction chars generalizing offset with
  | nil => rfl
  | cons c chars ih =>
    by_cases newline : c = '\n'
    · simp [newlinesFrom, newline, ih]
    · simp [newlinesFrom, newline, ih]

/-- A newline is within the text that it was found in. -/
theorem bounds_of_mem_newlinesFrom (member : newline ∈ newlinesFrom offset chars) :
    offset ≤ newline ∧ newline < offset + byteLength chars := by
  induction chars generalizing offset with
  | nil => cases member
  | cons c chars ih =>
    have positive := c.utf8Size_pos
    rw [byteLength_cons]
    rw [newlinesFrom] at member
    split at member
    next =>
      rcases List.mem_cons.mp member with rfl | later
      · omega
      · have bounds := ih later
        omega
    next =>
      have bounds := ih member
      omega

/-- A newline takes up a byte. -/
theorem count_newline_le (chars : List Char) : chars.count '\n' ≤ byteLength chars := by
  induction chars with
  | nil => exact Nat.le_refl 0
  | cons c chars ih =>
    have positive := c.utf8Size_pos
    have count : (c :: chars).count '\n' ≤ chars.count '\n' + 1 := by
      rw [List.count_cons]
      split <;> omega
    rw [byteLength_cons]
    omega

/-- The lines that begin at or before an offset are the first one and those behind the newlines
before it. -/
theorem takeWhile_lineStarts {text : String} {earlier later : List Nat}
    (split : newlines text = earlier ++ later) (before : ∀ newline ∈ earlier, newline < offset)
    (behind : ∀ newline ∈ later, offset ≤ newline) :
    (lineStarts text).takeWhile (· ≤ offset) = 0 :: earlier.map (· + 1) := by
  have begun : ∀ start ∈ 0 :: earlier.map (· + 1), decide (start ≤ offset) = true := by
    simpa [Nat.succ_le_iff] using before
  have ahead : (later.map (· + 1)).takeWhile (· ≤ offset) = [] := by
    cases later with
    | nil => rfl
    | cons newline later =>
      have bound := behind newline List.mem_cons_self
      rw [List.map_cons, List.takeWhile_cons_of_neg]
      simp only [decide_eq_true_eq]
      omega
  rw [lineStarts, split, List.map_append, ← List.cons_append, List.takeWhile_append_of_pos begun,
    ahead, List.append_nil]

end Newlines

/-! ### Stretches -/

/-- A stretch of a complete line: before the line is nothing or a newline, and so it is behind. -/
structure Stretch (text : String) where
  /-- The lines before, with their newlines. -/
  earlier : List Char
  /-- What stands before the stretch on its line. -/
  lead : List Char
  chars : List Char
  /-- What stands behind the stretch on its line. -/
  trail : List Char
  /-- The lines after, each behind its newline. -/
  later : List Char
  spelled : text.toList = earlier ++ (lead ++ chars ++ trail) ++ later
  begins : earlier = [] ∨ ∃ others, earlier = others ++ ['\n']
  ends : later = [] ∨ ∃ others, later = '\n' :: others
  oneLine : '\n' ∉ lead ++ chars ++ trail

namespace Stretch

variable {text : String} (stretch : Stretch text)

/-- The line that the stretch is on. -/
def line : List Char :=
  stretch.lead ++ stretch.chars ++ stretch.trail

/-- The byte offset at which the line begins. -/
def lineStart : Nat :=
  byteLength stretch.earlier

/-- The byte offset at which the line ends. -/
def lineStop : Nat :=
  stretch.lineStart + byteLength stretch.line

/-- The byte offset at which the stretch begins. -/
def start : Nat :=
  stretch.lineStart + byteLength stretch.lead

/-- The byte offset at which the stretch ends. -/
def stop : Nat :=
  stretch.start + byteLength stretch.chars

/-- The position at which the stretch begins. -/
def position : Position :=
  ⟨stretch.earlier.count '\n' + 1, byteLength stretch.lead + 1⟩

theorem lineStart_le_start : stretch.lineStart ≤ stretch.start :=
  Nat.le_add_right _ _

theorem start_le_stop : stretch.start ≤ stretch.stop :=
  Nat.le_add_right _ _

theorem byteLength_line :
    byteLength stretch.line =
      byteLength stretch.lead + byteLength stretch.chars + byteLength stretch.trail := by
  rw [line, byteLength_append, byteLength_append]

theorem stop_le_lineStop : stretch.stop ≤ stretch.lineStop := by
  rw [stop, start, lineStop, byteLength_line]
  omega

theorem utf8ByteSize_eq : text.utf8ByteSize = stretch.lineStop + byteLength stretch.later := by
  rw [← byteLength_toList, stretch.spelled, byteLength_append, byteLength_append, lineStop,
    lineStart, line]

theorem stop_le : stretch.stop ≤ text.utf8ByteSize := by
  have inside := stretch.stop_le_lineStop
  have size := stretch.utf8ByteSize_eq
  omega

/-- The newlines of the text are before the line or behind it. -/
theorem newlines_eq :
    newlines text = newlinesFrom 0 stretch.earlier ++
      newlinesFrom stretch.lineStop stretch.later := by
  have within : newlinesFrom (byteLength stretch.earlier) stretch.line = [] :=
    newlinesFrom_of_not_mem stretch.oneLine _
  have spelled : text.toList = stretch.earlier ++ stretch.line ++ stretch.later :=
    stretch.spelled
  rw [newlines, spelled, newlinesFrom_append, newlinesFrom_append, Nat.zero_add, Nat.zero_add,
    byteLength_append, within, List.append_nil]
  rfl

/-- The last line that begins before the stretch is the one that it is on. -/
theorem getLast?_starts :
    (0 :: (newlinesFrom 0 stretch.earlier).map (· + 1)).getLast? = some stretch.lineStart := by
  rcases stretch.begins with first | ⟨others, behind⟩
  · rw [lineStart, first]
    rfl
  · have last : newlinesFrom 0 stretch.earlier = newlinesFrom 0 others ++ [byteLength others] := by
      rw [behind, newlinesFrom_append, Nat.zero_add]
      rfl
    have width : byteLength ['\n'] = 1 := rfl
    rw [lineStart, last, behind, byteLength_append, width, List.map_append, ← List.cons_append]
    exact List.getLast?_concat

/-- The lines that begin at or before an offset on the line are those up to this one. -/
theorem takeWhile_lineStarts {offset : Nat} (begins : stretch.lineStart ≤ offset)
    (ends : offset ≤ stretch.lineStop) :
    (lineStarts text).takeWhile (· ≤ offset) =
      0 :: (newlinesFrom 0 stretch.earlier).map (· + 1) := by
  refine ProofScript.takeWhile_lineStarts stretch.newlines_eq ?_ ?_
  · intro newline among
    have bounds := bounds_of_mem_newlinesFrom among
    rw [lineStart] at begins
    omega
  · intro newline among
    have bounds := bounds_of_mem_newlinesFrom among
    omega

/-- The position of an offset on the line, the end of the line included. -/
theorem positionAt_onLine (small : text.utf8ByteSize < UInt32.size - 1) {offset : Nat}
    (begins : stretch.lineStart ≤ offset) (ends : offset ≤ stretch.lineStop) :
    positionAt text offset =
      some ⟨stretch.earlier.count '\n' + 1, offset - stretch.lineStart + 1⟩ := by
  have size := stretch.utf8ByteSize_eq
  have count := count_newline_le stretch.earlier
  have start : stretch.lineStart = byteLength stretch.earlier := rfl
  have lineFits : stretch.earlier.count '\n' + 1 < UInt32.size := by omega
  have columnFits : offset - stretch.lineStart + 1 < UInt32.size := by omega
  rw [positionAt, positionIn, stretch.takeWhile_lineStarts begins ends, getLast?_starts,
    List.length_cons, List.length_map, length_newlinesFrom, Option.getD_some, if_pos]
  simp [lineFits, columnFits]

/-- The stretch is found at its position. -/
theorem positionAt_start (small : text.utf8ByteSize < UInt32.size - 1) :
    positionAt text stretch.start = some stretch.position := by
  have ends := stretch.start_le_stop.trans stretch.stop_le_lineStop
  have column : stretch.start - stretch.lineStart = byteLength stretch.lead :=
    Nat.add_sub_cancel_left ..
  rw [stretch.positionAt_onLine small stretch.lineStart_le_start ends, column]
  rfl

/-- The line ends at the first newline from the end of the stretch on, if there is one. -/
theorem endOfLine_stop : endOfLine text stretch.stop = stretch.lineStop := by
  -- the newlines before the line are before the stretch
  have none : (newlinesFrom 0 stretch.earlier).find? (stretch.stop ≤ ·) = none := by
    rw [List.find?_eq_none]
    intro newline member
    have bounds := bounds_of_mem_newlinesFrom member
    have start : stretch.start = byteLength stretch.earlier + byteLength stretch.lead := rfl
    have ordered := stretch.start_le_stop
    simp only [decide_eq_true_eq]
    omega
  rw [endOfLine, newlines_eq, List.find?_append, none, Option.none_or]
  rcases stretch.ends with last | ⟨others, behind⟩
  · have size := stretch.utf8ByteSize_eq
    rw [last] at size ⊢
    exact size
  · rw [behind, newlinesFrom, if_pos rfl, List.find?_cons_of_pos, Option.getD_some]
    exact decide_eq_true stretch.stop_le_lineStop

theorem slice?_line : slice? stretch.lineStart stretch.lineStop text.toList = some stretch.line :=
  slice?_eq_some_iff.mpr ⟨stretch.earlier, stretch.later, stretch.spelled, rfl, rfl⟩

/-- A line with a smaller number ends before the other one begins. -/
theorem lineStop_lt_lineStart {first second : Stretch text}
    (ordered : first.position.line < second.position.line) :
    first.lineStop < second.lineStart := by
  have fewer : first.earlier.count '\n' < second.earlier.count '\n' :=
    Nat.lt_of_succ_lt_succ ordered
  have none : first.line.count '\n' = 0 := List.count_eq_zero.mpr first.oneLine
  have spelled : first.earlier ++ first.line ++ first.later =
      second.earlier ++ (second.line ++ second.later) := by
    rw [← List.append_assoc]
    exact first.spelled.symm.trans second.spelled
  rcases List.append_eq_append_iff.mp spelled with ⟨between, split, -⟩ | ⟨behind, split, -⟩
  · -- the first line is among those before the second one, and a newline stands between them
    have counted := congrArg (List.count '\n') split
    rw [List.count_append, List.count_append, none] at counted
    have nonempty : between ≠ [] := by
      rintro rfl
      rw [List.count_nil] at counted
      omega
    have positive := byteLength_pos nonempty
    rw [lineStop, lineStart, lineStart, split, byteLength_append, byteLength_append]
    omega
  · -- the lines before the second one end on the first one, so there are no more newlines in them
    have counted := congrArg (List.count '\n') split
    rw [List.count_append, List.count_append, none] at counted
    omega

end Stretch

/-! ### Finding the line -/

/-- The last line of a text and the lines before it. -/
theorem exists_lastLine (chars : List Char) :
    ∃ earlier lead, chars = earlier ++ lead ∧ '\n' ∉ lead ∧
      (earlier = [] ∨ ∃ others, earlier = others ++ ['\n']) := by
  induction chars using List.reverseRecOn with
  | nil => exact ⟨[], [], rfl, List.not_mem_nil, .inl rfl⟩
  | append_singleton chars c ih =>
    by_cases newline : c = '\n'
    · exact ⟨chars ++ [c], [], by simp, List.not_mem_nil, .inr ⟨chars, by rw [newline]⟩⟩
    · obtain ⟨earlier, lead, split, oneLine, begins⟩ := ih
      refine ⟨earlier, lead ++ [c], by rw [split, List.append_assoc], ?_, begins⟩
      simp [oneLine, Ne.symm newline]

/-- The first line of a text and the lines after it. -/
theorem exists_firstLine (chars : List Char) :
    ∃ trail later, chars = trail ++ later ∧ '\n' ∉ trail ∧
      (later = [] ∨ ∃ others, later = '\n' :: others) := by
  by_cases member : '\n' ∈ chars
  · obtain ⟨trail, others, split, oneLine⟩ := List.eq_append_cons_of_mem member
    exact ⟨trail, '\n' :: others, split, oneLine, .inr ⟨others, rfl⟩⟩
  · exact ⟨chars, [], (List.append_nil chars).symm, member, .inl rfl⟩

/-- What a span covers, if it has no newline in it, is a stretch of a line. -/
theorem Span.Covers.exists_stretch {text : String} {span : Span} {chars : List Char}
    (covers : span.Covers text.toList chars) (oneLine : '\n' ∉ chars) :
    ∃ stretch : Stretch text, stretch.chars = chars ∧ span.start.toNat = stretch.start ∧
      span.stop.toNat = stretch.stop := by
  obtain ⟨before, after, spelled, start, stop⟩ := covers
  obtain ⟨earlier, lead, rfl, leadLine, begins⟩ := exists_lastLine before
  obtain ⟨trail, later, rfl, trailLine, ends⟩ := exists_firstLine after
  have whole : text.toList = earlier ++ (lead ++ chars ++ trail) ++ later := by
    rw [spelled]
    simp only [List.append_assoc]
  have line : '\n' ∉ lead ++ chars ++ trail := by
    simp [leadLine, oneLine, trailLine]
  rw [byteLength_append] at start stop
  exact ⟨⟨earlier, lead, chars, trail, later, whole, begins, ends, line⟩, rfl, start, stop⟩

end ProofScript
