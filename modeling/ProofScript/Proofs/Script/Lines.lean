import ProofScript.Proofs.Text.Excerpt
import ProofScript.Script

/-!
# The lines of a script

Splitting a text at its newlines gives one line more than there are newlines, each at its place in
the text, and the lines of two texts with a newline between them are those of the one followed by
those of the other. What is left of a line without its comment and the white space around it is on
that line still.
-/
namespace ProofScript

open Text

namespace Script

/-! ### Splitting -/

/-- The lines of two texts with a newline between them. -/
theorem splitLines_append (left right : List Char) (offset : Nat) (line : List Char) :
    splitLines offset line (left ++ '\n' :: right) =
      splitLines offset line left ++
        splitLines (offset + byteLength line + byteLength left + 1) [] right := by
  induction left generalizing offset line with
  | nil => simp [splitLines, byteLength]
  | cons c left ih =>
    by_cases newline : c = '\n'
    · have width : byteLength (c :: left) = 1 + byteLength left := by
        rw [newline, byteLength_cons]
        rfl
      have empty : byteLength [] = 0 := rfl
      rw [List.cons_append, splitLines, if_pos newline, splitLines, if_pos newline, ih,
        List.cons_append, width, empty]
      congr 3
      omega
    · rw [List.cons_append, splitLines, if_neg newline, splitLines, if_neg newline, ih,
        byteLength_cons, byteLength_cons]
      congr 2
      omega

theorem length_splitLines (chars : List Char) (offset : Nat) (line : List Char) :
    (splitLines offset line chars).length = chars.count '\n' + 1 := by
  induction chars generalizing offset line with
  | nil => rfl
  | cons c chars ih =>
    by_cases newline : c = '\n'
    · rw [splitLines, if_pos newline, List.length_cons, ih, newline, List.count_cons_self]
    · rw [splitLines, if_neg newline, ih, List.count_cons_of_ne newline]

/-- Each line stands in the text, and no newline is left in it. -/
theorem within_splitLines {chars line : List Char} {offset : Nat} {excerpt : Excerpt}
    (oneLine : '\n' ∉ line) (member : excerpt ∈ splitLines offset line chars) :
    excerpt.Within ⟨offset, line.reverse ++ chars⟩ ∧ '\n' ∉ excerpt.chars := by
  induction chars generalizing offset line with
  | nil =>
    rw [splitLines, List.mem_singleton] at member
    subst member
    exact ⟨⟨[], [], by simp, rfl⟩, by simpa using oneLine⟩
  | cons c chars ih =>
    by_cases newline : c = '\n'
    · subst newline
      rw [splitLines, if_pos rfl, List.mem_cons] at member
      rcases member with rfl | later
      · exact ⟨⟨[], '\n' :: chars, by simp, rfl⟩, by simpa using oneLine⟩
      · obtain ⟨within, inside⟩ := ih List.not_mem_nil later
        -- the rest of the text begins behind this line and the newline
        have rest : (⟨offset + byteLength line + 1, chars⟩ : Excerpt).Within
            ⟨offset, line.reverse ++ '\n' :: chars⟩ := by
          refine ⟨line.reverse ++ ['\n'], [], by simp, ?_⟩
          have width : byteLength ['\n'] = 1 := rfl
          rw [byteLength_append, byteLength_reverse, width, Nat.add_assoc]
        exact ⟨within.trans rest, inside⟩
    · rw [splitLines, if_neg newline] at member
      have extended : '\n' ∉ c :: line := by
        rw [List.mem_cons, not_or]
        exact ⟨Ne.symm newline, oneLine⟩
      obtain ⟨within, inside⟩ := ih extended member
      rw [List.reverse_cons, List.append_assoc] at within
      exact ⟨within, inside⟩

/-! ### Numbering -/

theorem numberLines_append (left right : List Excerpt) (number : Nat) :
    numberLines number (left ++ right) =
      numberLines number left ++ numberLines (number + left.length) right := by
  induction left generalizing number with
  | nil => rfl
  | cons excerpt left ih =>
    have count : number + 1 + left.length = number + (excerpt :: left).length := by
      rw [List.length_cons]
      omega
    rw [List.cons_append, numberLines, numberLines, ih, count]
    split <;> rfl

theorem mem_numberLines_cons {excerpt : Excerpt} {excerpts : List Excerpt} {number : Nat}
    {line : Line} (member : line ∈ numberLines number (excerpt :: excerpts)) :
    line = Line.ofExcerpt number excerpt ∨ line ∈ numberLines (number + 1) excerpts := by
  rw [numberLines] at member
  split at member
  · exact .inr member
  · exact List.mem_cons.mp member

theorem le_number_of_mem {excerpts : List Excerpt} {number : Nat} {line : Line}
    (member : line ∈ numberLines number excerpts) : number ≤ line.number := by
  induction excerpts generalizing number with
  | nil => cases member
  | cons excerpt excerpts ih =>
    rcases mem_numberLines_cons member with rfl | later
    · exact Nat.le_refl number
    · have above := ih later
      omega

/-- Lines are numbered in their order. -/
theorem pairwise_numberLines (excerpts : List Excerpt) (number : Nat) :
    (numberLines number excerpts).Pairwise (·.number < ·.number) := by
  induction excerpts generalizing number with
  | nil => exact .nil
  | cons excerpt excerpts ih =>
    rw [numberLines]
    split
    · exact ih (number + 1)
    · refine .cons ?_ (ih (number + 1))
      intro line member
      exact le_number_of_mem member

theorem mem_numberLines {excerpts : List Excerpt} {number : Nat} {line : Line}
    (member : line ∈ numberLines number excerpts) :
    ∃ excerpt ∈ excerpts, ∃ count, line = Line.ofExcerpt count excerpt ∧ line.code.chars ≠ [] := by
  induction excerpts generalizing number with
  | nil => cases member
  | cons excerpt excerpts ih =>
    rw [numberLines] at member
    split at member
    next =>
      obtain ⟨found, among, rest⟩ := ih member
      exact ⟨found, List.mem_cons_of_mem _ among, rest⟩
    next something =>
      rcases List.mem_cons.mp member with rfl | later
      · exact ⟨excerpt, List.mem_cons_self, number, rfl, by simpa using something⟩
      · obtain ⟨found, among, rest⟩ := ih later
        exact ⟨found, List.mem_cons_of_mem _ among, rest⟩

theorem codeLines_append (left right : String) :
    codeLines (left ++ "\n" ++ right) =
      codeLines left ++
        numberLines (1 + (left.toList.count '\n' + 1))
          (splitLines (left.utf8ByteSize + 1) [] right.toList) := by
  have characters : (left ++ "\n" ++ right).toList = left.toList ++ '\n' :: right.toList := by
    simp [String.toList_append]
  have empty : byteLength [] = 0 := rfl
  rw [codeLines, codeLines, characters, splitLines_append, numberLines_append, length_splitLines,
    byteLength_toList, empty, Nat.zero_add]

end Script

/-! ### Parts of a line -/

/-- A part of one line of `source`, without comment and with no white space around it. -/
structure Excerpt.OnLine (excerpt : Excerpt) (source : List Char) : Prop where
  within : excerpt.Within ⟨0, source⟩
  trimmed : Trimmed excerpt.chars
  oneLine : '\n' ∉ excerpt.chars
  noComment : '#' ∉ excerpt.chars

namespace Excerpt.OnLine

variable {excerpt part : Excerpt} {source : List Char}

/-- What is cut out of a part and trimmed is a part again. -/
theorem trim (onLine : excerpt.OnLine source) (within : part.Within excerpt)
    (something : part.trim.chars ≠ []) : part.trim.OnLine source where
  within := (within_trim part).trans (within.trans onLine.within)
  trimmed := by
    rw [chars_trim] at something ⊢
    exact trimmed_trim something
  oneLine member := onLine.oneLine (within.mem ((within_trim part).mem member))
  noComment member := onLine.noComment (within.mem ((within_trim part).mem member))

theorem covers (onLine : excerpt.OnLine source) (small : byteLength source < UInt32.size) :
    excerpt.span.Covers source excerpt.chars :=
  onLine.within.covers small

end Excerpt.OnLine

namespace Script

theorem onLine_of_mem_codeLines {text : String} {line : Line} (member : line ∈ codeLines text) :
    line.code.OnLine text.toList := by
  obtain ⟨excerpt, among, number, rfl, something⟩ := mem_numberLines member
  obtain ⟨within, oneLine⟩ := within_splitLines List.not_mem_nil among
  rw [List.reverse_nil, List.nil_append] at within
  have code : (excerpt.before '#').trim.Within excerpt :=
    (Excerpt.within_trim _).trans (Excerpt.within_before excerpt '#')
  refine ⟨code.trans within, ?_, fun newline => oneLine (code.mem newline), ?_⟩
  · rw [Line.ofExcerpt, Excerpt.chars_trim] at something ⊢
    exact trimmed_trim something
  · -- what stands before the first mark does not have the mark in it
    intro comment
    have before := List.mem_takeWhile_imp ((Excerpt.within_trim _).mem comment)
    simp at before

end Script

end ProofScript
