import Mathlib.Data.List.DropRight
import ProofScript.Text.Blank
import ProofScript.Text.WordChar

/-!
# Trimming

Trimming takes white space off both ends of a text and nothing else. So a text that begins and ends
with something else is found again when it is written with white space around it and trimmed.
-/
namespace ProofScript.Text

/-- A text with something on it and no white space around it. -/
structure Trimmed (text : List Char) : Prop where
  nonempty : text ≠ []
  first : ∀ c, text.head? = some c → isBlank c = false
  last : ∀ c, text.getLast? = some c → isBlank c = false

/-- A text without white space in it is trimmed. -/
theorem trimmed_of_seen {text : List Char} (nonempty : text ≠ [])
    (seen : text.any isBlank = false) : Trimmed text where
  nonempty := nonempty
  first c found := by
    have member : c ∈ text := List.mem_of_mem_head? found
    simpa using List.any_eq_false.mp seen c member
  last c found := by
    have member : c ∈ text := List.mem_of_getLast? found
    simpa using List.any_eq_false.mp seen c member

/-- A text is what trimming leaves of it, with what trimming takes off on both sides. -/
theorem append_trim_append (text : List Char) :
    text.takeWhile isBlank ++ trim text ++ (trimLeft text).rtakeWhile isBlank = text := by
  have right : trim text ++ (trimLeft text).rtakeWhile isBlank = trimLeft text :=
    List.rdropWhile_append_rtakeWhile
  have left : text.takeWhile isBlank ++ trimLeft text = text := List.takeWhile_append_dropWhile
  rw [List.append_assoc, right, left]

theorem trimmed_trim {text : List Char} (something : trim text ≠ []) : Trimmed (trim text) where
  nonempty := something
  first c found := by
    -- the first character that is left stood first after the leading white space
    have front : trim text <+: trimLeft text := List.rdropWhile_prefix isBlank _
    obtain ⟨tail, whole⟩ := front
    have begins : (trimLeft text).head? = some c := by
      rw [← whole, List.head?_append_of_ne_nil _ something, found]
    have outside := List.head?_dropWhile_not isBlank text
    rw [← trimLeft, begins] at outside
    exact outside
  last c found := by
    have ends := List.rdropWhile_last_not isBlank (trimLeft text) something
    rw [List.getLast?_eq_some_getLast something, Option.some.injEq] at found
    rw [← found]
    exact Bool.not_eq_true _ ▸ ends

/-- A trimmed text is found again between white space. -/
theorem Trimmed.trim_surrounded {text lead tail : List Char} (trimmed : Trimmed text)
    (blankLead : ∀ c ∈ lead, isBlank c = true) (blankTail : ∀ c ∈ tail, isBlank c = true) :
    trim (lead ++ text ++ tail) = text := by
  obtain ⟨c, rest, spelled⟩ := List.exists_cons_of_ne_nil trimmed.nonempty
  have first : isBlank c = false := trimmed.first c (by rw [spelled]; rfl)
  have left : trimLeft (lead ++ text ++ tail) = text ++ tail := by
    rw [trimLeft, List.append_assoc, List.dropWhile_append_of_pos blankLead, spelled,
      List.cons_append, List.dropWhile_cons_of_neg (by simp [first])]
  obtain ⟨front, d, ending⟩ := (List.eq_nil_or_concat' text).resolve_left trimmed.nonempty
  have last : isBlank d = false := trimmed.last d (by rw [ending]; simp)
  rw [trim, left, trimRight, List.reverse_append,
    List.dropWhile_append_of_pos (by simpa using blankTail), ending, List.reverse_append,
    List.reverse_singleton, List.singleton_append, List.dropWhile_cons_of_neg (by simp [last]),
    List.reverse_cons, List.reverse_reverse]

theorem Trimmed.trim_eq {text : List Char} (trimmed : Trimmed text) : trim text = text := by
  have none : ∀ c ∈ ([] : List Char), isBlank c = true := List.forall_mem_nil _
  simpa using trimmed.trim_surrounded none none

theorem Trimmed.append {front rest : List Char} (begins : Trimmed front) (ends : Trimmed rest)
    (between : List Char) : Trimmed (front ++ between ++ rest) where
  nonempty := by simp [begins.nonempty]
  first c found := by
    rw [List.append_assoc, List.head?_append_of_ne_nil _ begins.nonempty] at found
    exact begins.first c found
  last c found := by
    rw [List.getLast?_append_of_ne_nil _ ends.nonempty] at found
    exact ends.last c found

/-! ### Words are not white space -/

/-- All white space there is. -/
def blanks : List Char :=
  blankRanges.flatMap fun (first, last) =>
    (List.range (last + 1 - first)).map fun number => .ofNat (first + number)

theorem mem_blanks {c : Char} (blank : isBlank c = true) : c ∈ blanks := by
  simp only [isBlank, inRanges, List.any_eq_true, Bool.and_eq_true, decide_eq_true_eq] at blank
  obtain ⟨⟨first, last⟩, listed, above, below⟩ := blank
  refine List.mem_flatMap.mpr ⟨(first, last), listed, List.mem_map.mpr ⟨c.toNat - first, ?_, ?_⟩⟩
  · rw [List.mem_range]
    omega
  · rw [Nat.add_sub_cancel' above, Char.ofNat_toNat]

theorem isBlank_of_isWordChar {c : Char} (word : isWordChar c = true) : isBlank c = false := by
  have apart : blanks.any isWordChar = false := by decide +kernel
  rw [← Bool.not_eq_true]
  intro blank
  exact List.any_eq_false.mp apart c (mem_blanks blank) word

theorem isWordChar_of_isBlank {c : Char} (blank : isBlank c = true) : isWordChar c = false := by
  rw [← Bool.not_eq_true]
  intro word
  rw [isBlank_of_isWordChar word] at blank
  cases blank

end ProofScript.Text
