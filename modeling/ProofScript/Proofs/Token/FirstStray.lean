import ProofScript.Proofs.Text.Excerpt
import ProofScript.Proofs.Token.Spelling

/-!
# The first stray character

Whether a character is stray is decided by its two neighbours: `>` belongs to the `-` or `=` right
before it, and `-` to the `>` right behind it. All other characters are told apart by themselves.

The scanner takes one or two characters at a time, so it might lose track of a neighbour. It does
not, since it never stops between the two characters of an arrow. This is `OutsideArrow`, the
invariant of the scan, and `scan_outcome` follows from it by induction along the scan.

## Main result

`lex_refuses_first_stray`: a text is cut into tokens if and only if no character of it is stray, and
otherwise the first stray character is reported, with the number of bytes before it.
-/
namespace ProofScript

open Text

/-- The character `c`, standing between `before` and `after`, belongs to no token. -/
def IsStray (before : List Char) (c : Char) (after : List Char) : Prop :=
  isBlank c = false ∧ isWordChar c = false ∧ c ∉ ['(', ')', ':', ',', '=', '\\'] ∧
    ¬ (c = '-' ∧ after.head? = some '>') ∧
    ¬ (c = '>' ∧ (before.getLast? = some '-' ∨ before.getLast? = some '='))

instance (before : List Char) (c : Char) (after : List Char) : Decidable (IsStray before c after) :=
  inferInstanceAs (Decidable (_ ∧ _))

/-- None of `chars`, which stand between `before` and `after`, is stray. -/
def NoneStray (before chars after : List Char) : Prop :=
  ∀ front c back, chars = front ++ c :: back → ¬ IsStray (before ++ front) c (back ++ after)

/-- The first stray character of `chars`, which begin at byte `offset` and stand behind `before`. -/
def StrayCharacter.FirstIn (stray : StrayCharacter) (offset : Nat) (before chars : List Char) :
    Prop :=
  ∃ front after, chars = front ++ stray.char :: after ∧
    stray.offset = offset + byteLength front ∧ IsStray (before ++ front) stray.char after ∧
    NoneStray before front (stray.char :: after)

variable {offset : Nat} {before chars after rest : List Char} {c : Char}

theorem noneStray_nil : NoneStray before [] after := by
  intro front c back spelled
  simp at spelled

theorem NoneStray.cons (first : ¬ IsStray before c (chars ++ after))
    (others : NoneStray (before ++ [c]) chars after) : NoneStray before (c :: chars) after := by
  intro front d back spelled
  cases front with
  | nil =>
    obtain ⟨rfl, rfl⟩ := List.cons.inj spelled
    rwa [List.append_nil]
  | cons e front =>
    obtain ⟨rfl, split⟩ := List.cons.inj spelled
    have none := others front d back split
    rwa [List.append_assoc, List.singleton_append] at none

theorem StrayCharacter.FirstIn.cons {stray : StrayCharacter} (first : ¬ IsStray before c chars)
    (later : stray.FirstIn (offset + c.utf8Size) (before ++ [c]) chars) :
    stray.FirstIn offset before (c :: chars) := by
  obtain ⟨front, after, rfl, counted, isStray, none⟩ := later
  refine ⟨c :: front, after, rfl, ?_, ?_, none.cons first⟩
  · rw [counted, byteLength_cons, Nat.add_assoc]
  · rwa [List.append_assoc, List.singleton_append] at isStray

theorem StrayCharacter.FirstIn.not_noneStray {stray : StrayCharacter}
    (first : stray.FirstIn offset before chars) : ¬ NoneStray before chars [] := by
  obtain ⟨front, after, spelled, -, isStray, -⟩ := first
  intro none
  apply none front stray.char after spelled
  rwa [List.append_nil]

/-- A text has at most one first stray character. -/
theorem StrayCharacter.FirstIn.unique {stray other : StrayCharacter}
    (first : stray.FirstIn offset before chars) (second : other.FirstIn offset before chars) :
    stray = other := by
  obtain ⟨front, after, spelled, counted, isStray, none⟩ := first
  obtain ⟨front', after', spelled', counted', isStray', none'⟩ := second
  rw [spelled] at spelled'
  -- if one of them stood before the other, then the other one would not be the first
  have same : front = front' := by
    rcases List.append_eq_append_iff.mp spelled' with ⟨between, rfl, tail⟩ | ⟨between, rfl, tail⟩
    · cases between with
      | nil => exact (List.append_nil front).symm
      | cons d between =>
        obtain ⟨rfl, rfl⟩ := List.cons.inj tail
        exact absurd isStray (none' front _ between rfl)
    · cases between with
      | nil => exact List.append_nil front'
      | cons d between =>
        obtain ⟨rfl, rfl⟩ := List.cons.inj tail
        exact absurd isStray' (none front' _ between rfl)
  subst same
  obtain ⟨sameChar, -⟩ := List.cons.inj (List.append_cancel_left spelled')
  cases stray
  cases other
  simp_all

/-! ### The scan -/

theorem ofMark?_eq_none : Token.ofMark? c = none ↔ c ∉ ['(', ')', ':', ',', '=', '\\'] := by
  unfold Token.ofMark?
  split <;> simp_all

/-- Before `chars` no arrow is cut in two. -/
def OutsideArrow (before chars : List Char) : Prop :=
  chars.head? = some '>' → before.getLast? ≠ some '-' ∧ before.getLast? ≠ some '='

theorem outsideArrow_append (before : List Char) (c : Char)
    (apart : chars.head? = some '>' → c ≠ '-' ∧ c ≠ '=') : OutsideArrow (before ++ [c]) chars := by
  intro begins
  simpa using apart begins

/-- What the scan of `chars` says about stray characters, if it ends in `outcome`. -/
def StrayOutcome (offset : Nat) (before chars : List Char) :
    Except StrayCharacter (List Token) → Prop
  | .ok _ => NoneStray before chars []
  | .error stray => stray.FirstIn offset before chars

theorem StrayOutcome.cons {outcome : Except StrayCharacter (List Token)}
    (first : ¬ IsStray before c chars)
    (later : StrayOutcome (offset + c.utf8Size) (before ++ [c]) chars outcome) :
    StrayOutcome offset before (c :: chars) outcome := by
  cases outcome with
  | ok tokens => exact NoneStray.cons (by rwa [List.append_nil]) later
  | error stray => exact StrayCharacter.FirstIn.cons first later

theorem scan_outcome {word : List Char} {read : List Token} (outside : OutsideArrow before chars) :
    StrayOutcome offset before chars (scan offset word read chars) := by
  fun_induction scan offset word read chars generalizing before with
  | case1 => exact noneStray_nil
  | case2 offset word read rest ih =>
    have tail := ih (outsideArrow_append (before ++ ['-']) '>' fun _ => by decide)
    exact StrayOutcome.cons (by simp [IsStray]) (StrayOutcome.cons (by simp [IsStray]) tail)
  | case3 offset word read rest ih =>
    have tail := ih (outsideArrow_append (before ++ ['=']) '>' fun _ => by decide)
    exact StrayOutcome.cons (by simp [IsStray]) (StrayOutcome.cons (by simp [IsStray]) tail)
  | case4 offset word read rest ih =>
    have tail := ih (outsideArrow_append (before ++ ['\\']) '\\' fun _ => by decide)
    exact StrayOutcome.cons (by simp [IsStray]) (StrayOutcome.cons (by simp [IsStray]) tail)
  | case5 offset word read c rest _ _ _ inside ih =>
    have apart : c ≠ '-' ∧ c ≠ '=' := by
      constructor <;> (rintro rfl; exact absurd inside (by decide))
    have tail := ih (outsideArrow_append before c fun _ => apart)
    exact StrayOutcome.cons (by simp [IsStray, inside]) tail
  | case6 offset word read c rest _ _ _ _ blank ih =>
    have apart : c ≠ '-' ∧ c ≠ '=' := by
      constructor <;> (rintro rfl; exact absurd blank (by decide))
    have tail := ih (outsideArrow_append before c fun _ => apart)
    exact StrayOutcome.cons (by simp [IsStray, blank]) tail
  | case7 offset word read c rest _ single _ _ _ mark found ih =>
    have marked : c ∈ ['(', ')', ':', ',', '=', '\\'] := by
      by_contra unmarked
      rw [ofMark?_eq_none.mpr unmarked] at found
      cases found
    -- an equals sign is read as a mark of its own only if no tip follows
    have apart : rest.head? = some '>' → c ≠ '-' ∧ c ≠ '=' := by
      intro begins
      obtain ⟨others, rfl⟩ := List.head?_eq_some_iff.mp begins
      refine ⟨?_, fun equals => single others equals rfl⟩
      rintro rfl
      exact absurd marked (by decide)
    have tail := ih (outsideArrow_append before c apart)
    exact StrayOutcome.cons (fun isStray => isStray.2.2.1 marked) tail
  | case8 offset word read c rest arrow _ _ noWord seen unmarked =>
    refine ⟨[], rest, rfl, rfl, ⟨by simpa using seen, by simpa using noWord,
      ofMark?_eq_none.mp unmarked, ?_, ?_⟩, noneStray_nil⟩
    · rintro ⟨rfl, begins⟩
      obtain ⟨others, rfl⟩ := List.head?_eq_some_iff.mp begins
      exact arrow others rfl rfl
    · rintro ⟨rfl, last⟩
      rw [List.append_nil] at last
      have apart := outside rfl
      exact last.elim apart.1 apart.2

theorem lex_outcome (text : String) : StrayOutcome 0 [] text.toList (lex text) :=
  scan_outcome fun _ => by simp

/-! ### Texts -/

theorem exists_lex_eq_ok_iff (text : String) :
    (∃ tokens, lex text = .ok tokens) ↔ NoneStray [] text.toList [] := by
  have outcome := lex_outcome text
  cases lexed : lex text with
  | ok tokens =>
    rw [lexed] at outcome
    exact iff_of_true ⟨tokens, rfl⟩ outcome
  | error stray =>
    rw [lexed] at outcome
    exact iff_of_false (by simp) outcome.not_noneStray

theorem lex_eq_error_iff (text : String) (stray : StrayCharacter) :
    lex text = .error stray ↔ stray.FirstIn 0 [] text.toList := by
  have outcome := lex_outcome text
  cases lexed : lex text with
  | ok tokens =>
    rw [lexed] at outcome
    exact iff_of_false (by simp) fun first => first.not_noneStray outcome
  | error found =>
    rw [lexed] at outcome
    constructor
    · intro same
      cases same
      exact outcome
    · intro first
      rw [first.unique outcome]

/-- A text is cut into tokens exactly if none of its characters is stray, and otherwise the first
stray one is reported. -/
theorem lex_refuses_first_stray (text : String) :
    ((∃ tokens, lex text = .ok tokens) ↔
      ∀ before c after, text.toList = before ++ c :: after → ¬ IsStray before c after) ∧
    ∀ stray : StrayCharacter, lex text = .error stray ↔
      ∃ before after, text.toList = before ++ stray.char :: after ∧
        stray.offset = byteLength before ∧ IsStray before stray.char after ∧
        ∀ front c back, before = front ++ c :: back →
          ¬ IsStray front c (back ++ stray.char :: after) := by
  constructor
  · rw [exists_lex_eq_ok_iff]
    simp only [NoneStray, List.nil_append, List.append_nil]
  · intro stray
    rw [lex_eq_error_iff]
    simp only [StrayCharacter.FirstIn, NoneStray, List.nil_append, Nat.zero_add]

-- the tip behind an arrow is stray, and so is the dash after it, which is not reported
example : scan 0 [] [] ['é', '-', '>', '>', '-'] = .error ⟨4, '>'⟩ := rfl

end ProofScript
