import ProofScript.Token.Lexer
import ProofScript.Proofs.Outcome

/-!
# Characters that spell tokens

Printing writes down characters piece by piece, while the scanner carries along a name that may
still go on. So the characters of a piece spell some tokens only if what comes next cannot be part
of the last of them. `Spells` says this for anything that may come next, and pieces are put together
as long as they keep apart.

## Main results

`lex_of_spells`: a text that spells tokens is cut into them.

`legible_of_lex`: the names that a text is cut into are made of word characters, and are not empty.
-/
namespace ProofScript

open Text

/-- Whether all characters of `name` may stand in an identifier. -/
def IsWord (name : String) : Prop :=
  ∀ c ∈ name.toList, isWordChar c = true

instance (name : String) : Decidable (IsWord name) :=
  List.decidableBAll (fun c => isWordChar c = true) name.toList

/-! ### One step of the scanner -/

section Scan

variable {offset : Nat} {word : List Char} {read : List Token} {rest : List Char}

@[simp] theorem closeWord_nil (read : List Token) : closeWord [] read = read := rfl

/-- Whether a token may end before `rest`: no name goes on there, and no second character of a mark
follows. -/
def separates : List Char → Bool
  | [] => true
  | c :: _ => !(isWordChar c || c == '>' || c == '\\')

theorem scan_wordChar {c : Char} (inside : isWordChar c = true) :
    scan offset word read (c :: rest) = scan (offset + c.utf8Size) (c :: word) read rest := by
  rw [scan]
  · rw [if_pos inside]
  -- no mark of two characters begins with a word character
  all_goals
    rintro rest rfl
    exact absurd inside (by decide)

/-- A name ends where the text separates. -/
theorem scan_separates (ends : separates rest = true) :
    scan offset word read rest = scan offset [] (closeWord word read) rest := by
  cases rest with
  | nil => rfl
  | cons c rest =>
    have outside : isWordChar c = false := by
      simp only [separates, Bool.not_eq_true', Bool.or_eq_false_iff] at ends
      exact ends.1.1
    rw [scan.eq_def, scan.eq_def]
    split
    next same => cases same
    next => rfl
    next => rfl
    next => rfl
    next first others _ _ _ same =>
      cases same
      simp only [outside, Bool.false_eq_true, if_false, closeWord_nil]

theorem scan_word {characters : List Char} (inside : ∀ c ∈ characters, isWordChar c = true) :
    ∃ offset', scan offset word read (characters ++ rest) =
      scan offset' (characters.reverse ++ word) read rest := by
  induction characters generalizing offset word with
  | nil => exact ⟨offset, rfl⟩
  | cons c characters ih =>
    obtain ⟨offset', scanned⟩ := ih fun other member => inside other (List.mem_cons_of_mem c member)
    refine ⟨offset', ?_⟩
    rw [List.cons_append, scan_wordChar (inside c List.mem_cons_self), scanned, List.reverse_cons,
      List.append_assoc]
    rfl

end Scan

/-! ### Pieces of text -/

/-- Wherever `characters` are met between tokens, and what follows them separates, they are read as
`tokens`. -/
def Spells (characters : List Char) (tokens : List Token) : Prop :=
  ∀ (offset : Nat) (read : List Token) (rest : List Char), separates rest = true →
    ∃ offset', scan offset [] read (characters ++ rest) =
      scan offset' [] (tokens.reverse ++ read) rest

theorem lex_of_spells {text : String} {tokens : List Token} (spells : Spells text.toList tokens) :
    lex text = .ok tokens := by
  obtain ⟨offset, scanned⟩ := spells 0 [] [] rfl
  rw [List.append_nil, List.append_nil] at scanned
  rw [lex, scanned, scan, closeWord_nil, List.reverse_reverse]

namespace Spells

variable {characters others : List Char} {tokens more : List Token}

theorem name {name : String} (word : IsWord name) (nonempty : name.toList ≠ []) :
    Spells name.toList [.ident name] := by
  intro offset read rest ends
  obtain ⟨offset', scanned⟩ := scan_word word
  refine ⟨offset', ?_⟩
  have closed : closeWord name.toList.reverse read = .ident name :: read := by
    unfold closeWord
    split
    next none => exact absurd (List.reverse_eq_nil_iff.mp none) nonempty
    next => rw [List.reverse_reverse, String.ofList_toList]
  rw [scanned, List.append_nil, scan_separates ends, closed]
  rfl

/-- Two pieces of which the second one does not go on with a token of the first one. -/
theorem append (first : Spells characters tokens) (second : Spells others more)
    (apart : separates others = true) : Spells (characters ++ others) (tokens ++ more) := by
  intro offset read rest ends
  have between : separates (others ++ rest) = true := by
    cases others with
    | nil => exact ends
    | cons c others => exact apart
  obtain ⟨offset', scanned⟩ := first offset read (others ++ rest) between
  obtain ⟨offset'', scanned'⟩ := second offset' (tokens.reverse ++ read) rest ends
  refine ⟨offset'', ?_⟩
  rw [List.append_assoc, scanned, scanned', List.reverse_append, List.append_assoc]

theorem space (spells : Spells characters tokens) : Spells (' ' :: characters) tokens :=
  fun offset read rest ends => spells (offset + 1) read rest ends

theorem rightParen : Spells [')'] [.rightParen] :=
  fun offset _ _ _ => ⟨offset + 1, rfl⟩

/-- A token, with blanks around it or not, that ends before anything that may follow. -/
theorem mark_cons {token : Token} (mark : List Char) (width : Nat)
    (scanned : ∀ offset read rest, scan offset [] read (mark ++ rest) =
      scan (offset + width) [] (token :: read) rest)
    (spells : Spells characters tokens) : Spells (mark ++ characters) (token :: tokens) := by
  intro offset read rest ends
  obtain ⟨offset', after⟩ := spells (offset + width) (token :: read) rest ends
  refine ⟨offset', ?_⟩
  rw [List.append_assoc, scanned, after, List.reverse_cons, List.append_assoc]
  rfl

theorem leftParen (spells : Spells characters tokens) :
    Spells ('(' :: characters) (.leftParen :: tokens) :=
  mark_cons ['('] 1 (fun _ _ _ => rfl) spells

theorem colon (spells : Spells characters tokens) :
    Spells (" : ".toList ++ characters) (.colon :: tokens) :=
  mark_cons [' ', ':', ' '] 3 (fun _ _ _ => rfl) spells

theorem equals (spells : Spells characters tokens) :
    Spells (" = ".toList ++ characters) (.equals :: tokens) :=
  mark_cons [' ', '=', ' '] 3 (fun _ _ _ => rfl) spells

theorem arrow (spells : Spells characters tokens) :
    Spells (" -> ".toList ++ characters) (.arrow :: tokens) :=
  mark_cons [' ', '-', '>', ' '] 4 (fun _ _ _ => rfl) spells

theorem fatArrow (spells : Spells characters tokens) :
    Spells (" => ".toList ++ characters) (.fatArrow :: tokens) :=
  mark_cons [' ', '=', '>', ' '] 4 (fun _ _ _ => rfl) spells

/-- A backslash before a name is not followed by another one. -/
theorem lambda {name : String} (word : IsWord name) (nonempty : name.toList ≠ [])
    (spells : Spells (name.toList ++ characters) tokens) :
    Spells ('\\' :: (name.toList ++ characters)) (.lambda :: tokens) := by
  intro offset read rest ends
  obtain ⟨offset', scanned⟩ := spells (offset + 1) (.lambda :: read) rest ends
  refine ⟨offset', ?_⟩
  obtain ⟨c, others, spelled⟩ := List.exists_cons_of_ne_nil nonempty
  have inside : isWordChar c = true := word c (spelled ▸ List.mem_cons_self)
  have single : scan offset [] read ('\\' :: (name.toList ++ characters ++ rest)) =
      scan (offset + 1) [] (.lambda :: read) (name.toList ++ characters ++ rest) := by
    rw [spelled, scan]
    · rfl
    · simp
    · simp
    · rintro others - ⟨⟩
      exact absurd inside (by decide)
  rw [List.cons_append, single, scanned, List.reverse_cons, List.append_assoc]
  rfl

end Spells

/-! ### The names in a text -/

/-- Whether all names among `tokens` are made of word characters. -/
def NamesAreWords (tokens : List Token) : Prop :=
  ∀ name, .ident name ∈ tokens → IsWord name

theorem NamesAreWords.left {tokens others : List Token} (words : NamesAreWords (tokens ++ others)) :
    NamesAreWords tokens :=
  fun name member => words name (List.mem_append_left _ member)

theorem NamesAreWords.right {tokens others : List Token}
    (words : NamesAreWords (tokens ++ others)) : NamesAreWords others :=
  fun name member => words name (List.mem_append_right _ member)

theorem NamesAreWords.tail {token : Token} {tokens : List Token}
    (words : NamesAreWords (token :: tokens)) : NamesAreWords tokens :=
  fun name member => words name (List.mem_cons_of_mem _ member)

/-- Whether a text can be cut into the token: a mark, or a name of one or more word characters. -/
def Token.Legible : Token → Prop
  | .ident name => IsWord name ∧ name.toList ≠ []
  | _ => True

theorem legible_of_mark {c : Char} {mark : Token} (found : Token.ofMark? c = some mark) :
    mark.Legible := by
  unfold Token.ofMark? at found
  split at found <;> cases found <;> trivial

theorem legible_closeWord {word : List Char} {read : List Token}
    (known : ∀ token ∈ read, token.Legible) (inside : ∀ c ∈ word, isWordChar c = true) :
    ∀ token ∈ closeWord word read, token.Legible := by
  unfold closeWord
  split
  next => exact known
  next nonempty =>
    rw [List.forall_mem_cons]
    refine ⟨⟨?_, ?_⟩, known⟩
    · intro c among
      rw [String.toList_ofList, List.mem_reverse] at among
      exact inside c among
    · rw [String.toList_ofList]
      exact fun none => nonempty (List.reverse_eq_nil_iff.mp none)

theorem legible_of_scan {offset : Nat} {word : List Char} {read tokens : List Token}
    {characters : List Char} (scanned : scan offset word read characters = .ok tokens)
    (inside : ∀ c ∈ word, isWordChar c = true) (known : ∀ token ∈ read, token.Legible) :
    ∀ token ∈ tokens, token.Legible := by
  have empty : ∀ c ∈ ([] : List Char), isWordChar c = true := List.forall_mem_nil _
  fun_induction scan offset word read characters with
  | case1 offset word read =>
    cases scanned
    intro token member
    exact legible_closeWord known inside token (List.mem_reverse.mp member)
  -- marks of two characters
  | case2 offset word read rest ih | case3 offset word read rest ih
  | case4 offset word read rest ih =>
    exact ih scanned empty (List.forall_mem_cons.mpr ⟨trivial, legible_closeWord known inside⟩)
  | case5 offset word read c rest _ _ _ isWordChar ih =>
    exact ih scanned (List.forall_mem_cons.mpr ⟨isWordChar, inside⟩) known
  | case6 offset word read c rest _ _ _ _ _ ih =>
    exact ih scanned empty (legible_closeWord known inside)
  | case7 offset word read c rest _ _ _ _ _ mark found ih =>
    exact ih scanned empty
      (List.forall_mem_cons.mpr ⟨legible_of_mark found, legible_closeWord known inside⟩)
  | case8 => cases scanned

theorem legible_of_lex {text : String} {tokens : List Token} (lexed : lex text = .ok tokens) :
    ∀ token ∈ tokens, token.Legible :=
  legible_of_scan lexed (List.forall_mem_nil _) (List.forall_mem_nil _)

theorem namesAreWords_of_lex {text : String} {tokens : List Token} (lexed : lex text = .ok tokens) :
    NamesAreWords tokens :=
  fun _ member => (legible_of_lex lexed _ member).1

end ProofScript
