import ProofScript.Proofs.Reading
import ProofScript.Proofs.Text.Trimming
import ProofScript.Proofs.Token.Spelling

/-!
# White space between tokens

White space has no meaning but to keep tokens apart. Where it stands between all neighbours, no two
spellings can merge into another token, and none of them is cut in two, since a spelling has no
white space in it. So the tokens of a text can be written out with any white space between them.

## Main result

`lex_of_writes`: every way of writing the tokens of a text is cut into the same tokens again, and so
it is read as the same term, type or signature, or refused for the same reason.
-/
namespace ProofScript

open Text

/-- White space, or nothing. -/
def AllBlank (gap : List Char) : Prop :=
  ∀ c ∈ gap, isBlank c = true

instance (gap : List Char) : Decidable (AllBlank gap) :=
  List.decidableBAll (fun c => isBlank c = true) gap

/-- The spellings of the tokens in order, each with white space behind it. The last one may do
without. -/
inductive SpacedOut : List Token → List Char → Prop
  | nil : SpacedOut [] []
  | cons {token : Token} {tokens : List Token} {gap rest : List Char} :
    AllBlank gap → (tokens ≠ [] → gap ≠ []) → SpacedOut tokens rest →
    SpacedOut (token :: tokens) (token.spelling.toList ++ (gap ++ rest))

/-- The text consists of the spellings of the tokens in order, with white space between neighbours
and perhaps at both ends. -/
def Writes (text : String) (tokens : List Token) : Prop :=
  ∃ lead body, AllBlank lead ∧ SpacedOut tokens body ∧ text.toList = lead ++ body

/-! ### White space -/

section Blank

variable {c : Char} {rest : List Char}

theorem separates_of_isBlank (blank : isBlank c = true) : separates (c :: rest) = true := by
  have notTip : c ≠ '>' := by
    rintro rfl
    exact absurd blank (by decide)
  have notBackslash : c ≠ '\\' := by
    rintro rfl
    exact absurd blank (by decide)
  simp [separates, isWordChar_of_isBlank blank, notTip, notBackslash]

theorem scan_blank {offset : Nat} {read : List Token} (blank : isBlank c = true) :
    scan offset [] read (c :: rest) = scan (offset + c.utf8Size) [] read rest := by
  rw [scan]
  · simp [isWordChar_of_isBlank blank, blank]
  -- no mark of two characters begins with white space
  all_goals
    rintro rest rfl
    exact absurd blank (by decide)

theorem Spells.blanks {gap characters : List Char} {tokens : List Token} (blank : AllBlank gap)
    (spells : Spells characters tokens) : Spells (gap ++ characters) tokens := by
  induction gap with
  | nil => exact spells
  | cons c gap ih =>
    obtain ⟨first, others⟩ := List.forall_mem_cons.mp blank
    intro offset read rest ends
    obtain ⟨offset', scanned⟩ := ih others (offset + c.utf8Size) read rest ends
    refine ⟨offset', ?_⟩
    rw [List.cons_append, List.cons_append, scan_blank first, scanned]

end Blank

/-! ### Single tokens -/

/-- A mark of one character is read as such, unless it begins one of two. -/
theorem scan_mark {offset : Nat} {read : List Token} {c : Char} {mark : Token} {rest : List Char}
    (found : Token.ofMark? c = some mark) (ends : separates rest = true) :
    scan offset [] read (c :: rest) = scan (offset + c.utf8Size) [] (mark :: read) rest := by
  have apart : isWordChar c = false ∧ isBlank c = false := by
    unfold Token.ofMark? at found
    split at found <;> first | exact ⟨by decide, by decide⟩ | cases found
  rw [scan]
  · simp [apart, found]
  · rintro others rfl
    cases found
  -- nothing that separates begins with the second character of a mark
  · rintro others - rfl
    simp [separates] at ends
  · rintro others - rfl
    simp [separates] at ends

theorem Spells.mark {c : Char} {mark : Token} (found : Token.ofMark? c = some mark) :
    Spells [c] [mark] :=
  fun offset _ _ ends => ⟨offset + c.utf8Size, scan_mark found ends⟩

theorem Token.Legible.spells {token : Token} (legible : token.Legible) :
    Spells token.spelling.toList [token] := by
  cases token with
  | ident name => exact Spells.name legible.1 legible.2
  | leftParen => exact Spells.mark (c := '(') rfl
  | rightParen => exact Spells.mark (c := ')') rfl
  | colon => exact Spells.mark (c := ':') rfl
  | comma => exact Spells.mark (c := ',') rfl
  | equals => exact Spells.mark (c := '=') rfl
  | lambda => exact Spells.mark (c := '\\') rfl
  | arrow => exact fun offset _ _ _ => ⟨offset + 2, rfl⟩
  | fatArrow => exact fun offset _ _ _ => ⟨offset + 2, rfl⟩

/-! ### Tokens one after the other -/

theorem SpacedOut.spells {tokens : List Token} {body : List Char} (spaced : SpacedOut tokens body)
    (legible : ∀ token ∈ tokens, token.Legible) : Spells body tokens := by
  induction spaced with
  | nil => exact fun offset _ _ _ => ⟨offset, rfl⟩
  | @cons token tokens gap rest blank parted spaced ih =>
    obtain ⟨first, others⟩ := List.forall_mem_cons.mp legible
    have apart : separates (gap ++ rest) = true := by
      cases gap with
      | cons c gap => exact separates_of_isBlank (blank c List.mem_cons_self)
      | nil =>
        -- only the last token has no white space behind it
        have last : tokens = [] := by
          by_contra more
          exact parted more rfl
        subst last
        cases spaced
        rfl
    exact first.spells.append ((ih others).blanks blank) apart

theorem lex_eq_of_writes {text writing : String} {tokens : List Token}
    (lexed : lex text = .ok tokens) (writes : Writes writing tokens) :
    lex writing = .ok tokens := by
  obtain ⟨lead, body, blank, spaced, spelled⟩ := writes
  apply lex_of_spells
  rw [spelled]
  exact (spaced.spells (legible_of_lex lexed)).blanks blank

/-- What is read depends on the tokens of the text only. -/
theorem readText_eq_of_lex_eq {α : Type} (read : List Token → Except GrammarError α)
    {text other : String} (same : lex text = lex other) :
    readText read text = readText read other := by
  rw [readText, readText, same]

/-- Tokens of a text, written with any white space between them, are read as the text is. -/
theorem lex_of_writes {text writing : String} {tokens : List Token}
    (lexed : lex text = .ok tokens) (writes : Writes writing tokens) :
    lex writing = .ok tokens ∧ Term.parse writing = Term.parse text ∧
      Ty.parse writing = Ty.parse text ∧ Signature.parse writing = Signature.parse text := by
  have lexed' := lex_eq_of_writes lexed writes
  have same : lex writing = lex text := by rw [lexed, lexed']
  exact ⟨lexed', readText_eq_of_lex_eq _ same, readText_eq_of_lex_eq _ same,
    readText_eq_of_lex_eq _ same⟩

/-- An equation, written with as little white space as possible and with two backslashes. -/
def crowded : String := "\\\\x=>f x=y"

def crowdedTokens : List Token :=
  [.lambda, .ident "x", .fatArrow, .ident "f", .ident "x", .equals, .ident "y"]

/-- The same equation over several lines. -/
def spread : String := "\t\\ x\n=>\u3000f  x = y\n"

/-- As a type both are read, and as a term both are refused. -/
theorem lex_of_writes_spread :
    lex crowded = .ok crowdedTokens ∧ Writes spread crowdedTokens ∧
      lex spread = .ok crowdedTokens ∧ Term.parse spread = Term.parse crowded ∧
      Ty.parse spread = Ty.parse crowded ∧ Signature.parse spread = Signature.parse crowded := by
  have lexed : lex crowded = .ok crowdedTokens := by
    rw [lex, crowded, String.toList_ofList]
    rfl
  have writes : Writes spread crowdedTokens := by
    refine ⟨['\t'], _, by decide, ?_, String.toList_ofList⟩
    refine .cons (by decide : AllBlank [' ']) (by simp) ?_
    refine .cons (by decide : AllBlank ['\n']) (by simp) ?_
    refine .cons (by decide : AllBlank ['\u3000']) (by simp) ?_
    refine .cons (by decide : AllBlank [' ', ' ']) (by simp) ?_
    refine .cons (by decide : AllBlank [' ']) (by simp) ?_
    refine .cons (by decide : AllBlank [' ']) (by simp) ?_
    exact .cons (by decide : AllBlank ['\n']) (by simp) .nil
  exact ⟨lexed, writes, lex_of_writes lexed writes⟩

end ProofScript
