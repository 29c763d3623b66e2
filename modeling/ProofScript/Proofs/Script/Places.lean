import ProofScript.Proofs.Script.Reading
import ProofScript.Proofs.Source.Stretch

/-!
# Where the parts of a theorem stand

Lines of a script are numbered as the positions of a text count them: the number of a line is one
more than the number of newlines before it. What is cut out of a line stays on it, and lines are in
the order of their numbers. So a theorem that was read is where its record says it is: its signature
and its proof stand at their spans, the line of the record is that of the signature, the proof is on
a later one, and the theorems follow each other in the text.

## Main result

`Script.read_places`: where the parts of all theorems of a script stand.
-/
namespace ProofScript

open Text

/-! ### Spans on lines -/

namespace Span

/-- All of the span, its end included, is on the line with the number `line`. -/
def OnLine (span : Span) (text : String) (line : Nat) : Prop :=
  ∀ offset, span.start.toNat ≤ offset → offset ≤ span.stop.toNat →
    (positionAt text offset).map Position.line = some line

/-- The first span ends before the second one begins. -/
def Before (first second : Span) : Prop :=
  first.stop.toNat < second.start.toNat

end Span

/-- The excerpt is a stretch of the line of `text` with the number `number`. -/
def Excerpt.StandsOn (excerpt : Excerpt) (text : String) (number : Nat) : Prop :=
  ∃ stretch : Stretch text, stretch.chars = excerpt.chars ∧ stretch.start = excerpt.offset ∧
    stretch.position.line = number

namespace Excerpt.StandsOn

variable {excerpt part : Excerpt} {text : String} {number : Nat}

/-- A complete line, with the number of newlines before it. -/
theorem line {earlier chars later : List Char} (spelled : text.toList = earlier ++ chars ++ later)
    (begins : earlier = [] ∨ ∃ others, earlier = others ++ ['\n'])
    (ends : later = [] ∨ ∃ others, later = '\n' :: others) (oneLine : '\n' ∉ chars) :
    (⟨byteLength earlier, chars⟩ : Excerpt).StandsOn text (earlier.count '\n' + 1) := by
  have whole : text.toList = earlier ++ ([] ++ chars ++ []) ++ later := by
    simpa using spelled
  let stretch : Stretch text :=
    ⟨earlier, [], chars, [], later, whole, begins, ends, by simpa using oneLine⟩
  exact ⟨stretch, rfl, rfl, rfl⟩

/-- What is cut out of an excerpt is on the same line. -/
theorem cut (stands : excerpt.StandsOn text number) (within : part.Within excerpt) :
    part.StandsOn text number := by
  obtain ⟨stretch, chars, start, line⟩ := stands
  obtain ⟨before, after, split, offset⟩ := within
  have same : stretch.lead ++ before ++ part.chars ++ (after ++ stretch.trail) =
      stretch.lead ++ stretch.chars ++ stretch.trail := by
    simp only [chars, split, List.append_assoc]
  let smaller : Stretch text :=
    { stretch with
      lead := stretch.lead ++ before
      chars := part.chars
      trail := after ++ stretch.trail
      spelled := by rw [same]; exact stretch.spelled
      oneLine := by rw [same]; exact stretch.oneLine }
  have begins : smaller.start = stretch.start + byteLength before := by
    simp only [Stretch.start, Stretch.lineStart, smaller, byteLength_append, Nat.add_assoc]
  exact ⟨smaller, rfl, by rw [begins, start, offset], line⟩

variable (small : text.utf8ByteSize < UInt32.size - 1)

include small

/-- The ends of the span of an excerpt are not reduced. -/
theorem ends_span (stretch : Stretch text) (chars : stretch.chars = excerpt.chars)
    (start : stretch.start = excerpt.offset) :
    excerpt.span.start.toNat = stretch.start ∧ excerpt.span.stop.toNat = stretch.stop := by
  have inside := stretch.stop_le
  have stop : stretch.stop = excerpt.offset + byteLength excerpt.chars := by
    rw [Stretch.stop, start, chars]
  constructor
  · rw [start]
    exact UInt32.toNat_ofNat_of_lt' (by omega)
  · rw [stop]
    exact UInt32.toNat_ofNat_of_lt' (by omega)

theorem onLine_span (stands : excerpt.StandsOn text number) :
    excerpt.span.OnLine text number := by
  obtain ⟨stretch, chars, start, rfl⟩ := stands
  obtain ⟨begin, stop⟩ := ends_span small stretch chars start
  intro offset above below
  have begins : stretch.lineStart ≤ offset := by
    have inside := stretch.lineStart_le_start
    omega
  have ends : offset ≤ stretch.lineStop := by
    have inside := stretch.stop_le_lineStop
    omega
  rw [stretch.positionAt_onLine small begins ends]
  rfl

theorem before_span {other : Excerpt} {number' : Nat} (stands : excerpt.StandsOn text number)
    (stands' : other.StandsOn text number') (ordered : number < number') :
    excerpt.span.Before other.span := by
  obtain ⟨stretch, chars, start, rfl⟩ := stands
  obtain ⟨stretch', chars', start', rfl⟩ := stands'
  obtain ⟨-, stop⟩ := ends_span small stretch chars start
  obtain ⟨begin', -⟩ := ends_span small stretch' chars' start'
  -- each span is within its line, and the lines are in the order of their numbers
  have lines := Stretch.lineStop_lt_lineStart ordered
  have inside := stretch.stop_le_lineStop
  have inside' := stretch'.lineStart_le_start
  rw [Span.Before, stop, begin']
  omega

end Excerpt.StandsOn

namespace Script

/-! ### Lines -/

/-- The lines of what is left of a text are numbered from the number of newlines before it. -/
theorem standsOn_of_mem_numberLines {text : String} {chars : List Char} {earlier line : List Char}
    {found : Line} (spelled : text.toList = earlier ++ (line.reverse ++ chars))
    (begins : earlier = [] ∨ ∃ others, earlier = others ++ ['\n']) (oneLine : '\n' ∉ line)
    (member : found ∈ numberLines (earlier.count '\n' + 1)
      (splitLines (byteLength earlier) line chars)) :
    ∃ excerpt : Excerpt, found.code = (excerpt.before '#').trim ∧
      excerpt.StandsOn text found.number := by
  -- on the text that is left, `line` being what was seen of the current line, last character first
  induction chars generalizing earlier line with
  | nil =>
    rcases mem_numberLines_cons member with rfl | later
    · have whole : text.toList = earlier ++ line.reverse ++ [] := by
        simpa using spelled
      exact ⟨_, rfl, .line whole begins (.inl rfl) (by simpa using oneLine)⟩
    · cases later
  | cons c chars ih =>
    by_cases newline : c = '\n'
    · subst newline
      rw [splitLines, if_pos rfl] at member
      rcases mem_numberLines_cons member with rfl | later
      · have whole : text.toList = earlier ++ line.reverse ++ '\n' :: chars := by
          simpa using spelled
        exact ⟨_, rfl, .line whole begins (.inr ⟨chars, rfl⟩) (by simpa using oneLine)⟩
      · -- the others come behind this line and its newline
        have length : byteLength (earlier ++ line.reverse ++ ['\n']) =
            byteLength earlier + byteLength line + 1 := by
          simp only [byteLength_append, byteLength_reverse]
          rfl
        have count : (earlier ++ line.reverse ++ ['\n']).count '\n' =
            earlier.count '\n' + 1 := by
          simp [List.count_append, List.count_eq_zero.mpr oneLine]
        refine @ih (earlier ++ line.reverse ++ ['\n']) [] ?_ (.inr ⟨_, rfl⟩) List.not_mem_nil ?_
        · simpa using spelled
        · rw [length, count]
          exact later
    · rw [splitLines, if_neg newline] at member
      have spelled' : text.toList = earlier ++ ((c :: line).reverse ++ chars) := by
        simpa using spelled
      have oneLine' : '\n' ∉ c :: line := by
        simpa [oneLine] using Ne.symm newline
      exact ih spelled' begins oneLine' member

/-- The code of a line is on the line of the text that has its number. -/
theorem standsOn_of_mem_codeLines {text : String} {line : Line}
    (member : line ∈ codeLines text) : line.code.StandsOn text line.number := by
  have spelled : text.toList = [] ++ ([].reverse ++ text.toList) := rfl
  obtain ⟨excerpt, code, stands⟩ :=
    standsOn_of_mem_numberLines spelled (.inl rfl) List.not_mem_nil member
  have within : line.code.Within excerpt := by
    rw [code]
    exact (Excerpt.within_trim _).trans (Excerpt.within_before excerpt '#')
  exact stands.cut within

end Script

/-! ### Theorems -/

/-- The theorem is declared on the line `header` and proved on the line `second`. -/
structure Theorem.ReadFromLines (subject : Theorem) (header second : Script.Line) : Prop where
  line : subject.line = header.number
  signature : ∃ excerpt : Excerpt, excerpt.Within header.code ∧ subject.signatureSpan = excerpt.span
  proof : ∃ excerpt : Excerpt, excerpt.Within second.code ∧ subject.proofSpan = excerpt.span

namespace Script

variable {lines : List Line} {theorems : List Theorem} {text : String}

theorem exists_lines_of_theoremsOf (ordered : lines.Pairwise (·.number < ·.number))
    (read : theoremsOf lines = .ok theorems) :
    ∀ subject ∈ theorems, ∃ header ∈ lines, ∃ second ∈ lines,
      header.number < second.number ∧ subject.ReadFromLines header second := by
  -- each step takes two lines off, and what is left of the lines is in order still
  fun_induction theoremsOf lines generalizing theorems with
  | case1 =>
    cases read
    exact List.forall_mem_nil _
  | case2 header =>
    obtain ⟨_, -, missing⟩ := bind_eq_ok.mp read
    cases missing
  | case3 header second rest ih =>
    obtain ⟨name, signature, proof, more, declared, proved, readRest, rfl⟩ :=
      theoremsOf_cons_eq_ok read
    have numbers : header.number < second.number :=
      List.rel_of_pairwise_cons ordered List.mem_cons_self
    have others := ih ordered.of_cons.of_cons readRest
    intro subject member
    rcases List.mem_cons.mp member with rfl | later
    · have signed := declaration_within declared
      have given := proofExpression_within proved
      exact ⟨header, by simp, second, by simp, numbers, rfl, ⟨_, signed, rfl⟩, ⟨_, given, rfl⟩⟩
    · obtain ⟨header', among, second', among', found⟩ := others subject later
      exact ⟨header', by simp [among], second', by simp [among'], found⟩

/-- The spans of a theorem come after the proof of each theorem before it. -/
theorem pairwise_before_of_theoremsOf (small : text.utf8ByteSize < UInt32.size - 1)
    (stand : ∀ line ∈ lines, line.code.StandsOn text line.number)
    (ordered : lines.Pairwise (·.number < ·.number)) (read : theoremsOf lines = .ok theorems) :
    theorems.Pairwise fun earlier later =>
      earlier.proofSpan.Before later.signatureSpan ∧ earlier.proofSpan.Before later.proofSpan := by
  fun_induction theoremsOf lines generalizing theorems with
  | case1 =>
    cases read
    exact .nil
  | case2 header =>
    obtain ⟨_, -, missing⟩ := bind_eq_ok.mp read
    cases missing
  | case3 header second rest ih =>
    obtain ⟨name, signature, proof, more, declared, proved, readRest, rfl⟩ :=
      theoremsOf_cons_eq_ok read
    rw [List.forall_mem_cons, List.forall_mem_cons] at stand
    have behind := ordered.of_cons.of_cons
    refine .cons ?_ (ih stand.2.2 behind readRest)
    intro subject later
    -- the lines of a later theorem have larger numbers than that of this proof
    obtain ⟨header', among, second', among', -, found⟩ :=
      exists_lines_of_theoremsOf behind readRest subject later
    obtain ⟨signature', signed, signatureSpan⟩ := found.signature
    obtain ⟨proof', given, proofSpan⟩ := found.proof
    have proofStands := stand.2.1.cut (proofExpression_within proved)
    have above : second.number < header'.number :=
      List.rel_of_pairwise_cons ordered.of_cons among
    have above' : second.number < second'.number :=
      List.rel_of_pairwise_cons ordered.of_cons among'
    rw [signatureSpan, proofSpan]
    exact ⟨proofStands.before_span small ((stand.2.2 header' among).cut signed) above,
      proofStands.before_span small ((stand.2.2 second' among').cut given) above'⟩

end Script

/-- The text of a part of a theorem: it has no white space around it, no newline and no comment in
it, it is what stands in `text` at `span`, and all of it is on the line with the number `line`. -/
structure IsPlaced (text part : String) (span : Span) (line : Nat) : Prop where
  trimmed : Trimmed part.toList
  oneLine : '\n' ∉ part.toList
  noComment : '#' ∉ part.toList
  covers : span.Covers text.toList part.toList
  onLine : span.OnLine text line

theorem IsPart.placed {text part : String} {span : Span} {line : Nat}
    (isPart : IsPart text.toList part span) (small : text.utf8ByteSize < UInt32.size - 1)
    (onLine : span.OnLine text line) : IsPlaced text part span line := by
  obtain ⟨covers, -, oneLine⟩ := isPart.covers (byteLength_lt_size small)
  obtain ⟨excerpt, stands, rfl, -⟩ := isPart
  have characters : excerpt.text.toList = excerpt.chars := String.toList_ofList
  have trimmed := stands.trimmed
  have noComment := stands.noComment
  rw [← characters] at trimmed noComment
  exact ⟨trimmed, oneLine, noComment, covers, onLine⟩

namespace Script

/-- Where the parts of the theorems of a script stand. -/
theorem read_places {text : String} {theorems : List Theorem}
    (small : text.utf8ByteSize < UInt32.size - 1) (accepted : read text = .ok theorems) :
    (∀ subject ∈ theorems, IsDeclared subject.name ∧
      (positionAt text subject.signatureSpan.start.toNat).map Position.line = some subject.line ∧
      IsPlaced text subject.signature subject.signatureSpan subject.line ∧
      ∃ proofLine, subject.line < proofLine ∧
        IsPlaced text subject.proof subject.proofSpan proofLine) ∧
    theorems.Pairwise fun earlier later =>
      earlier.proofSpan.Before later.signatureSpan ∧ earlier.proofSpan.Before later.proofSpan := by
  have ordered : (codeLines text).Pairwise (·.number < ·.number) := pairwise_numberLines _ 1
  have stand : ∀ line ∈ codeLines text, line.code.StandsOn text line.number :=
    fun _ member => standsOn_of_mem_codeLines member
  refine ⟨?_, pairwise_before_of_theoremsOf small stand ordered accepted⟩
  intro subject member
  have parts := readFrom_of_read accepted subject member
  obtain ⟨header, among, second, among', numbers, found⟩ :=
    exists_lines_of_theoremsOf ordered accepted subject member
  obtain ⟨signature, signed, signatureSpan⟩ := found.signature
  obtain ⟨proof, given, proofSpan⟩ := found.proof
  have signatureLine : subject.signatureSpan.OnLine text subject.line := by
    rw [signatureSpan, found.line]
    exact ((stand header among).cut signed).onLine_span small
  have proofLine : subject.proofSpan.OnLine text second.number := by
    rw [proofSpan]
    exact ((stand second among').cut given).onLine_span small
  have placed := parts.signature.placed small signatureLine
  have start : subject.signatureSpan.start.toNat ≤ subject.signatureSpan.stop.toNat := by
    obtain ⟨before, after, -, begin, stop⟩ := placed.covers
    omega
  refine ⟨parts.name, signatureLine _ (Nat.le_refl _) start, placed, second.number, ?_,
    parts.proof.placed small proofLine⟩
  rw [found.line]
  exact numbers

/-- Two theorems with comments, white space of several bytes and both kinds of line ends. -/
def unevenPair : String :=
  "# é\r\n theorem ü : Z = Z # :\r\n\n\u00A0proof Refl\n\u2003theorem b c : x = x\n\tproof by n"

/-- What is read from `unevenPair`. -/
def unevenTheorems : List Theorem :=
  [⟨"ü", "Z = Z", "Refl", 2, .ofNat 20 25, .ofNat 40 44⟩,
    ⟨"b c", "x = x", "by n", 5, .ofNat 62 67, .ofNat 75 79⟩]

theorem read_places_unevenPair :
    unevenPair.utf8ByteSize < UInt32.size - 1 ∧ read unevenPair = .ok unevenTheorems ∧
      IsDeclared "ü" ∧ IsPlaced unevenPair "Z = Z" (.ofNat 20 25) 2 ∧
      (∃ proofLine, 2 < proofLine ∧ IsPlaced unevenPair "Refl" (.ofNat 40 44) proofLine) ∧
      Span.Before (.ofNat 40 44) (.ofNat 62 67) ∧ Span.Before (.ofNat 40 44) (.ofNat 75 79) := by
  have small : unevenPair.utf8ByteSize < UInt32.size - 1 := by decide +kernel
  have accepted : read unevenPair = .ok unevenTheorems := by decide +kernel
  obtain ⟨places, ordered⟩ := read_places small accepted
  obtain ⟨name, -, signature, proof⟩ := places _ List.mem_cons_self
  have follows := List.rel_of_pairwise_cons ordered List.mem_cons_self
  exact ⟨small, accepted, name, signature, proof, follows⟩

end Script

end ProofScript
