import ProofScript.Proofs.Script.Reading

/-!
# Scripts one after the other

Two scripts with a newline between them are read as the first one followed by the second one, which
has moved behind the first: its spans by the bytes of the first one and the newline, its lines by
the number of lines of the first one. The same goes for a failure in the second script, and a
failure in the first one stays as it is unless it is that a proof is still missing, since the second
script may begin with that proof.

Moving commutes with every way to cut an excerpt, with reading a line, and so with reading all
lines (`theoremsOf_shift`). That the moved spans are exact takes that they fit 32 bits, which they
do when both scripts together are short enough.
-/
namespace ProofScript

open Text

/-! ### Moving -/

/-- The span moved by a number of bytes, reduced to 32 bits. -/
def Span.shift (bytes : Nat) (span : Span) : Span :=
  .ofNat (span.start.toNat + bytes) (span.stop.toNat + bytes)

def Excerpt.shift (bytes : Nat) (excerpt : Excerpt) : Excerpt :=
  { excerpt with offset := excerpt.offset + bytes }

def Theorem.shift (bytes lines : Nat) (subject : Theorem) : Theorem :=
  { subject with
    line := subject.line + lines
    signatureSpan := subject.signatureSpan.shift bytes
    proofSpan := subject.proofSpan.shift bytes }

def Failure.shift (bytes lines : Nat) (failure : Failure) : Failure :=
  { failure with line := failure.line + lines, span := failure.span.shift bytes }

def Script.Line.shift (bytes lines : Nat) (line : Line) : Line :=
  { line with number := line.number + lines, code := line.code.shift bytes }

namespace Excerpt

variable (bytes : Nat) (excerpt : Excerpt)

@[simp] theorem chars_shift : (excerpt.shift bytes).chars = excerpt.chars := rfl

@[simp] theorem text_shift : (excerpt.shift bytes).text = excerpt.text := rfl

@[simp] theorem span_shift : (excerpt.shift bytes).span = excerpt.span.shift bytes := by
  have reduce : ∀ number : Nat, UInt32.ofNat ((UInt32.ofNat number).toNat + bytes) =
      UInt32.ofNat (number + bytes) := by
    intro number
    apply UInt32.toNat_inj.mp
    simp [UInt32.toNat_ofNat', Nat.mod_add_mod]
  have stop : excerpt.offset + bytes + byteLength excerpt.chars =
      excerpt.offset + byteLength excerpt.chars + bytes := by
    omega
  simp only [span, Span.shift, Span.ofNat, reduce, shift, stop]

@[simp] theorem skip_shift (front : List Char) :
    (excerpt.shift bytes).skip front = (excerpt.skip front).shift bytes := by
  simp only [skip, shift, Nat.add_right_comm]

@[simp] theorem after?_shift (front : List Char) :
    (excerpt.shift bytes).after? front = (excerpt.after? front).map (shift bytes) := by
  rw [after?, after?, chars_shift, skip_shift]
  split <;> rfl

@[simp] theorem before_shift (mark : Char) :
    (excerpt.shift bytes).before mark = (excerpt.before mark).shift bytes := rfl

@[simp] theorem split?_shift (mark : Char) :
    (excerpt.shift bytes).split? mark =
      (excerpt.split? mark).map (Prod.map (shift bytes) (shift bytes)) := by
  simp only [split?, chars_shift, before_shift, skip_shift]
  split <;> rfl

@[simp] theorem trim_shift : (excerpt.shift bytes).trim = excerpt.trim.shift bytes := by
  simp only [trim, chars_shift, skip_shift]
  rfl

end Excerpt

/-- A result moved by `move`, or the failure moved. -/
def moved {α : Type} (bytes lines : Nat) (move : α → α) : Except Failure α → Except Failure α
  | .ok result => .ok (move result)
  | .error failure => .error (failure.shift bytes lines)

/-- What is moved step by step is moved as a whole. -/
theorem moved_bind {α β : Type} {bytes lines : Nat} {move : α → α} {move' : β → β}
    {first first' : Except Failure α} {next next' : α → Except Failure β}
    (begins : first' = moved bytes lines move first)
    (goes : ∀ item, next' (move item) = moved bytes lines move' (next item)) :
    first' >>= next' = moved bytes lines move' (first >>= next) := by
  subst begins
  cases first with
  | ok item => exact goes item
  | error failure => rfl

namespace Script

variable (bytes lines : Nat)

/-! ### Lines that have moved -/

@[simp] theorem failure_shift (line : Line) (subject : Option String) (diagnostic : Diagnostic) :
    (line.shift bytes lines).failure subject diagnostic =
      (line.failure subject diagnostic).shift bytes lines := by
  simp [Line.failure, Line.shift, Failure.shift]

theorem declaration_shift (line : Line) :
    declaration (line.shift bytes lines) =
      moved bytes lines (Prod.map id (Excerpt.shift bytes)) (declaration line) := by
  have code : (line.shift bytes lines).code = line.code.shift bytes := rfl
  have full : (line.shift bytes lines).full = line.full := rfl
  unfold declaration
  rw [code, full, Excerpt.after?_shift]
  cases line.code.after? "theorem ".toList with
  | none => simp [moved]
  | some header =>
    simp only [Option.map_some, Excerpt.split?_shift]
    cases header.split? ':' with
    | none => simp [moved]
    | some parts =>
      obtain ⟨name, signature⟩ := parts
      simp only [Option.map_some, Prod.map_apply, Excerpt.trim_shift, Excerpt.text_shift,
        Excerpt.chars_shift, failure_shift]
      split
      · rfl
      · split <;> rfl

theorem proofExpression_shift (name : String) (line : Line) :
    proofExpression name (line.shift bytes lines) =
      moved bytes lines (Excerpt.shift bytes) (proofExpression name line) := by
  have code : (line.shift bytes lines).code = line.code.shift bytes := rfl
  have full : (line.shift bytes lines).full = line.full := rfl
  unfold proofExpression
  rw [code, full, Excerpt.after?_shift]
  cases line.code.after? "proof ".toList with
  | none =>
    simp only [Option.map_none, Excerpt.chars_shift, failure_shift]
    split <;> rfl
  | some proof =>
    simp only [Option.map_some, Excerpt.trim_shift, Excerpt.chars_shift, failure_shift]
    split <;> rfl

/-- Lines that have moved are read as theorems that have moved. -/
theorem theoremsOf_shift (script : List Line) :
    theoremsOf (script.map (Line.shift bytes lines)) =
      moved bytes lines (List.map (Theorem.shift bytes lines)) (theoremsOf script) := by
  fun_induction theoremsOf script with
  | case1 => rfl
  | case2 header =>
    refine moved_bind (declaration_shift bytes lines header) ?_
    rintro ⟨name, signature⟩
    exact congrArg Except.error (failure_shift bytes lines header _ _)
  | case3 header second rest ih =>
    refine moved_bind (declaration_shift bytes lines header) ?_
    rintro ⟨name, signature⟩
    refine moved_bind (proofExpression_shift bytes lines name second) ?_
    intro proof
    refine moved_bind ih ?_
    intro theorems
    simp only [Excerpt.text_shift, Excerpt.span_shift]
    rfl

theorem splitLines_shift (chars : List Char) (offset : Nat) (line : List Char) :
    splitLines (offset + bytes) line chars =
      (splitLines offset line chars).map (Excerpt.shift bytes) := by
  induction chars generalizing offset line with
  | nil => rfl
  | cons c chars ih =>
    by_cases newline : c = '\n'
    · have behind : offset + bytes + byteLength line + 1 =
          offset + byteLength line + 1 + bytes := by
        omega
      rw [splitLines, if_pos newline, splitLines, if_pos newline, behind, ih]
      rfl
    · rw [splitLines, if_neg newline, splitLines, if_neg newline, ih]

theorem numberLines_shift (excerpts : List Excerpt) (number : Nat) :
    numberLines (number + lines) (excerpts.map (Excerpt.shift bytes)) =
      (numberLines number excerpts).map (Line.shift bytes lines) := by
  induction excerpts generalizing number with
  | nil => rfl
  | cons excerpt excerpts ih =>
    have line : Line.ofExcerpt (number + lines) (excerpt.shift bytes) =
        (Line.ofExcerpt number excerpt).shift bytes lines := by
      simp only [Line.ofExcerpt, Excerpt.before_shift, Excerpt.trim_shift]
      rfl
    have code : ((Line.ofExcerpt number excerpt).shift bytes lines).code.chars =
        (Line.ofExcerpt number excerpt).code.chars := rfl
    rw [List.map_cons, numberLines, numberLines, line, code, Nat.add_right_comm, ih]
    split <;> rfl

/-! ### Lines one after the other -/

variable {script more : List Line} {theorems : List Theorem} {failure : Failure}

/-- Once all theorems are complete, reading goes on with the rest. -/
theorem theoremsOf_append_of_ok (read : theoremsOf script = .ok theorems) :
    theoremsOf (script ++ more) = (theoremsOf more).map (theorems ++ ·) := by
  fun_induction theoremsOf script generalizing theorems with
  | case1 =>
    cases read
    rw [List.nil_append]
    cases theoremsOf more <;> rfl
  | case2 header =>
    obtain ⟨_, -, missing⟩ := bind_eq_ok.mp read
    cases missing
  | case3 header second rest ih =>
    obtain ⟨name, signature, proof, others, declared, proved, readRest, rfl⟩ :=
      theoremsOf_cons_eq_ok read
    rw [List.cons_append, List.cons_append, theoremsOf, declared, ih readRest]
    simp only [bind, Except.bind, proved]
    cases theoremsOf more <;> rfl

/-- What is wrong with a line stays wrong, whatever comes later. -/
theorem theoremsOf_append_of_error (refused : theoremsOf script = .error failure)
    (complete : ∀ name, failure.diagnostic ≠ .missingProof name) :
    theoremsOf (script ++ more) = .error failure := by
  fun_induction theoremsOf script with
  | case1 => cases refused
  | case2 header =>
    rcases theoremsOf_single_eq_error refused with bad | ⟨name, _, -, rfl⟩
    · -- the header is refused before anything behind it is looked at
      cases more with
      | nil => exact refused
      | cons second rest => exact bind_eq_error.mpr (.inl bad)
    · exact absurd rfl (complete name)
  | case3 header second rest ih =>
    rw [List.cons_append, List.cons_append, theoremsOf]
    rcases theoremsOf_cons_eq_error refused with
      bad | ⟨name, signature, declared, bad | ⟨proof, proved, bad⟩⟩
    · exact bind_eq_error.mpr (.inl bad)
    · exact bind_eq_error.mpr (.inr ⟨_, declared, bind_eq_error.mpr (.inl bad)⟩)
    · exact bind_eq_error.mpr (.inr ⟨_, declared, bind_eq_error.mpr
        (.inr ⟨proof, proved, bind_eq_error.mpr (.inl (ih bad))⟩)⟩)

end Script

/-! ### Scripts that have moved -/

/-- Both ends of the span have moved by a number of bytes. -/
structure Span.MovedBy (bytes : Nat) (span moved : Span) : Prop where
  start : moved.start.toNat = span.start.toNat + bytes
  stop : moved.stop.toNat = span.stop.toNat + bytes

/-- The theorem is the same, further down. -/
structure Theorem.MovedBy (bytes lines : Nat) (subject moved : Theorem) : Prop where
  name : moved.name = subject.name
  signature : moved.signature = subject.signature
  proof : moved.proof = subject.proof
  line : moved.line = subject.line + lines
  signatureSpan : subject.signatureSpan.MovedBy bytes moved.signatureSpan
  proofSpan : subject.proofSpan.MovedBy bytes moved.proofSpan

/-- The failure is the same, further down. -/
structure Failure.MovedBy (bytes lines : Nat) (failure moved : Failure) : Prop where
  subject : moved.subject = failure.subject
  diagnostic : moved.diagnostic = failure.diagnostic
  line : moved.line = failure.line + lines
  span : failure.span.MovedBy bytes moved.span

/-- A span in a text that is short enough moves exactly. -/
theorem Span.Covers.movedBy {span : Span} {source chars : List Char} {bytes : Nat}
    (covers : span.Covers source chars) (small : bytes + byteLength source < UInt32.size) :
    span.MovedBy bytes (span.shift bytes) := by
  obtain ⟨before, after, spelled, start, stop⟩ := covers
  have inside : byteLength source = byteLength before + byteLength chars + byteLength after := by
    rw [spelled, byteLength_append, byteLength_append]
  constructor
  · exact UInt32.toNat_ofNat_of_lt' (by omega)
  · exact UInt32.toNat_ofNat_of_lt' (by omega)

theorem IsPart.movedBy {source : List Char} {text : String} {span : Span} {bytes : Nat}
    (part : IsPart source text span) (small : bytes + byteLength source < UInt32.size) :
    span.MovedBy bytes (span.shift bytes) := by
  obtain ⟨excerpt, onLine, -, rfl⟩ := part
  exact (onLine.covers (by omega)).movedBy small

namespace Script

variable {bytes lines : Nat}

theorem movedBy_of_read {text : String} {theorems : List Theorem}
    (accepted : read text = .ok theorems) (small : bytes + byteLength text.toList < UInt32.size) :
    List.Forall₂ (Theorem.MovedBy bytes lines) theorems
      (theorems.map (Theorem.shift bytes lines)) := by
  rw [List.forall₂_map_right_iff, List.forall₂_same]
  intro subject member
  have part := readFrom_of_read accepted subject member
  exact ⟨rfl, rfl, rfl, rfl, part.signature.movedBy small, part.proof.movedBy small⟩

theorem failure_movedBy_of_read {text : String} {failure : Failure}
    (refused : read text = .error failure)
    (small : bytes + byteLength text.toList < UInt32.size) :
    failure.MovedBy bytes lines (failure.shift bytes lines) := by
  obtain ⟨line, member, bad⟩ := refused_of_read refused
  have covers := (onLine_of_mem_codeLines member).covers (by omega)
  rw [← bad.located.2.1] at covers
  exact ⟨rfl, rfl, rfl, covers.movedBy small⟩

/-- Two scripts with a newline between them. -/
theorem read_append_of_ok {left right : String} {theorems : List Theorem}
    (accepted : read left = .ok theorems) :
    read (left ++ "\n" ++ right) =
      (moved (left.utf8ByteSize + 1) (left.toList.count '\n' + 1)
        (List.map (Theorem.shift (left.utf8ByteSize + 1) (left.toList.count '\n' + 1)))
        (read right)).map (theorems ++ ·) := by
  have behind := splitLines_shift (left.utf8ByteSize + 1) right.toList 0 []
  rw [Nat.zero_add] at behind
  rw [read, codeLines_append, theoremsOf_append_of_ok accepted, behind, numberLines_shift,
    theoremsOf_shift]
  rfl

/-- Scripts are put together by putting their theorems together, the ones of the second script being
moved behind the first script. A failure in the second script is moved likewise, and a failure in
the first one stays, unless it is that a proof is missing. -/
theorem read_concatenation (left right : String)
    (small : left.utf8ByteSize + right.utf8ByteSize < UInt32.size - 1) :
    (∀ theorems others, read left = .ok theorems → read right = .ok others →
      ∃ moved, read (left ++ "\n" ++ right) = .ok (theorems ++ moved) ∧
        List.Forall₂ (Theorem.MovedBy (left.utf8ByteSize + 1) (1 + left.toList.count '\n'))
          others moved) ∧
    (∀ theorems failure, read left = .ok theorems → read right = .error failure →
      ∃ moved, read (left ++ "\n" ++ right) = .error moved ∧
        failure.MovedBy (left.utf8ByteSize + 1) (1 + left.toList.count '\n') moved) ∧
    ∀ failure, read left = .error failure → (∀ name, failure.diagnostic ≠ .missingProof name) →
      read (left ++ "\n" ++ right) = .error failure := by
  have fits : left.utf8ByteSize + 1 + byteLength right.toList < UInt32.size := by
    rw [byteLength_toList]
    omega
  rw [Nat.add_comm 1]
  refine ⟨fun theorems others accepted acceptedRight => ?_,
    fun theorems failure accepted refused => ?_, fun failure refused complete => ?_⟩
  · refine ⟨_, ?_, movedBy_of_read acceptedRight fits⟩
    rw [read_append_of_ok accepted, acceptedRight]
    rfl
  · refine ⟨_, ?_, failure_movedBy_of_read refused fits⟩
    rw [read_append_of_ok accepted, refused]
    rfl
  · rw [read, codeLines_append]
    exact theoremsOf_append_of_error refused complete

/-- A script that ends without a newline. -/
def reflexive : String := "# sums\ntheorem a : Z = Z\nproof Refl"

/-- A script with a line that ends in a carriage return and with characters of several bytes. -/
def commented : String :=
  "# é\r\ntheorem é : (n : Nat) -> plus n Z = n # →\n\nproof plusZeroRight n\n"

/-- A script that begins with a proof. -/
def headless : String := "\nproof Refl"

theorem read_concatenation_reflexive :
    reflexive.utf8ByteSize + commented.utf8ByteSize < UInt32.size - 1 ∧
      read reflexive = .ok [⟨"a", "Z = Z", "Refl", 2, .ofNat 19 24, .ofNat 31 35⟩] ∧
      read commented = .ok [⟨"é", "(n : Nat) -> plus n Z = n", "plusZeroRight n", 2, .ofNat 19 44,
        .ofNat 58 73⟩] ∧
      read headless = .error ⟨none, 2, .ofNat 1 11, .expectedTheorem "proof Refl"⟩ ∧
      (∃ moved, read (reflexive ++ "\n" ++ commented) =
          .ok ([⟨"a", "Z = Z", "Refl", 2, .ofNat 19 24, .ofNat 31 35⟩] ++ moved) ∧
        List.Forall₂ (Theorem.MovedBy 36 3)
          [⟨"é", "(n : Nat) -> plus n Z = n", "plusZeroRight n", 2, .ofNat 19 44, .ofNat 58 73⟩]
          moved) ∧
      (∃ moved, read (reflexive ++ "\n" ++ headless) = .error moved ∧
        Failure.MovedBy 36 3 ⟨none, 2, .ofNat 1 11, .expectedTheorem "proof Refl"⟩ moved) ∧
      read (headless ++ "\n" ++ reflexive) =
        .error ⟨none, 2, .ofNat 1 11, .expectedTheorem "proof Refl"⟩ := by
  have small : reflexive.utf8ByteSize + commented.utf8ByteSize < UInt32.size - 1 := by
    decide +kernel
  have smallRefused : reflexive.utf8ByteSize + headless.utf8ByteSize < UInt32.size - 1 := by
    decide +kernel
  have smallHeadless : headless.utf8ByteSize + reflexive.utf8ByteSize < UInt32.size - 1 := by
    decide +kernel
  have first : read reflexive =
      .ok [⟨"a", "Z = Z", "Refl", 2, .ofNat 19 24, .ofNat 31 35⟩] := by
    decide +kernel
  have second : read commented = .ok [⟨"é", "(n : Nat) -> plus n Z = n", "plusZeroRight n", 2,
      .ofNat 19 44, .ofNat 58 73⟩] := by
    decide +kernel
  have refused : read headless =
      .error ⟨none, 2, .ofNat 1 11, .expectedTheorem "proof Refl"⟩ := by
    decide +kernel
  exact ⟨small, first, second, refused, (read_concatenation _ _ small).1 _ _ first second,
    (read_concatenation _ _ smallRefused).2.1 _ _ first refused,
    (read_concatenation _ _ smallHeadless).2.2 _ refused fun _ => Diagnostic.noConfusion⟩

end Script

end ProofScript
