import ProofScript.Proofs.Failure.Report
import ProofScript.Proofs.Script.Reading
import ProofScript.Proofs.Token.Stray
import ProofScript.Proofs.Verification.Blame

/-!
# What a failure points at

A failure that comes from a script points at a stretch of one of its lines. If the script cannot be
read, this is the line that is refused. If a theorem fails its check, it is the part of the theorem
that is to blame, or the stray character in that part.

So every report of the failure shows the line as a whole, and what is marked of it is what the
failure points at.

## Main result

`failures_located`: what failures of a script point at, and that their reports show it.
-/
namespace ProofScript

open Text

/-! ### Stray characters are in the part that is to blame -/

section Stray

variable {stray : StrayCharacter}

theorem Refl.check_ne_stray (limit : Nat) (signature : Signature) :
    Refl.check limit signature ≠ .error (.stray stray) := by
  intro refused
  rcases bind_eq_error.mp refused with unevaluated | ⟨sides, -, differ⟩
  · unfold Refl.evaluate at unevaluated
    split at unevaluated
    next => cases unevaluated
    next =>
      rcases bind_eq_error.mp unevaluated with left | ⟨_, -, unevaluated⟩
      · obtain ⟨cause, -, other⟩ := mapError_eq_error.mp left
        cases other
      rcases bind_eq_error.mp unevaluated with right | ⟨_, -, returned⟩
      · obtain ⟨cause, -, other⟩ := mapError_eq_error.mp right
        cases other
      · cases returned
  · unfold Refl.compare at differ
    split at differ
    next => cases differ
    next =>
      split at differ
      next => cases differ
      next => split at differ <;> cases differ

theorem Method.stray_of_ofProof {proof : String}
    (refused : Method.ofProof proof = .error (.stray stray)) : stray.In 0 proof.toList := by
  unfold Method.ofProof at refused
  split at refused
  next => cases refused
  next =>
    rcases bind_eq_error.mp refused with unread | ⟨term, -, refused⟩
    · exact stray_of_readText unread
    rcases bind_eq_error.mp refused with unsupported | ⟨_, -, returned⟩
    · cases term <;> cases unsupported
    · cases returned

theorem Theorem.Blames.stray_in {limit : Nat} {catalog : Catalog} {subject : Theorem}
    {part : Theorem.Part} (blames : subject.Blames limit catalog part (.stray stray)) :
    stray.In 0 (subject.part part).toList := by
  cases blames with
  | unreadSignature unread => exact stray_of_readText unread
  | unreadProof _ unread => exact Method.stray_of_ofProof unread
  | refuted _ _ refused => exact absurd refused (Refl.check_ne_stray limit _)

end Stray

/-! ### Pointing -/

theorem Theorem.ReadFrom.isPart {subject : Theorem} {source : List Char}
    (readFrom : subject.ReadFrom source) (part : Theorem.Part) :
    IsPart source (subject.part part) (subject.span part) := by
  cases part with
  | signature => exact readFrom.signature
  | proof => exact readFrom.proof

namespace Theorem

variable {span : Span} {source chars : List Char} {stray : StrayCharacter}

theorem pointAt_of_ne_stray {diagnostic : Diagnostic}
    (other : ∀ character, diagnostic ≠ .stray character) : pointAt span diagnostic = span := by
  cases diagnostic with
  | stray character => exact absurd rfl (other character)
  | _ => rfl

/-- A stray character is found in the text from its offset in the part. -/
theorem covers_pointAt (covers : span.Covers source chars) (inPart : stray.In 0 chars)
    (small : byteLength source < UInt32.size) :
    (pointAt span (.stray stray)).Covers source [stray.char] ∧
      (pointAt span (.stray stray)).start.toNat = span.start.toNat + stray.offset := by
  obtain ⟨front, rest, split, offset⟩ := inPart
  have notNull := covers.isNull_eq_false (by simp [split])
  obtain ⟨before, after, spelled, start, stop⟩ := covers
  rw [Nat.zero_add] at offset
  have positive := stray.char.utf8Size_pos
  have width : byteLength [stray.char] = stray.char.utf8Size := rfl
  have length : byteLength chars = byteLength front + stray.char.utf8Size + byteLength rest := by
    rw [split, byteLength_append, byteLength_cons, Nat.add_assoc]
  have total : byteLength source = byteLength before + byteLength chars + byteLength after := by
    rw [spelled, byteLength_append, byteLength_append]
  -- the character is in the part, so that something is left of the span from there on
  have inside : ¬ span.stop.toNat ≤ span.start.toNat + stray.offset := by omega
  have begins : (span.drop stray.offset).start.toNat = span.start.toNat + stray.offset := by
    rw [Span.drop, if_neg inside]
    exact UInt32.toNat_ofNat_of_lt' (by omega)
  have ends : ((span.drop stray.offset).start + .ofNat stray.char.utf8Size).toNat =
      span.start.toNat + stray.offset + stray.char.utf8Size := by
    have size : UInt32.size = 2 ^ 32 := rfl
    rw [UInt32.toNat_add, begins, UInt32.toNat_ofNat', Nat.add_mod_mod]
    exact Nat.mod_eq_of_lt (by omega)
  have pointed : pointAt span (.stray stray) = ⟨(span.drop stray.offset).start,
      (span.drop stray.offset).start + .ofNat stray.char.utf8Size⟩ := by
    rw [pointAt, notNull]
    rfl
  rw [pointed]
  refine ⟨⟨before ++ front, rest ++ after, ?_, ?_, ?_⟩, begins⟩
  · rw [spelled, split]
    simp
  · rw [begins, start, offset, byteLength_append]
  · rw [ends, start, offset, byteLength_append, width]

end Theorem

/-! ### Failures of a script -/

variable {text : String} {failure : Failure}

/-- The line that is refused is what the failure points at. -/
theorem Script.Line.Refused.exists_pointsAt {line : Script.Line} (refused : line.Refused failure)
    (member : line ∈ Script.codeLines text) (small : text.utf8ByteSize < UInt32.size - 1) :
    ∃ stretch : Stretch text, stretch.chars = line.code.chars ∧ failure.PointsAt stretch := by
  have fits := byteLength_lt_size small
  have onLine := Script.onLine_of_mem_codeLines member
  obtain ⟨-, span, -⟩ := refused.located
  have covers : failure.span.Covers text.toList line.code.chars := by
    rw [span]
    exact onLine.covers fits
  exact Failure.exists_pointsAt covers onLine.trimmed.nonempty onLine.oneLine

/-- The part that is to blame, or the stray character in it, is what the failure points at. -/
theorem Theorem.Blames.exists_pointsAt {limit : Nat} {catalog : Catalog} {subject : Theorem}
    {part : Theorem.Part} {diagnostic : Diagnostic}
    (blames : subject.Blames limit catalog part diagnostic)
    (failed : failure = subject.failure (subject.span part) diagnostic)
    (readFrom : subject.ReadFrom text.toList) (small : text.utf8ByteSize < UInt32.size - 1) :
    ∃ stretch : Stretch text, failure.PointsAt stretch ∧
      (∀ character, diagnostic = .stray character → stretch.chars = [character.char] ∧
        failure.span.start.toNat = (subject.span part).start.toNat + character.offset) ∧
      ((∀ character, diagnostic ≠ .stray character) → failure.span = subject.span part ∧
        stretch.chars = (subject.part part).toList) := by
  have fits := byteLength_lt_size small
  obtain ⟨covers, nonempty, oneLine⟩ := (readFrom.isPart part).covers fits
  have span : failure.span = Theorem.pointAt (subject.span part) diagnostic := by
    rw [failed]
    rfl
  by_cases other : ∀ character, diagnostic ≠ .stray character
  · rw [Theorem.pointAt_of_ne_stray other] at span
    rw [← span] at covers
    obtain ⟨stretch, same, pointsAt⟩ := Failure.exists_pointsAt covers nonempty oneLine
    exact ⟨stretch, pointsAt, fun character stray => absurd stray (other character),
      fun _ => ⟨span, same⟩⟩
  · simp only [not_forall, not_not] at other
    obtain ⟨stray, rfl⟩ := other
    have inPart := blames.stray_in
    obtain ⟨coversStray, begins⟩ := Theorem.covers_pointAt covers inPart fits
    rw [← span] at coversStray begins
    -- the part is on one line, and so is the character
    have strayLine : '\n' ∉ [stray.char] := by
      obtain ⟨before, after, split, -⟩ := inPart
      simp only [split, List.mem_append, List.mem_cons, not_or] at oneLine
      simp [oneLine.2.1]
    obtain ⟨stretch, same, pointsAt⟩ :=
      Failure.exists_pointsAt coversStray (List.cons_ne_nil _ _) strayLine
    refine ⟨stretch, pointsAt, ?_, fun none => absurd rfl (none stray)⟩
    intro character found
    cases found
    exact ⟨same, begins⟩

/-- A failure to read a script points at the line that is refused. A failure to verify what was read
points at the part of the first theorem to fail that is to blame, or at the stray character in it.
What either one points at is what its reports show. -/
theorem failures_located (small : text.utf8ByteSize < UInt32.size - 1) :
    (∀ failure, Script.read text = .error failure →
      ∃ line ∈ Script.codeLines text, line.Refused failure ∧
        (∀ character, failure.diagnostic ≠ .stray character) ∧
        failure.span = line.code.span ∧
        ∃ stretch : Stretch text, stretch.chars = line.code.chars ∧ failure.PointsAt stretch ∧
          failure.ShownAt stretch) ∧
    ∀ theorems limit failure, Script.read text = .ok theorems →
      verify limit theorems = .error failure →
      ∃ catalog passed subject rest part, loadCatalog = .ok catalog ∧
        theorems = passed ++ subject :: rest ∧
        (∀ other ∈ passed, other.check limit catalog = .ok ()) ∧
        subject.Blames limit catalog part failure.diagnostic ∧
        failure.subject = some subject.name ∧ failure.line = subject.line ∧
        ∃ stretch : Stretch text, failure.PointsAt stretch ∧ failure.ShownAt stretch ∧
          (∀ character, failure.diagnostic = .stray character →
            stretch.chars = [character.char] ∧
            failure.span.start.toNat = (subject.span part).start.toNat + character.offset) ∧
          ((∀ character, failure.diagnostic ≠ .stray character) →
            failure.span = subject.span part ∧
            stretch.chars = (subject.part part).toList) := by
  constructor
  · intro failure unread
    obtain ⟨line, member, refused⟩ := Script.refused_of_read unread
    obtain ⟨-, span, script⟩ := refused.located
    obtain ⟨stretch, same, pointsAt⟩ := refused.exists_pointsAt member small
    refine ⟨line, member, refused, ?_, span, stretch, same, pointsAt, pointsAt.shownAt small⟩
    intro character stray
    rw [stray] at script
    cases script
  · intro theorems limit failure accepted refused
    obtain ⟨catalog, loaded, passed, subject, rest, split, before, failed⟩ :=
      verify_eq_error refused
    obtain ⟨part, diagnostic, blames, located⟩ := Theorem.blames_of_check failed
    have readFrom : subject.ReadFrom text.toList :=
      Script.readFrom_of_read accepted subject (by simp [split])
    obtain ⟨stretch, pointsAt, stray, whole⟩ := blames.exists_pointsAt located readFrom small
    have carried : failure.diagnostic = diagnostic := by rw [located]; rfl
    rw [carried]
    exact ⟨catalog, passed, subject, rest, part, loaded, split, before, blames,
      by rw [located]; rfl, by rw [located]; rfl, stretch, pointsAt, pointsAt.shownAt small,
      stray, whole⟩

/-- A script with a character that no token begins with, behind characters of several bytes. -/
def strayArrow : String := "# é\n theorem ü : Z = →Z # no\r\n\tproof Refl"

/-- What is read from `strayArrow`. -/
def strayArrowTheorem : Theorem :=
  ⟨"ü", "Z = →Z", "Refl", 2, .ofNat 19 27, .ofNat 41 45⟩

/-- What verifying it ends with. -/
def strayArrowFailure : Failure :=
  ⟨some "ü", 2, .ofNat 23 26, .stray ⟨4, '→'⟩⟩

/-- The line that is shown of it. The arrow takes up three bytes. -/
def strayArrowSnippet : Snippet :=
  ⟨" theorem ü : Z = →Z # no\r", 2, "arrow.rp", true,
    ⟨.error, 18, 21, "unexpected character '→'"⟩⟩

theorem failures_located_strayArrow :
    strayArrow.utf8ByteSize < UInt32.size - 1 ∧
      Script.read strayArrow = .ok [strayArrowTheorem] ∧
      verify 100 [strayArrowTheorem] = .error strayArrowFailure ∧
      ∃ stretch : Stretch strayArrow, stretch.chars = ['→'] ∧
        strayArrowFailure.PointsAt stretch ∧
        ∃ report cache,
          strayArrowFailure.report (.alone "arrow.rp" strayArrow) .empty = .ok (report, cache) ∧
          report.snippet = some strayArrowSnippet ∧
          strayArrowSnippet.Shows strayArrowFailure "arrow.rp" stretch := by
  have small : strayArrow.utf8ByteSize < UInt32.size - 1 := by decide +kernel
  have accepted : Script.read strayArrow = .ok [strayArrowTheorem] := by decide +kernel
  have refused : verify 100 [strayArrowTheorem] = .error strayArrowFailure := by
    obtain ⟨catalog, loaded⟩ := exists_loadCatalog
    have unread : Signature.parse strayArrowTheorem.signature = .error (.stray ⟨4, '→'⟩) := by
      decide +kernel
    have pointed : strayArrowTheorem.failure (strayArrowTheorem.span .signature)
        (.stray ⟨4, '→'⟩) = strayArrowFailure := by
      decide +kernel
    have failed : strayArrowTheorem.check 100 catalog = .error strayArrowFailure := by
      rw [(Theorem.Blames.unreadSignature unread).check_eq_error, pointed]
    have checked : checkAll 100 catalog [strayArrowTheorem] = .error strayArrowFailure :=
      bind_eq_error.mpr (.inl failed)
    exact bind_eq_error.mpr (.inr ⟨catalog, loaded, checked⟩)
  have shown : (strayArrowFailure.report (.alone "arrow.rp" strayArrow) .empty).map
      (fun result => result.1.snippet) = .ok (some strayArrowSnippet) := by
    decide +kernel
  obtain ⟨_, _, _, _, _, -, -, -, -, -, -, stretch, pointsAt, shownAt, stray, -⟩ :=
    (failures_located small).2 _ _ _ accepted refused
  obtain ⟨report, snippet, cache, reported, carried, shows, -⟩ :=
    shownAt (.alone "arrow.rp" strayArrow) .empty rfl (PositionCache.rightAbout_empty _)
  rw [reported] at shown
  have same : report.snippet = some strayArrowSnippet := Except.ok.inj shown
  rw [same] at carried
  cases carried
  exact ⟨small, accepted, refused, stretch, (stray _ rfl).1, pointsAt, report, cache, reported,
    same, shows⟩

end ProofScript
