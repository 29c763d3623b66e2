import ProofScript.Proofs.Verification.Citation

/-!
# What a failed check blames

A theorem fails its check for one of five reasons, and each of them is about its signature or about
its proof. The failure carries the name of the theorem and the diagnostic, and points at the part
that is to blame.

What is to blame, and why, depends on the signature only through what it is read as.
-/
namespace ProofScript

namespace Theorem

/-- The parts of a theorem that a failure can be about. -/
inductive Part where
  | signature
  | proof
deriving DecidableEq

/-- Where the part stands. -/
def span (subject : Theorem) : Part → Span
  | .signature => subject.signatureSpan
  | .proof => subject.proofSpan

/-- The text of the part. -/
def part (subject : Theorem) : Part → String
  | .signature => subject.signature
  | .proof => subject.proof

/-- Checking the theorem fails with a diagnostic, and this part of it is to blame. -/
inductive Blames (limit : Nat) (catalog : Catalog) (subject : Theorem) : Part → Diagnostic → Prop
  | unreadSignature {diagnostic : Diagnostic} :
    Signature.parse subject.signature = .error diagnostic →
    Blames limit catalog subject .signature diagnostic
  | unreadProof {signature : Signature} {diagnostic : Diagnostic} :
    Signature.parse subject.signature = .ok signature →
    Method.ofProof subject.proof = .error diagnostic →
    Blames limit catalog subject .proof diagnostic
  | refuted {signature : Signature} {diagnostic : Diagnostic} :
    Signature.parse subject.signature = .ok signature →
    Method.ofProof subject.proof = .ok .refl →
    Refl.check limit signature = .error diagnostic →
    Blames limit catalog subject .signature diagnostic
  | unknownLemma {signature : Signature} {name : String} :
    Signature.parse subject.signature = .ok signature →
    Method.ofProof subject.proof = .ok (.citation name) →
    Citation.check catalog signature name = .error (.unknownLemma name) →
    Blames limit catalog subject .proof (.unknownLemma name)
  | otherLemma {signature : Signature} {name : String} :
    Signature.parse subject.signature = .ok signature →
    Method.ofProof subject.proof = .ok (.citation name) →
    Citation.check catalog signature name = .error (.signatureMismatch name) →
    Blames limit catalog subject .signature (.signatureMismatch name)

end Theorem

theorem Citation.check_eq_error {catalog : Catalog} {signature : Signature} {name : String}
    {diagnostic : Diagnostic}
    (refused : Citation.check catalog signature name = .error diagnostic) :
    diagnostic = .unknownLemma name ∨ diagnostic = .signatureMismatch name := by
  unfold Citation.check at refused
  split at refused
  next =>
    cases refused
    exact .inl rfl
  next =>
    split at refused <;> cases refused
    exact .inr rfl

namespace Theorem

variable {limit : Nat} {catalog : Catalog} {subject : Theorem} {failure : Failure}

theorem read_of_parse {signature : Signature} {method : Method}
    (parses : Signature.parse subject.signature = .ok signature)
    (proves : Method.ofProof subject.proof = .ok method) :
    subject.read = .ok (signature, method) :=
  bind_eq_ok.mpr ⟨signature, atSignature_eq_ok_iff.mpr parses,
    bind_eq_ok.mpr ⟨method, atProof_eq_ok_iff.mpr proves, rfl⟩⟩

theorem read_eq_error (refused : subject.read = .error failure) :
    ∃ part diagnostic, Blames limit catalog subject part diagnostic ∧
      failure = subject.failure (subject.span part) diagnostic := by
  rcases bind_eq_error.mp refused with unread | ⟨signature, parses, refused⟩
  · obtain ⟨diagnostic, cause, rfl⟩ := mapError_eq_error.mp unread
    exact ⟨.signature, diagnostic, .unreadSignature cause, rfl⟩
  rw [atSignature_eq_ok_iff] at parses
  rcases bind_eq_error.mp refused with unread | ⟨method, -, returned⟩
  · obtain ⟨diagnostic, cause, rfl⟩ := mapError_eq_error.mp unread
    exact ⟨.proof, diagnostic, .unreadProof parses cause, rfl⟩
  · cases returned

/-- A failed check points at the part that is to blame. -/
theorem blames_of_check (refused : subject.check limit catalog = .error failure) :
    ∃ part diagnostic, Blames limit catalog subject part diagnostic ∧
      failure = subject.failure (subject.span part) diagnostic := by
  rcases bind_eq_error.mp refused with unread | ⟨⟨signature, method⟩, read, refused⟩
  · exact read_eq_error unread
  obtain ⟨parsed, parses, ran⟩ := bind_eq_ok.mp read
  obtain ⟨found, proves, done⟩ := bind_eq_ok.mp ran
  cases done
  rw [atSignature_eq_ok_iff] at parses
  rw [atProof_eq_ok_iff] at proves
  cases method with
  | refl =>
    obtain ⟨diagnostic, cause, rfl⟩ := mapError_eq_error.mp refused
    exact ⟨.signature, diagnostic, .refuted parses proves cause, rfl⟩
  | citation name =>
    dsimp only at refused
    cases cited : Citation.check catalog signature name with
    | ok =>
      rw [cited] at refused
      cases refused
    | error diagnostic =>
      rw [cited] at refused
      rcases Citation.check_eq_error cited with rfl | rfl
      · cases refused
        exact ⟨.proof, _, .unknownLemma parses proves cited, rfl⟩
      · cases refused
        exact ⟨.signature, _, .otherLemma parses proves cited, rfl⟩

/-- Where a part is to blame, the check fails. -/
theorem Blames.check_eq_error {part : Part} {diagnostic : Diagnostic}
    (blames : Blames limit catalog subject part diagnostic) :
    subject.check limit catalog = .error (subject.failure (subject.span part) diagnostic) := by
  cases blames with
  | unreadSignature unread =>
    refine bind_eq_error.mpr (.inl (bind_eq_error.mpr (.inl ?_)))
    exact mapError_eq_error.mpr ⟨_, unread, rfl⟩
  | @unreadProof signature _ parses unread =>
    have fails : subject.atProof (Method.ofProof subject.proof) =
        .error (subject.failure subject.proofSpan diagnostic) :=
      mapError_eq_error.mpr ⟨_, unread, rfl⟩
    refine bind_eq_error.mpr (.inl (bind_eq_error.mpr (.inr ⟨signature, ?_, ?_⟩)))
    · exact atSignature_eq_ok_iff.mpr parses
    · exact bind_eq_error.mpr (.inl fails)
  | refuted parses proves refused =>
    refine bind_eq_error.mpr (.inr ⟨_, read_of_parse parses proves, ?_⟩)
    exact mapError_eq_error.mpr ⟨_, refused, rfl⟩
  | unknownLemma parses proves refused =>
    refine bind_eq_error.mpr (.inr ⟨_, read_of_parse parses proves, ?_⟩)
    dsimp only
    rw [refused]
    rfl
  | otherLemma parses proves refused =>
    refine bind_eq_error.mpr (.inr ⟨_, read_of_parse parses proves, ?_⟩)
    dsimp only
    rw [refused]
    rfl

/-- Theorems whose signatures are read as the same, and whose proofs are the same text. -/
structure SameStatement (subject other : Theorem) : Prop where
  name : other.name = subject.name
  signature : ∃ signature, Signature.parse subject.signature = .ok signature ∧
    Signature.parse other.signature = .ok signature
  proof : other.proof = subject.proof

theorem Blames.transfer {other : Theorem} {part : Part} {diagnostic : Diagnostic}
    (same : SameStatement subject other) (blames : Blames limit catalog subject part diagnostic) :
    Blames limit catalog other part diagnostic := by
  obtain ⟨-, ⟨signature, parses, parsesOther⟩, proof⟩ := same
  have only : ∀ found, Signature.parse subject.signature = .ok found →
      Signature.parse other.signature = .ok found := by
    intro found parsed
    rw [parses] at parsed
    rw [parsesOther, parsed]
  cases blames with
  | unreadSignature unread =>
    -- the signature is readable
    rw [parses] at unread
    cases unread
  | unreadProof parsed unread => exact .unreadProof (only _ parsed) (proof ▸ unread)
  | refuted parsed proves refused => exact .refuted (only _ parsed) (proof ▸ proves) refused
  | unknownLemma parsed proves refused =>
    exact .unknownLemma (only _ parsed) (proof ▸ proves) refused
  | otherLemma parsed proves refused => exact .otherLemma (only _ parsed) (proof ▸ proves) refused

end Theorem

/-- What a failure says, apart from where. -/
def Failure.finding (failure : Failure) : Option String × Diagnostic :=
  (failure.subject, failure.diagnostic)

namespace Theorem

variable {limit : Nat} {catalog : Catalog} {subject other : Theorem}

/-- The same statement has the same verdict. -/
theorem SameStatement.check_eq (same : SameStatement subject other) :
    (other.check limit catalog).mapError Failure.finding =
      (subject.check limit catalog).mapError Failure.finding := by
  cases checked : subject.check limit catalog with
  | ok =>
    obtain ⟨signature, method, parses, proves, accepted⟩ := check_eq_ok_iff.mp checked
    obtain ⟨found, parsed, parsedOther⟩ := same.signature
    rw [parsed] at parses
    cases parses
    have accepted : other.check limit catalog = .ok () :=
      check_eq_ok_iff.mpr ⟨signature, method, parsedOther, same.proof ▸ proves, accepted⟩
    rw [accepted]
  | error failure =>
    obtain ⟨part, diagnostic, blames, rfl⟩ := blames_of_check checked
    rw [(blames.transfer same).check_eq_error]
    -- both failures carry the name of the theorem and the diagnostic
    simp only [Except.mapError, Failure.finding, failure, same.name]

end Theorem

theorem checkAll_eq_of_sameStatement {limit : Nat} {catalog : Catalog}
    {theorems others : List Theorem}
    (same : List.Forall₂ Theorem.SameStatement theorems others) :
    (checkAll limit catalog others).mapError Failure.finding =
      (checkAll limit catalog theorems).mapError Failure.finding := by
  induction same with
  | nil => rfl
  | @cons subject other _ _ sameFirst _ ih =>
    have first : (other.check limit catalog).mapError Failure.finding =
        (subject.check limit catalog).mapError Failure.finding :=
      sameFirst.check_eq
    rw [checkAll, checkAll]
    -- either both fail, with the same finding, or both go on
    cases checked : subject.check limit catalog <;>
      cases checkedOther : other.check limit catalog <;>
      rw [checked, checkedOther] at first
    · exact first
    · cases first
    · cases first
    · exact ih

/-- Scripts that state the same have the same verdict. -/
theorem verify_eq_of_sameStatement {limit : Nat} {theorems others : List Theorem}
    (same : List.Forall₂ Theorem.SameStatement theorems others) :
    (verify limit others).mapError Failure.finding =
      (verify limit theorems).mapError Failure.finding := by
  unfold verify
  cases loadCatalog with
  | ok catalog => exact checkAll_eq_of_sameStatement same
  | error failure => rfl

/-! ### The theorem to blame -/

variable {limit : Nat} {catalog : Catalog} {theorems : List Theorem} {failure : Failure}

/-- A failed run has passed the theorems before the first one that fails. -/
theorem checkAll_eq_error (refused : checkAll limit catalog theorems = .error failure) :
    ∃ passed subject rest, theorems = passed ++ subject :: rest ∧
      (∀ other ∈ passed, other.check limit catalog = .ok ()) ∧
      subject.check limit catalog = .error failure := by
  induction theorems with
  | nil => cases refused
  | cons first theorems ih =>
    rcases bind_eq_error.mp refused with failed | ⟨_, accepted, refused⟩
    · exact ⟨[], first, theorems, rfl, by simp, failed⟩
    · obtain ⟨passed, subject, rest, split, before, failed⟩ := ih refused
      refine ⟨first :: passed, subject, rest, ?_, ?_, failed⟩
      · rw [split, List.cons_append]
      · exact List.forall_mem_cons.mpr ⟨accepted, before⟩

theorem exists_loadCatalog : ∃ catalog, loadCatalog = .ok catalog := by
  have loaded := Catalog.ofLemmas_of_reads Catalog.lemmas_read
  exact ⟨_, mapError_eq_ok.mpr loaded⟩

/-- The catalog can always be read, so that a failure is about a theorem. -/
theorem verify_eq_error (refused : verify limit theorems = .error failure) :
    ∃ catalog, loadCatalog = .ok catalog ∧ ∃ passed subject rest,
      theorems = passed ++ subject :: rest ∧
      (∀ other ∈ passed, other.check limit catalog = .ok ()) ∧
      subject.check limit catalog = .error failure := by
  obtain ⟨catalog, loaded⟩ := exists_loadCatalog
  rw [verify, loaded] at refused
  exact ⟨catalog, loaded, checkAll_eq_error refused⟩

end ProofScript
