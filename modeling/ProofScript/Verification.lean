import ProofScript.Script
import ProofScript.Verification.Citation
import ProofScript.Verification.Refl

/-!
# Verification

A theorem is proved by evaluation if its proof is `Refl`, and by citing a lemma otherwise. A failure
is located at the signature or at the proof, and a stray character at itself. Theorems are checked
in order, and the first failure ends the run.
-/
namespace ProofScript

/-- How a theorem is proved. -/
inductive Method where
  | refl
  | citation (name : String)
deriving DecidableEq, Repr

/-- The method that the text of a proof stands for. -/
def Method.ofProof (proof : String) : Except Diagnostic Method :=
  if Text.trim proof.toList = "Refl".toList then .ok .refl
  else do
    let term ← Term.parse proof
    let name ← Citation.ofProof term
    return .citation name

namespace Theorem

/-- The part of `span` to point at: a stray character, if the diagnostic is about one in the text
that stands there. -/
def pointAt (span : Span) : Diagnostic → Span
  | .stray character =>
    if span.isNull then span
    else
      let start := (span.drop character.offset).start
      ⟨start, start + .ofNat character.char.utf8Size⟩
  | _ => span

/-- A failure in the part of the theorem that stands at `span`. -/
def failure (subject : Theorem) (span : Span) (diagnostic : Diagnostic) : Failure :=
  ⟨some subject.name, subject.line, pointAt span diagnostic, diagnostic⟩

def atSignature {α : Type} (subject : Theorem) (result : Except Diagnostic α) :
    Except Failure α :=
  result.mapError (subject.failure subject.signatureSpan)

def atProof {α : Type} (subject : Theorem) (result : Except Diagnostic α) : Except Failure α :=
  result.mapError (subject.failure subject.proofSpan)

/-- A citation is at fault in the proof if it names no lemma, and in the signature otherwise. -/
def atCitation {α : Type} (subject : Theorem) (result : Except Diagnostic α) : Except Failure α :=
  match result with
  | .error (.unknownLemma name) => subject.atProof (.error (.unknownLemma name))
  | result => subject.atSignature result

/-- The signature of a theorem and the method of its proof. -/
def read (subject : Theorem) : Except Failure (Signature × Method) := do
  let signature ← subject.atSignature (Signature.parse subject.signature)
  let method ← subject.atProof (Method.ofProof subject.proof)
  return (signature, method)

/-- Checks the proof of a theorem. -/
def check (limit : Nat) (catalog : Catalog) (subject : Theorem) : Except Failure Unit := do
  match ← subject.read with
  | (signature, .refl) => subject.atSignature (Refl.check limit signature)
  | (signature, .citation name) => subject.atCitation (Citation.check catalog signature name)

end Theorem

/-- The catalog of all lemmas; a lemma that cannot be read is what the failure is about. -/
def loadCatalog : Except Failure Catalog :=
  Catalog.standard.mapError fun (name, diagnostic) => ⟨some name, 0, .null, diagnostic⟩

/-- Checks theorems one after the other. -/
def checkAll (limit : Nat) (catalog : Catalog) : List Theorem → Except Failure Unit
  | [] => .ok ()
  | subject :: rest => do
    subject.check limit catalog
    checkAll limit catalog rest

/-- Checks theorems against the catalog of all lemmas. -/
def verify (limit : Nat) (theorems : List Theorem) : Except Failure Unit := do
  checkAll limit (← loadCatalog) theorems

end ProofScript
