import ProofScript.Catalog

/-!
# Proofs by citation

A proof may name a lemma, possibly with arguments, which do not matter. The signature has to be that
of the lemma up to the choice of names.
-/
namespace ProofScript.Citation

/-- The lemma that a proof names. -/
def ofProof : Term → Except Diagnostic String
  | .var name | .const name | .app name _ => .ok name
  | proof => .error (.unsupportedProof proof.render)

/-- Checks that a signature is that of the lemma called `name`. -/
def check (catalog : Catalog) (signature : Signature) (name : String) : Except Diagnostic Unit :=
  match catalog.find? name with
  | none => .error (.unknownLemma name)
  | some stated =>
    if signature.canonical = stated then .ok () else .error (.signatureMismatch name)

end ProofScript.Citation
