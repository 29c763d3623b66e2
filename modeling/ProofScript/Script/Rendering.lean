import ProofScript.Grammar
import ProofScript.Script

/-!
# Writing scripts

A script is written back with its signatures in printed form, under a header that names the module
and where the theorems came from. Writing stops at the first signature that cannot be read; what was
written up to there stands.
-/
namespace ProofScript.Script

/-- A theorem as it is written, after an empty line. -/
def renderTheorem (subject : Theorem) (signature : Signature) : String :=
  "\ntheorem " ++ subject.name ++ " : " ++ signature.render ++ "\nproof " ++ subject.proof ++ "\n"

/-- The theorems as they are written, and how far that went. -/
def renderTheorems : List Theorem → String × Except Failure Unit
  | [] => ("", .ok ())
  | subject :: rest =>
    match Signature.parse subject.signature with
    | .error diagnostic =>
      ("", .error ⟨some subject.name, subject.line, subject.signatureSpan, diagnostic⟩)
    | .ok signature =>
      let (text, outcome) := renderTheorems rest
      (renderTheorem subject signature ++ text, outcome)

/-- A script with the given theorems, and how far writing it went. -/
def render (moduleName sourceName : String) (theorems : List Theorem) :
    String × Except Failure Unit :=
  let (text, outcome) := renderTheorems theorems
  ("# module " ++ moduleName ++ "\n# rendered from " ++ sourceName ++ "\n" ++ text, outcome)

end ProofScript.Script
