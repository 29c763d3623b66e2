import ProofScript.Evaluation.Error
import ProofScript.Grammar.Error
import ProofScript.Token.Lexer

/-!
# Diagnostics

Everything that can go wrong with a script, from reading it to checking its proofs, and how it is
put into words.
-/
namespace ProofScript

/-- The classes of diagnostics that a caller may want to tell apart. -/
inductive DiagnosticCategory where
  | lexical
  | parse
  | eval
  | proofFailed
  | unsupportedProof
  | unknownLemma
  | signatureMismatch
  | script
  | input
deriving DecidableEq, Repr

inductive Diagnostic where
  /-- A character that no token begins with. -/
  | stray (character : StrayCharacter)
  | parse (error : GrammarError)
  | eval (error : EvaluationError)
  /-- `Refl` is claimed of something that is no equation. -/
  | reflNotEquality
  /-- One side of the equation depends on a name without a value. -/
  | reflStuck (side : String)
  /-- The sides of the equation have different values. -/
  | reflMismatch (left right : String)
  | unsupportedProof (proof : String)
  | unknownLemma (name : String)
  | signatureMismatch (name : String)
  | expectedTheorem (line : String)
  | missingColon
  | missingTheoremName
  | missingSignature
  | expectedProof (name line : String)
  | missingProof (name : String)
  | missingProofExpression (name : String)
  /-- The script could not be read, or the result not be written. -/
  | input (cause : String)
deriving DecidableEq, Repr

namespace Diagnostic

def category : Diagnostic → DiagnosticCategory
  | .stray _ => .lexical
  | .parse _ => .parse
  | .eval _ => .eval
  | .reflNotEquality | .reflStuck _ | .reflMismatch _ _ => .proofFailed
  | .unsupportedProof _ => .unsupportedProof
  | .unknownLemma _ => .unknownLemma
  | .signatureMismatch _ => .signatureMismatch
  | .expectedTheorem _ | .missingColon | .missingTheoremName | .missingSignature
  | .expectedProof _ _ | .missingProof _ | .missingProofExpression _ => .script
  | .input _ => .input

/-- What a report is headed with. -/
def heading : Diagnostic → String
  | .stray _ => "Invalid character"
  | .parse _ => "Parse error"
  | .eval _ => "Evaluation error"
  | .reflNotEquality | .reflStuck _ | .reflMismatch _ _ => "Proof failed"
  | .unsupportedProof _ => "Unsupported proof"
  | .unknownLemma _ => "Unknown lemma"
  | .signatureMismatch _ => "Signature mismatch"
  | .expectedTheorem _ | .missingColon | .missingTheoremName | .missingSignature =>
    "Malformed theorem declaration"
  | .expectedProof _ _ | .missingProof _ | .missingProofExpression _ => "Malformed proof"
  | .input _ => "I/O error"

/-- Advice that goes with the diagnostic. -/
def advice : Diagnostic → List String
  | .reflNotEquality => ["Refl can only prove equality signatures"]
  | .reflStuck _ =>
    ["terms containing free variables cannot be reduced; cite a lemma from the catalog instead"]
  | .unsupportedProof _ => ["use Refl or a lemma name"]
  | .expectedTheorem _ => ["declarations have the form: theorem <name> : <type>"]
  | .expectedProof _ _ | .missingProof _ =>
    ["each theorem must be followed by a line of the form: proof <expression>"]
  | _ => []

def message : Diagnostic → String
  | .stray character => "unexpected character '" ++ String.singleton character.char ++ "'"
  | .parse error => error.message
  | .eval error => error.message
  | .reflNotEquality => "Refl can only prove equality signatures"
  | .reflStuck side => "Refl failed: '" ++ side ++ "' does not reduce to a value"
  | .reflMismatch left right => "Refl failed: " ++ left ++ " does not normalize to " ++ right
  | .unsupportedProof proof =>
    "unsupported proof expression '" ++ proof ++ "'; use Refl or a lemma name"
  | .unknownLemma name => "unknown lemma '" ++ name ++ "'"
  | .signatureMismatch name => "theorem signature does not match lemma '" ++ name ++ "'"
  | .expectedTheorem line => "expected 'theorem <name> : <type>', got: " ++ line
  | .missingColon => "missing ':' in theorem declaration"
  | .missingTheoremName => "missing theorem name"
  | .missingSignature => "missing theorem signature"
  | .expectedProof name line =>
    "expected 'proof <expression>' after theorem '" ++ name ++ "', got: " ++ line
  | .missingProof name => "missing proof for theorem '" ++ name ++ "'"
  | .missingProofExpression name => "missing proof expression for theorem '" ++ name ++ "'"
  | .input cause => cause

/-- An error that a diagnostic wraps. -/
inductive Cause where
  | parse (error : GrammarError)
  | eval (error : EvaluationError)
deriving DecidableEq, Repr

def Cause.message : Cause → String
  | .parse error => error.message
  | .eval error => error.message

/-- The error that the diagnostic wraps, if any. -/
def cause? : Diagnostic → Option Cause
  | .parse error => some (.parse error)
  | .eval error => some (.eval error)
  | _ => none

/-- A diagnostic says what the error that it wraps says. -/
theorem message_cause {diagnostic : Diagnostic} {cause : Cause}
    (wraps : diagnostic.cause? = some cause) : cause.message = diagnostic.message := by
  cases diagnostic <;> cases wraps <;> rfl

end Diagnostic

end ProofScript
