import ProofScript.Diagnostic
import ProofScript.Source.Span

/-!
# Failures

A failure is a diagnostic together with the theorem and the place in the source that it concerns, as
far as they are known.
-/
namespace ProofScript

structure Failure where
  /-- The theorem that was being read or checked. -/
  subject : Option String
  /-- The line of the theorem's declaration, or the offending line; zero if unknown. -/
  line : Nat
  /-- What to point at in the source. -/
  span : Span
  diagnostic : Diagnostic
deriving DecidableEq, Repr

namespace Failure

/-- A diagnostic that concerns no place in particular. -/
def ofDiagnostic (diagnostic : Diagnostic) : Failure :=
  ⟨none, 0, .null, diagnostic⟩

/-- The failure in one line. -/
def message (failure : Failure) : String :=
  let what := failure.diagnostic.message
  match failure.subject, failure.line with
  | some name, 0 => "theorem '" ++ name ++ "': " ++ what
  | some name, line => "theorem '" ++ name ++ "' (line " ++ toString line ++ "): " ++ what
  | none, 0 => what
  | none, line => "line " ++ toString line ++ ": " ++ what

/-- What the failure is due to, from the diagnostic to what that is due to in turn. -/
def causes (failure : Failure) : List String :=
  failure.diagnostic.message :: (failure.diagnostic.cause?.map Diagnostic.Cause.message).toList

end Failure

end ProofScript
