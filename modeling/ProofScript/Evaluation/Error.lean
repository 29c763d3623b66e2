/-!
# Failures of evaluation

The ways in which evaluating a term can fail. Functions and kinds of values are given by their
names. Running into the limit on nested applications is kept apart from the others: it says nothing
about the term beyond its not having finished.
-/
namespace ProofScript

inductive EvaluationError where
  /-- A name that is neither bound nor a builtin was applied. -/
  | unknownFunction (name : String)
  /-- A constant without a value. -/
  | unknownConstant (name : String)
  /-- A value that is no function was applied. -/
  | notCallable (kind : String)
  /-- A builtin was given the wrong number of arguments. -/
  | arity (function : String) (expected found : Nat)
  /-- A builtin was given an argument of the wrong kind. -/
  | kindMismatch (function expected found : String)
  /-- A result is out of range. -/
  | overflow (function : String)
  /-- Applications are nested more deeply than the limit allows. -/
  | tooDeep
deriving DecidableEq, Repr

def EvaluationError.message : EvaluationError → String
  | .unknownFunction name => "unknown function '" ++ name ++ "'"
  | .unknownConstant name => "unknown constant '" ++ name ++ "'"
  | .notCallable kind => "a " ++ kind ++ " value cannot be used as a function"
  | .arity function expected found =>
    "'" ++ function ++ "' takes " ++ toString expected ++ " argument(s) but was given " ++
      toString found
  | .kindMismatch function expected found =>
    "'" ++ function ++ "' expected a " ++ expected ++ " but was given a " ++ found
  | .overflow function => "result of '" ++ function ++ "' is too large to evaluate"
  | .tooDeep => "applications are nested too deeply to evaluate"

end ProofScript
