/-!
# Kinds of values

What an error message calls a value.
-/
namespace ProofScript

inductive Kind where
  | nat
  | bool
  | list
  | callable
  | lambda
  | unknown
deriving DecidableEq, Repr

def Kind.name : Kind → String
  | .nat => "Nat"
  | .bool => "Bool"
  | .list => "List"
  | .callable => "Callable"
  | .lambda => "Lambda"
  | .unknown => "Unknown"

end ProofScript
