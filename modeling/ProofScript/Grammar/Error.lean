/-!
# Grammar violations

The ways in which a sequence of tokens can fail to be a term, a type or a signature.
-/
namespace ProofScript

inductive GrammarError where
  /-- The tokens ran out. -/
  | unexpectedEnd
  /-- Something in particular was required. -/
  | expected (what found : String)
  /-- A token that begins neither a type nor a term. -/
  | unexpectedToken (found : String)
  /-- A token left over after a complete expression. -/
  | trailingToken (found : String)
  /-- A name that begins with a digit. -/
  | badIdentifier (name : String)
  /-- An application whose head is no plain name. -/
  | badApplication (head : String)
  /-- Two parameters of one signature have the same name. -/
  | duplicateParameter (name : String)
  /-- A binder spelled like a constant. -/
  | constantBinder (name : String)
deriving DecidableEq, Repr

def GrammarError.message : GrammarError → String
  | .unexpectedEnd => "unexpected end of input"
  | .expected what found => "expected '" ++ what ++ "', got '" ++ found ++ "'"
  | .unexpectedToken found => "unexpected token '" ++ found ++ "'"
  | .trailingToken found => "unexpected token '" ++ found ++ "' after a complete expression"
  | .badIdentifier name => "'" ++ name ++ "' is not a valid identifier"
  | .badApplication head =>
    "'" ++ head ++ "' cannot be applied; application heads must be names"
  | .duplicateParameter name => "parameter '" ++ name ++ "' is declared more than once"
  | .constantBinder name => "'" ++ name ++ "' cannot be bound; bound names start in lowercase"

end ProofScript
