/-!
# Tokens

Signatures and proofs share one small set of tokens: names and a handful of punctuation marks.
Whether a name is a constant or a variable is left to the grammar.
-/
namespace ProofScript

inductive Token where
  | ident (name : String)
  | leftParen
  | rightParen
  | colon
  | comma
  | equals
  | arrow
  | fatArrow
  | lambda
deriving DecidableEq, Repr

/-- How the token is written. -/
def Token.spelling : Token → String
  | .ident name => name
  | .leftParen => "("
  | .rightParen => ")"
  | .colon => ":"
  | .comma => ","
  | .equals => "="
  | .arrow => "->"
  | .fatArrow => "=>"
  | .lambda => "\\"

/-- The token written as the single character `c`, if `c` is a punctuation mark. -/
def Token.ofMark? : Char → Option Token
  | '(' => some .leftParen
  | ')' => some .rightParen
  | ':' => some .colon
  | ',' => some .comma
  | '=' => some .equals
  | '\\' => some .lambda
  | _ => none

end ProofScript
