import ProofScript.Grammar.Error
import ProofScript.Grammar.Name
import ProofScript.Token

/-!
# Reading tokens

A reading takes tokens off the front of a list and gives back what they stand for together with the
tokens that are left. Here are the readings of single tokens that the grammars share.
-/
namespace ProofScript.Grammar

/-- Takes off the token `wanted`. -/
def expect (wanted : Token) : List Token → Except GrammarError (List Token)
  | [] => .error .unexpectedEnd
  | found :: rest =>
    if found = wanted then .ok rest else .error (.expected wanted.spelling found.spelling)

/-- A name, which must not begin with a digit. -/
def checkIdentifier (name : String) : Except GrammarError String :=
  if isIdentifier name then .ok name else .error (.badIdentifier name)

/-- A name that is being bound. A constant cannot be, since its later uses would not refer to the
binder. -/
def checkBinder (name : String) : Except GrammarError String :=
  if !isIdentifier name then .error (.badIdentifier name)
  else if isTermConstant name then .error (.constantBinder name)
  else .ok name

/-- Takes off the name of a binder. -/
def binder : List Token → Except GrammarError (String × List Token)
  | [] => .error .unexpectedEnd
  | .ident name :: rest => do
    let name ← checkBinder name
    return (name, rest)
  | found :: _ => .error (.expected "identifier" found.spelling)

/-- Runs a reading that has to use up all tokens. -/
def complete {α : Type} (read : List Token → Except GrammarError (α × List Token))
    (tokens : List Token) : Except GrammarError α := do
  match ← read tokens with
  | (result, []) => .ok result
  | (_, left :: _) => .error (.trailingToken left.spelling)

end ProofScript.Grammar
