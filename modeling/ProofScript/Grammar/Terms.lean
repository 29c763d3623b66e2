import ProofScript.Grammar.Reading
import ProofScript.Term

/-!
# The grammar of terms

    term := atom atom*
    atom := "(" term ")" | "\" IDENT "=>" term | IDENT

A term ends at a closing parenthesis, an equals sign, an arrow or a comma, or with the tokens. A
lambda therefore reaches to the end of the term it stands in.

The readings recurse on a budget. Between two tokens taken off, at most three calls are nested, so
the budget computed from the number of tokens never runs out.
-/
namespace ProofScript.Grammar

/-- Nested calls that suffice for reading `tokens`. -/
def budget (tokens : List Token) : Nat :=
  3 * tokens.length + 3

/-- Whether no further argument of a term follows. -/
def endsTerm : List Token → Bool
  | [] | .rightParen :: _ | .equals :: _ | .arrow :: _ | .comma :: _ => true
  | _ => false

/-- A name as a term. -/
def nameTerm (name : String) : Term :=
  if isTermConstant name then .const name else .var name

/-- The application of `head` to `args`. Only a plain name can be applied. -/
def applyTerm (head : Term) (args : List Term) : Except GrammarError Term :=
  match args, head with
  | [], _ => .ok head
  | _, .var name => .ok (.app name args)
  | _, .const name => .ok (.app name args)
  | _, _ => .error (.badApplication head.render)

mutual

def termWithin : Nat → List Token → Except GrammarError (Term × List Token)
  | 0, _ => .error .unexpectedEnd
  | fuel + 1, tokens => do
    let (head, rest) ← termAtom fuel tokens
    let (args, rest) ← termArgs fuel rest
    let term ← applyTerm head args
    return (term, rest)

def termAtom : Nat → List Token → Except GrammarError (Term × List Token)
  | 0, _ => .error .unexpectedEnd
  | _ + 1, [] => .error .unexpectedEnd
  | fuel + 1, .leftParen :: rest => do
    let (inner, rest) ← termWithin fuel rest
    let rest ← expect .rightParen rest
    return (inner, rest)
  | fuel + 1, .lambda :: rest => do
    let (param, rest) ← binder rest
    let rest ← expect .fatArrow rest
    let (body, rest) ← termWithin fuel rest
    return (.lambda param body, rest)
  | _ + 1, .ident name :: rest => do
    let name ← checkIdentifier name
    return (nameTerm name, rest)
  | _ + 1, found :: _ => .error (.unexpectedToken found.spelling)

def termArgs : Nat → List Token → Except GrammarError (List Term × List Token)
  | 0, _ => .error .unexpectedEnd
  | fuel + 1, tokens =>
    if endsTerm tokens then .ok ([], tokens)
    else do
      let (arg, rest) ← termAtom fuel tokens
      let (args, rest) ← termArgs fuel rest
      return (arg :: args, rest)

end

/-- Takes a term off the front of `tokens`. -/
def term (tokens : List Token) : Except GrammarError (Term × List Token) :=
  termWithin (budget tokens) tokens

end ProofScript.Grammar
