import ProofScript.Grammar.Terms
import ProofScript.Ty

/-!
# The grammar of types

    type        := equality | application | application "->" type
    equality    := term "=" term
    application := atom atom*
    atom        := "(" type ")" | IDENT

A type is read as an equality when an equals sign comes up at the current level of parentheses
before any arrow does. The budget is that of the grammar of terms.
-/
namespace ProofScript.Grammar

/-- Whether `tokens`, read from within `depth` pairs of parentheses, have an equals sign outside of
them before any arrow there. -/
def equalsAhead : Nat → List Token → Bool
  | _, [] => false
  | depth, .leftParen :: rest => equalsAhead (depth + 1) rest
  | 0, .rightParen :: _ => false
  | depth + 1, .rightParen :: rest => equalsAhead depth rest
  | 0, .equals :: _ => true
  | 0, .arrow :: _ => false
  | depth, _ :: rest => equalsAhead depth rest

/-- Whether no further argument of a type follows. -/
def endsApplication : List Token → Bool
  | [] | .rightParen :: _ | .arrow :: _ | .equals :: _ => true
  | _ => false

/-- A name as a type. -/
def nameType (name : String) : Ty :=
  if isTypeConstant name then .const name else .var name

/-- The application of `head` to `args`. Only a plain name can be applied. -/
def applyType (head : Ty) (args : List Ty) : Except GrammarError Ty :=
  match args, head with
  | [], _ => .ok head
  | _, .const name => .ok (.app name args)
  | _, .var name => .ok (.app name args)
  | _, _ => .error (.badApplication head.render)

mutual

def typeWithin : Nat → List Token → Except GrammarError (Ty × List Token)
  | 0, _ => .error .unexpectedEnd
  | fuel + 1, tokens =>
    if equalsAhead 0 tokens then do
      let (left, rest) ← term tokens
      let rest ← expect .equals rest
      let (right, rest) ← term rest
      return (.eq left right, rest)
    else do
      match ← typeApplication fuel tokens with
      | (source, .arrow :: rest) =>
        let (target, rest) ← typeWithin fuel rest
        return (.arrow source target, rest)
      | (type, rest) => return (type, rest)

def typeApplication : Nat → List Token → Except GrammarError (Ty × List Token)
  | 0, _ => .error .unexpectedEnd
  | fuel + 1, tokens => do
    let (head, rest) ← typeAtom fuel tokens
    let (args, rest) ← typeArgs fuel rest
    let type ← applyType head args
    return (type, rest)

def typeAtom : Nat → List Token → Except GrammarError (Ty × List Token)
  | 0, _ => .error .unexpectedEnd
  | _ + 1, [] => .error .unexpectedEnd
  | fuel + 1, .leftParen :: rest => do
    let (inner, rest) ← typeWithin fuel rest
    let rest ← expect .rightParen rest
    return (inner, rest)
  | _ + 1, .ident name :: rest => do
    let name ← checkIdentifier name
    return (nameType name, rest)
  | _ + 1, found :: _ => .error (.unexpectedToken found.spelling)

def typeArgs : Nat → List Token → Except GrammarError (List Ty × List Token)
  | 0, _ => .error .unexpectedEnd
  | fuel + 1, tokens =>
    if endsApplication tokens then .ok ([], tokens)
    else do
      let (arg, rest) ← typeAtom fuel tokens
      let (args, rest) ← typeArgs fuel rest
      return (arg :: args, rest)

end

/-- Takes a type off the front of `tokens`. -/
def type (tokens : List Token) : Except GrammarError (Ty × List Token) :=
  typeWithin (budget tokens) tokens

end ProofScript.Grammar
