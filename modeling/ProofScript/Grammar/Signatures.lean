import ProofScript.Grammar.Types
import ProofScript.Signature

/-!
# The grammar of signatures

    signature := ( "(" IDENT ":" type ")" "->" )* type

The arguments of the type that follows the named parameters become parameters without a name. No
two parameters share a name, the positional ones included.
-/
namespace ProofScript.Grammar

/-- Reads named parameters, after those in `earlier`, until none follows. Each of them takes tokens
off, so a budget of the number of tokens suffices. -/
def namedParams : Nat → List Param → List Token → Except GrammarError (List Param × List Token)
  | fuel + 1, earlier, .leftParen :: .ident name :: .colon :: rest => do
    let name ← checkBinder name
    let (type, rest) ← type rest
    let rest ← expect .rightParen rest
    let rest ← expect .arrow rest
    if earlier.any (·.name == name) then
      .error (.duplicateParameter name)
    else
      namedParams fuel (earlier ++ [⟨name, type⟩]) rest
  | _, earlier, rest => .ok (earlier, rest)

/-- Anonymous parameters of the given types, numbered from `index` on. -/
def anonymousParams : Nat → List Ty → List Param
  | _, [] => []
  | index, type :: types => Param.anonymous index type :: anonymousParams (index + 1) types

/-- The signature with the parameters `named`, followed by what the type `residual` quantifies
over. -/
def closeSignature (named : List Param) (residual : Ty) : Except GrammarError Signature :=
  let unnamed := anonymousParams 0 residual.arrowArgs
  match unnamed.find? fun param => named.any (·.name == param.name) with
  | some param => .error (.duplicateParameter param.name)
  | none => .ok ⟨named ++ unnamed, residual.arrowResult⟩

/-- Reads a signature that takes up all of `tokens`. -/
def signature (tokens : List Token) : Except GrammarError Signature := do
  let (named, rest) ← namedParams tokens.length [] tokens
  let residual ← complete type rest
  closeSignature named residual

end ProofScript.Grammar
