import ProofScript.Ty

/-!
# Signatures

A theorem's signature quantifies over parameters and ends in a result type. A parameter declared
without a name is given a positional one; the spelling of that name is what marks it as anonymous
when the signature is printed.
-/
namespace ProofScript

structure Param where
  name : String
  type : Ty
deriving DecidableEq

namespace Param

/-- What the names of anonymous parameters begin with. -/
def anonymousStem : String := "_param_"

/-- The anonymous parameter that has `index` others before it. -/
def anonymous (index : Nat) (type : Ty) : Param :=
  ⟨anonymousStem ++ toString index, type⟩

/-- Whether the parameter is printed without its name. -/
def isAnonymous (param : Param) : Bool :=
  anonymousStem.toList.isPrefixOf param.name.toList

/-- The parameter as it is written before an arrow. -/
def render (param : Param) : String :=
  if param.isAnonymous then param.type.renderSource
  else "(" ++ param.name ++ " : " ++ param.type.render ++ ")"

end Param

structure Signature where
  params : List Param
  result : Ty
deriving DecidableEq

namespace Signature

/-- The parameters as they are written, each followed by an arrow. -/
def renderParams : List Param → String
  | [] => ""
  | param :: params => param.render ++ " -> " ++ renderParams params

/-- The signature as it is written. -/
def render (signature : Signature) : String :=
  renderParams signature.params ++ signature.result.render

end Signature

end ProofScript
