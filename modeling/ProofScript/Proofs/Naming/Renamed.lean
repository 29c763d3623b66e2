import Mathlib.Logic.Relator
import ProofScript.Proofs.Naming.Scope

/-!
# Consistent renamings

Two signatures are consistent renamings of each other if they have the same shape and the same
constants, if one bijection takes the type variables of the first to those of the second, and if the
names of terms correspond in a walk through both of them at once. The walk keeps the pairs of names
that correspond: parameters in the order of their declaration, the binders of lambdas, and the free
variables that were met together.

Nothing is said of canonical names here.
-/
namespace ProofScript

/-- Names of two signatures that correspond, the last ones first. -/
abbrev Pairs := List (String × String)

/-- The innermost pair that has one of the two names has both of them. -/
inductive Paired : Pairs → String → String → Prop
  | here {pairs : Pairs} {left right : String} : Paired ((left, right) :: pairs) left right
  | there {pairs : Pairs} {left right left' right' : String} :
    left ≠ left' → right ≠ right' → Paired pairs left right →
    Paired ((left', right') :: pairs) left right

/-- Neither of the two names is in scope. -/
def Unpaired (pairs : Pairs) (left right : String) : Prop :=
  left ∉ pairs.map Prod.fst ∧ right ∉ pairs.map Prod.snd

namespace Term

mutual

/-- The second term is the first one renamed, `bound` being the binders around them, `known` the
other names in scope before the terms and `known'` those after them. -/
inductive Renamed : (bound known : Pairs) → Term → Term → (known' : Pairs) → Prop
  | const {bound known : Pairs} (name : String) :
    Renamed bound known (.const name) (.const name) known
  | inScope {bound known : Pairs} {left right : String} :
    Paired (bound ++ known) left right → Renamed bound known (.var left) (.var right) known
  | met {bound known : Pairs} {left right : String} :
    Unpaired (bound ++ known) left right →
    Renamed bound known (.var left) (.var right) ((left, right) :: known)
  | app {bound known known' : Pairs} {left right : String} {args args' : List Term} :
    Paired (bound ++ known) left right ∨ Unpaired (bound ++ known) left right ∧ left = right →
    RenamedArgs bound known args args' known' →
    Renamed bound known (.app left args) (.app right args') known'
  | lambda {bound known known' : Pairs} {left right : String} {body body' : Term} :
    Renamed ((left, right) :: bound) known body body' known' →
    Renamed bound known (.lambda left body) (.lambda right body') known'

inductive RenamedArgs : (bound known : Pairs) → List Term → List Term → (known' : Pairs) → Prop
  | nil {bound known : Pairs} : RenamedArgs bound known [] [] known
  | cons {bound known known' known'' : Pairs} {arg arg' : Term} {args args' : List Term} :
    Renamed bound known arg arg' known' → RenamedArgs bound known' args args' known'' →
    RenamedArgs bound known (arg :: args) (arg' :: args') known''

end

end Term

namespace Ty

/-- The heads of types correspond: they are the same constant, or variables that `types` relates. -/
def RenamedHead (types : String → String → Prop) (left right : String) : Prop :=
  isTypeConstant left = true ∧ left = right ∨
    isTypeConstant left = false ∧ isTypeConstant right = false ∧ types left right

mutual

/-- The second type is the first one renamed, where `types` relates the type variables. -/
inductive Renamed (types : String → String → Prop) :
    (known : Pairs) → Ty → Ty → (known' : Pairs) → Prop
  | const {known : Pairs} (name : String) : Renamed types known (.const name) (.const name) known
  | var {known : Pairs} {left right : String} :
    types left right → Renamed types known (.var left) (.var right) known
  | app {known known' : Pairs} {left right : String} {args args' : List Ty} :
    RenamedHead types left right → RenamedArgs types known args args' known' →
    Renamed types known (.app left args) (.app right args') known'
  | eq {known known' known'' : Pairs} {left left' right right' : Term} :
    left.Renamed [] known left' known' → right.Renamed [] known' right' known'' →
    Renamed types known (.eq left right) (.eq left' right') known''
  | arrow {known known' known'' : Pairs} {source source' target target' : Ty} :
    Renamed types known source source' known' → Renamed types known' target target' known'' →
    Renamed types known (.arrow source target) (.arrow source' target') known''

inductive RenamedArgs (types : String → String → Prop) :
    (known : Pairs) → List Ty → List Ty → (known' : Pairs) → Prop
  | nil {known : Pairs} : RenamedArgs types known [] [] known
  | cons {known known' known'' : Pairs} {arg arg' : Ty} {args args' : List Ty} :
    Renamed types known arg arg' known' → RenamedArgs types known' args args' known'' →
    RenamedArgs types known (arg :: args) (arg' :: args') known''

end

end Ty

namespace Signature

/-- The second parameters are the first ones renamed. A parameter is in scope in its own type. -/
inductive RenamedParams (types : String → String → Prop) :
    (known : Pairs) → List Param → List Param → (known' : Pairs) → Prop
  | nil {known : Pairs} : RenamedParams types known [] [] known
  | cons {known known' known'' : Pairs} {param param' : Param} {params params' : List Param} :
    param.type.Renamed types ((param.name, param'.name) :: known) param'.type known' →
    RenamedParams types known' params params' known'' →
    RenamedParams types known (param :: params) (param' :: params') known''

/-- The second signature is the first one renamed. -/
def Renamed (left right : Signature) : Prop :=
  ∃ types : String → String → Prop, Relator.BiUnique types ∧ ∃ known known' : Pairs,
    RenamedParams types [] left.params right.params known ∧
      left.result.Renamed types known right.result known'

end Signature

end ProofScript
