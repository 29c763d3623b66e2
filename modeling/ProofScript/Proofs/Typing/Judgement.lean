import ProofScript.Proofs.Environment

/-!
# Simple types

The terms that are meant to be evaluated have simple types: numbers, truth values and lists. A
builtin has the types that one expects of it, at every type of items. Functions are no values of a
simple type. They are only handed to `map` and `filter`, either as a builtin that may be mentioned
or as a lambda.

Derivations are data, because what a term stands for is computed from how it is typed.
-/
namespace ProofScript

inductive SimpleType where
  | nat
  | bool
  | list (item : SimpleType)
deriving DecidableEq, Repr

/-- The types of the arguments and of the result of a builtin, `map` and `filter` apart. -/
inductive Builtin.Typed : Builtin → List SimpleType → SimpleType → Type
  | succ : Typed .succ [.nat] .nat
  | plus : Typed .plus [.nat, .nat] .nat
  | mult : Typed .mult [.nat, .nat] .nat
  | pow : Typed .pow [.nat, .nat] .nat
  | pred : Typed .pred [.nat] .nat
  | double : Typed .double [.nat] .nat
  | sub : Typed .sub [.nat, .nat] .nat
  | min : Typed .min [.nat, .nat] .nat
  | max : Typed .max [.nat, .nat] .nat
  | isZero : Typed .isZero [.nat] .bool
  | even : Typed .even [.nat] .bool
  | odd : Typed .odd [.nat] .bool
  | leq : Typed .leq [.nat, .nat] .bool
  | lt : Typed .lt [.nat, .nat] .bool
  | eqNat : Typed .eqNat [.nat, .nat] .bool
  | not : Typed .not [.bool] .bool
  | and : Typed .and [.bool, .bool] .bool
  | or : Typed .or [.bool, .bool] .bool
  | xor : Typed .xor [.bool, .bool] .bool
  | ifThenElse (type : SimpleType) : Typed .ifThenElse [.bool, type, type] type
  | cons (item : SimpleType) : Typed .cons [item, .list item] (.list item)
  | append (item : SimpleType) : Typed .append [.list item, .list item] (.list item)
  | length (item : SimpleType) : Typed .length [.list item] .nat
  | reverse (item : SimpleType) : Typed .reverse [.list item] (.list item)
  | snoc (item : SimpleType) : Typed .snoc [.list item, item] (.list item)
  | concat (item : SimpleType) : Typed .concat [.list (.list item)] (.list item)
  | replicate (item : SimpleType) : Typed .replicate [.nat, item] (.list item)

/-- The types of variables, the innermost first. -/
abbrev Context := List (String × SimpleType)

/-- The innermost binding of a name has the given type. -/
inductive Context.Has : Context → String → SimpleType → Type
  | here {context : Context} {name : String} {type : SimpleType} :
    Has ((name, type) :: context) name type
  | there {context : Context} {name other : String} {type otherType : SimpleType} :
    name ≠ other → Has context name type → Has ((other, otherType) :: context) name type

namespace Term

mutual

/-- The term has the given simple type. -/
inductive Typed : Context → Term → SimpleType → Type
  | zero {context : Context} : Typed context (.const "Z") .nat
  | true {context : Context} : Typed context (.const "True") .bool
  | false {context : Context} : Typed context (.const "False") .bool
  | nil {context : Context} (item : SimpleType) : Typed context (.const "Nil") (.list item)
  | var {context : Context} {name : String} {type : SimpleType} :
    context.Has name type → Typed context (.var name) type
  | call {context : Context} {builtin : Builtin} {args : List Term} {domain : List SimpleType}
      {type : SimpleType} :
    builtin.Typed domain type → TypedArgs context args domain →
    Typed context (.app builtin.name args) type
  | map {context : Context} {function items : Term} {domain codomain : SimpleType} :
    TypedFunction context function domain codomain → Typed context items (.list domain) →
    Typed context (.app Builtin.map.name [function, items]) (.list codomain)
  | filter {context : Context} {test items : Term} {item : SimpleType} :
    TypedFunction context test item .bool → Typed context items (.list item) →
    Typed context (.app Builtin.filter.name [test, items]) (.list item)

inductive TypedArgs : Context → List Term → List SimpleType → Type
  | nil {context : Context} : TypedArgs context [] []
  | cons {context : Context} {arg : Term} {args : List Term} {type : SimpleType}
      {types : List SimpleType} :
    Typed context arg type → TypedArgs context args types →
    TypedArgs context (arg :: args) (type :: types)

/-- The term is a function of one argument that may be handed to `map` and `filter`. -/
inductive TypedFunction : Context → Term → SimpleType → SimpleType → Type
  | mention {context : Context} {builtin : Builtin} {term : Term} {domain codomain : SimpleType} :
    builtin ∈ Builtin.callables → term = .var builtin.name ∨ term = .const builtin.name →
    builtin.Typed [domain] codomain → TypedFunction context term domain codomain
  | lambda {context : Context} {param : String} {body : Term} {domain codomain : SimpleType} :
    Builtin.ofName? param = none → Typed ((param, domain) :: context) body codomain →
    TypedFunction context (.lambda param body) domain codomain

end

mutual

/-- How deeply lambdas are nested in a term. -/
def lambdaDepth : Term → Nat
  | .const _ => 0
  | .var _ => 0
  | .app _ args => lambdaDepthArgs args
  | .lambda _ body => lambdaDepth body + 1

def lambdaDepthArgs : List Term → Nat
  | [] => 0
  | arg :: args => Nat.max (lambdaDepth arg) (lambdaDepthArgs args)

end

end Term

/-- Whether the value is of the given type. Nothing in it is unknown then. -/
def Value.hasType : SimpleType → Value → Bool
  | .nat, .nat _ => true
  | .bool, .bool _ => true
  | .list item, .list items => items.all (hasType item)
  | _, _ => false

/-- The environment binds the variables of the context to values of their types, and no builtin. -/
structure Env.Fits (env : Env) (context : Context) : Prop where
  foreign : env.Foreign
  typed : ∀ {name : String} {type : SimpleType}, context.Has name type →
    ∃ v, env.find? name = some v ∧ v.hasType type = true

end ProofScript
