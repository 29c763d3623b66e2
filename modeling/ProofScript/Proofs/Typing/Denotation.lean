import Mathlib.Data.List.Forall2
import ProofScript.Proofs.Typing.Judgement

/-!
# The standard model

A simple type stands for a set: the natural numbers without a bound, the truth values, or the finite
lists over another such set. A builtin stands for a function on these sets, a lambda for the
function that its body defines, and a typed term for an element that depends on those of its
variables.

Nothing here refers to evaluation.
-/
namespace ProofScript

/-- The set that a type stands for. -/
@[reducible] def SimpleType.Carrier : SimpleType → Type
  | .nat => Nat
  | .bool => Bool
  | .list item => List item.Carrier

/-- Functions from the elements of some types to those of another. -/
@[reducible] def SimpleType.Curried : List SimpleType → SimpleType → Type
  | [], codomain => codomain.Carrier
  | type :: domain, codomain => type.Carrier → Curried domain codomain

/-- The function that a builtin stands for. -/
def Builtin.Typed.meaning : {builtin : Builtin} → {domain : List SimpleType} →
    {codomain : SimpleType} → builtin.Typed domain codomain → SimpleType.Curried domain codomain
  | _, _, _, .succ => fun n => n + 1
  | _, _, _, .plus => fun m n => m + n
  | _, _, _, .mult => fun m n => m * n
  | _, _, _, .pow => Nat.pow
  | _, _, _, .pred => fun n => n - 1
  | _, _, _, .double => fun n => 2 * n
  | _, _, _, .sub => fun m n => m - n
  | _, _, _, .min => Nat.min
  | _, _, _, .max => Nat.max
  | _, _, _, .isZero => fun n => n == 0
  | _, _, _, .even => fun n => n % 2 == 0
  | _, _, _, .odd => fun n => n % 2 == 1
  | _, _, _, .leq => fun m n => decide (m ≤ n)
  | _, _, _, .lt => fun m n => decide (m < n)
  | _, _, _, .eqNat => fun m n => m == n
  | _, _, _, .not => fun a => !a
  | _, _, _, .and => fun a b => a && b
  | _, _, _, .or => fun a b => a || b
  | _, _, _, .xor => Bool.xor
  | _, _, _, .ifThenElse _ => fun condition positive negative =>
    if condition then positive else negative
  | _, _, _, .cons _ => fun head tail => head :: tail
  | _, _, _, .append _ => fun left right => left ++ right
  | _, _, _, .length _ => List.length
  | _, _, _, .reverse _ => List.reverse
  | _, _, _, .snoc _ => fun items last => items ++ [last]
  | _, _, _, .concat _ => List.flatten
  | _, _, _, .replicate _ => List.replicate

/-- An element for every variable. -/
@[reducible] def Context.Valuation : Context → Type
  | [] => Unit
  | (_, type) :: context => type.Carrier × Valuation context

def Context.Has.value : {context : Context} → {name : String} → {type : SimpleType} →
    context.Has name type → context.Valuation → type.Carrier
  | _, _, _, .here, valuation => valuation.1
  | _, _, _, .there _ has, valuation => has.value valuation.2

namespace Term

mutual

/-- The element that a typed term stands for. -/
def Typed.denote : {context : Context} → {term : Term} → {type : SimpleType} →
    Typed context term type → context.Valuation → type.Carrier
  | _, _, _, .zero, _ => 0
  | _, _, _, .true, _ => Bool.true
  | _, _, _, .false, _ => Bool.false
  | _, _, _, .nil _, _ => []
  | _, _, _, .var has, valuation => has.value valuation
  | _, _, _, .call builtin args, valuation => args.denote valuation builtin.meaning
  | _, _, _, .map function items, valuation =>
    (items.denote valuation).map (function.denote valuation)
  | _, _, _, .filter test items, valuation =>
    (items.denote valuation).filter (test.denote valuation)

/-- What a function on the elements of the arguments takes them to. -/
def TypedArgs.denote : {context : Context} → {args : List Term} → {domain : List SimpleType} →
    {codomain : SimpleType} → TypedArgs context args domain → context.Valuation →
    SimpleType.Curried domain codomain → codomain.Carrier
  | _, _, _, _, .nil, _, result => result
  | _, _, _, _, .cons arg args, valuation, function =>
    args.denote valuation (function (arg.denote valuation))

def TypedFunction.denote : {context : Context} → {term : Term} → {domain codomain : SimpleType} →
    TypedFunction context term domain codomain → context.Valuation → domain.Carrier →
    codomain.Carrier
  | _, _, _, _, .mention _ _ builtin, _ => builtin.meaning
  | _, _, _, _, .lambda _ body, valuation => fun element => body.denote (element, valuation)

end

end Term

/-- The element of the set of `type` that a value is, if it is one. -/
def Value.meaning? : (type : SimpleType) → Value → Option type.Carrier
  | .nat, .nat n => some n.toNat
  | .bool, .bool b => some b
  | .list item, .list items => items.mapM (meaning? item)
  | _, _ => none

/-- An element of every set, for variables without a value. -/
def SimpleType.default : (type : SimpleType) → type.Carrier
  | .nat => 0
  | .bool => false
  | .list _ => []

/-- The elements that the values of the variables are. -/
def Env.valuation (env : Env) : (context : Context) → context.Valuation
  | [] => ()
  | (name, type) :: context =>
    (((env.find? name).bind (Value.meaning? type)).getD type.default, env.valuation context)

theorem Context.Has.value_valuation {context : Context} {name : String} {type : SimpleType}
    (has : context.Has name type) (env : Env) :
    has.value (env.valuation context) =
      ((env.find? name).bind (Value.meaning? type)).getD type.default := by
  induction has with
  | here => rfl
  | there _ _ ih => exact ih

/-- The environment binds the variables of the context to the elements of a valuation, and no
builtin. -/
structure Env.Assigns (env : Env) (context : Context) (valuation : context.Valuation) : Prop where
  foreign : env.Foreign
  assigned : ∀ {name : String} {type : SimpleType} (has : context.Has name type),
    ∃ v, env.find? name = some v ∧ v.meaning? type = some (has.value valuation)

end ProofScript
