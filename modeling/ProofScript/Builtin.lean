/-!
# Builtins

The functions that evaluation knows. Some of them may also be mentioned without arguments, which
makes them values that can be handed to `map` and `filter`; all of those take one argument.
-/
namespace ProofScript

inductive Builtin where
  | succ
  | cons
  | plus
  | mult
  | pow
  | pred
  | double
  | sub
  | min
  | max
  | isZero
  | even
  | odd
  | leq
  | lt
  | eqNat
  | not
  | and
  | or
  | xor
  | ifThenElse
  | append
  | length
  | reverse
  | snoc
  | concat
  | replicate
  | map
  | filter
deriving DecidableEq, Repr

def Builtin.all : List Builtin :=
  [.succ, .cons, .plus, .mult, .pow, .pred, .double, .sub, .min, .max, .isZero, .even, .odd, .leq,
   .lt, .eqNat, .not, .and, .or, .xor, .ifThenElse, .append, .length, .reverse, .snoc, .concat,
   .replicate, .map, .filter]

def Builtin.name : Builtin → String
  | .succ => "S"
  | .cons => "Cons"
  | .plus => "plus"
  | .mult => "mult"
  | .pow => "pow"
  | .pred => "pred"
  | .double => "double"
  | .sub => "sub"
  | .min => "min"
  | .max => "max"
  | .isZero => "isZero"
  | .even => "even"
  | .odd => "odd"
  | .leq => "leq"
  | .lt => "lt"
  | .eqNat => "eqNat"
  | .not => "not"
  | .and => "and"
  | .or => "or"
  | .xor => "xor"
  | .ifThenElse => "ifThenElse"
  | .append => "append"
  | .length => "length"
  | .reverse => "reverse"
  | .snoc => "snoc"
  | .concat => "concat"
  | .replicate => "replicate"
  | .map => "map"
  | .filter => "filter"

/-- The builtins that may be mentioned without arguments. -/
def Builtin.callables : List Builtin :=
  [.succ, .pred, .double, .isZero, .not, .even, .odd, .length, .reverse, .concat]

/-- The builtin called `name`. -/
def Builtin.ofName? (name : String) : Option Builtin :=
  Builtin.all.find? (·.name == name)

/-- Whether a builtin called `name` may be mentioned without arguments. -/
def Builtin.isCallable (name : String) : Bool :=
  Builtin.callables.any (·.name == name)

end ProofScript
