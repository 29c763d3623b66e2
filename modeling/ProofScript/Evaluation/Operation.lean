import ProofScript.Builtin
import ProofScript.Evaluation.Error
import ProofScript.Value

/-!
# What the builtins compute

Each builtin is an operation on a fixed number of values. It looks at its arguments from left to
right and refuses the first one of the wrong kind. Naturals are computed without bound and refused
when they do not fit 64 bits.

The operations are written for any monad in which evaluation can fail, because `map` and `filter`
apply values and applying a value may do more than return or fail: it may also be recorded.
-/
namespace ProofScript

/-- A function of one, two or three values. -/
inductive Operation (m : Type → Type) where
  | unary (run : Value → m Value)
  | binary (run : Value → Value → m Value)
  | ternary (run : Value → Value → Value → m Value)

namespace Operation

def arity {m : Type → Type} : Operation m → Nat
  | .unary _ => 1
  | .binary _ => 2
  | .ternary _ => 3

/-- Applies the operation called `name` to as many arguments as it takes. -/
def apply {m : Type → Type} [MonadExceptOf EvaluationError m] (name : String) :
    Operation m → List Value → m Value
  | .unary run, [a] => run a
  | .binary run, [a, b] => run a b
  | .ternary run, [a, b, c] => run a b c
  | operation, args => throw (.arity name operation.arity args.length)

end Operation

variable {m : Type → Type} [Monad m] [MonadExceptOf EvaluationError m]

/-! ## Arguments and results -/

/-- The failure of a function that was given `found` where it needs a value of another kind. -/
def kindMismatch (function : String) (expected : Kind) (found : Value) : EvaluationError :=
  .kindMismatch function expected.name found.kind.name

def expectNat (function : String) : Value → m Nat
  | .nat n => pure n.toNat
  | other => throw (kindMismatch function .nat other)

def expectBool (function : String) : Value → m Bool
  | .bool b => pure b
  | other => throw (kindMismatch function .bool other)

def expectList (function : String) : Value → m (List Value)
  | .list items => pure items
  | other => throw (kindMismatch function .list other)

/-- The value of a natural number, if it fits. -/
def natural (function : String) (n : Nat) : m Value :=
  if n < UInt64.size then pure (.nat (.ofNat n)) else throw (.overflow function)

/-- The value of a power. An exponent beyond 32 bits is refused whatever the base is. Of bases over
one, the sixty-fourth power and all later ones are out of range, so they are not computed. -/
def power (function : String) (base exponent : Nat) : m Value :=
  if UInt32.size ≤ exponent || (1 < base && 64 ≤ exponent) then throw (.overflow function)
  else natural function (Nat.pow base exponent)

/-! ## Shapes of operations -/

/-- A natural from one natural. -/
def natToNat (function : String) (op : Nat → Nat) : Operation m :=
  .unary fun a => do
    let a ← expectNat function a
    natural function (op a)

/-- A value from two naturals. -/
def ofNats (function : String) (op : Nat → Nat → m Value) : Operation m :=
  .binary fun a b => do
    let a ← expectNat function a
    let b ← expectNat function b
    op a b

/-- A natural from two naturals. -/
def natsToNat (function : String) (op : Nat → Nat → Nat) : Operation m :=
  ofNats function fun a b => natural function (op a b)

/-- A truth value from one natural. -/
def natToBool (function : String) (test : Nat → Bool) : Operation m :=
  .unary fun a => do
    let a ← expectNat function a
    return .bool (test a)

/-- A truth value from two naturals. -/
def natsToBool (function : String) (test : Nat → Nat → Bool) : Operation m :=
  ofNats function fun a b => pure (.bool (test a b))

/-- A truth value from two truth values. -/
def boolsToBool (function : String) (op : Bool → Bool → Bool) : Operation m :=
  .binary fun a b => do
    let a ← expectBool function a
    let b ← expectBool function b
    return .bool (op a b)

/-! ## Lists of values -/

/-- The longest list that `replicate` makes. -/
def longestReplicate : Nat := 1048576

/-- Joins lists, given those already joined in reverse. An unknown list makes the result unknown,
whatever stands behind it. -/
def joinLists (function : String) (joined : List Value) : List Value → m Value
  | [] => pure (.list joined.reverse)
  | .unknown _ :: _ => pure (.unknown function)
  | .list items :: rest => joinLists function (items.reverse ++ joined) rest
  | other :: _ => throw (kindMismatch function .list other)

/-- Keeps the items for which `test` answers true, given those already kept in reverse. An unknown
answer makes the result unknown, and the items behind it are not tried. -/
def keepItems (function : String) (test : Value → m Value) (kept : List Value) :
    List Value → m Value
  | [] => pure (.list kept.reverse)
  | item :: rest => do
    match ← test item with
    | .bool true => keepItems function test (item :: kept) rest
    | .bool false => keepItems function test kept rest
    | .unknown _ => pure (.unknown function)
    | other => throw (kindMismatch function .bool other)

/-! ## The builtins -/

/-- What a builtin computes, `apply` being the application of one value to another. -/
def Builtin.operation (apply : Value → Value → m Value) (builtin : Builtin) : Operation m :=
  let name := builtin.name
  match builtin with
  | .succ => natToNat name (· + 1)
  | .plus => natsToNat name (· + ·)
  | .mult => natsToNat name (· * ·)
  | .pow => ofNats name (power name)
  | .pred => natToNat name (· - 1)
  | .double => natToNat name (2 * ·)
  | .sub => natsToNat name (· - ·)
  | .min => natsToNat name Nat.min
  | .max => natsToNat name Nat.max
  | .isZero => natToBool name (· == 0)
  | .even => natToBool name (· % 2 == 0)
  | .odd => natToBool name (· % 2 == 1)
  | .leq => natsToBool name fun a b => decide (a ≤ b)
  | .lt => natsToBool name fun a b => decide (a < b)
  | .eqNat => natsToBool name (· == ·)
  | .not => .unary fun a => do
    let a ← expectBool name a
    return .bool !a
  | .and => boolsToBool name (· && ·)
  | .or => boolsToBool name (· || ·)
  | .xor => boolsToBool name Bool.xor
  | .ifThenElse => .ternary fun condition positive negative => do
    let condition ← expectBool name condition
    return if condition then positive else negative
  | .cons => .binary fun head tail => do
    let tail ← expectList name tail
    return .list (head :: tail)
  | .append => .binary fun left right => do
    let left ← expectList name left
    let right ← expectList name right
    return .list (left ++ right)
  | .length => .unary fun items => do
    let items ← expectList name items
    natural name items.length
  | .reverse => .unary fun items => do
    let items ← expectList name items
    return .list items.reverse
  | .snoc => .binary fun items last => do
    let items ← expectList name items
    return .list (items ++ [last])
  | .concat => .unary fun lists => do
    let lists ← expectList name lists
    joinLists name [] lists
  | .replicate => .binary fun count item => do
    let count ← expectNat name count
    if longestReplicate < count then throw (.overflow name)
    else return .list (List.replicate count item)
  | .map => .binary fun function items => do
    let items ← expectList name items
    let results ← items.mapM (apply function)
    return .list results
  | .filter => .binary fun test items => do
    let items ← expectList name items
    keepItems name (apply test) [] items

end ProofScript
