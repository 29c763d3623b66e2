import ProofScript.Term
import ProofScript.Value.Kind

/-!
# Values

What terms evaluate to: naturals of 64 bits, truth values, lists, builtins mentioned by name,
lambdas with the bindings around them, and unknowns. An unknown stands for a computation that is
stuck on a name without a value; it keeps that name, or the name of the builtin that met it.

Bindings are kept in the order of their names, each name once, so that equality of values is
equality of what they hold.
-/
namespace ProofScript

inductive Value where
  | nat (n : UInt64)
  | bool (b : Bool)
  | list (items : List Value)
  | callable (name : String)
  | lambda (param : String) (body : Term) (env : List (String × Value))
  | unknown (name : String)

/-- The values of the names in scope. -/
abbrev Env := List (String × Value)

namespace Env

/-- The value of `name`. -/
def find? (env : Env) (name : String) : Option Value :=
  env.lookup name

/-- Binds `name`, in place of the binding it may have. -/
def insert : Env → String → Value → Env
  | [], name, value => [(name, value)]
  | (other, held) :: rest, name, value =>
    if name = other then (name, value) :: rest
    else if name < other then (name, value) :: (other, held) :: rest
    else (other, held) :: insert rest name value

/-- Removes the binding of `name`. -/
def erase (env : Env) (name : String) : Env :=
  env.filter (·.1 != name)

/-- Binds the names of `bindings` one after the other. -/
def ofList (bindings : List (String × Value)) : Env :=
  bindings.foldl (fun env (name, value) => env.insert name value) []

theorem find?_nil (name : String) : find? [] name = none := rfl

theorem find?_cons (bound name : String) (held : Value) (rest : Env) :
    find? ((bound, held) :: rest) name = if name = bound then some held else find? rest name := by
  by_cases same : name = bound
  · simp [find?, same]
  · simp [find?, List.lookup_cons, beq_false_of_ne same, same]

theorem find?_insert (env : Env) (name other : String) (value : Value) :
    find? (insert env name value) other = if other = name then some value else find? env other := by
  induction env with
  | nil => simp [insert, find?_cons]
  | cons binding rest ih =>
    obtain ⟨bound, held⟩ := binding
    rw [insert]
    split
    next same => by_cases found : other = name <;> simp [find?_cons, ← same, found]
    next different =>
      split
      · simp [find?_cons]
      · by_cases found : other = bound
        · simp [find?_cons, found, Ne.symm different]
        · simp [find?_cons, found, ih]

end Env

namespace Value

/-! ## Equality -/

mutual

/-- Structural equality as a Boolean. -/
def beq : Value → Value → Bool
  | .nat m, .nat n => m == n
  | .bool a, .bool b => a == b
  | .list xs, .list ys => beqList xs ys
  | .callable x, .callable y => x == y
  | .lambda x b d, .lambda y c e => x == y && decide (b = c) && beqEnv d e
  | .unknown x, .unknown y => x == y
  | _, _ => false

def beqList : List Value → List Value → Bool
  | [], [] => true
  | x :: xs, y :: ys => beq x y && beqList xs ys
  | _, _ => false

def beqEnv : List (String × Value) → List (String × Value) → Bool
  | [], [] => true
  | (a, x) :: xs, (b, y) :: ys => a == b && beq x y && beqEnv xs ys
  | _, _ => false

end

mutual

theorem beq_iff : (v w : Value) → (beq v w = true ↔ v = w)
  | .nat _, w => by cases w <;> simp [beq]
  | .bool _, w => by cases w <;> simp [beq]
  | .list xs, w => by
    cases w with
    | list ys => simp [beq, beqList_iff xs ys]
    | _ => simp [beq]
  | .callable _, w => by cases w <;> simp [beq]
  | .lambda _ _ d, w => by
    cases w with
    | lambda _ _ e => simp [beq, beqEnv_iff d e, and_assoc]
    | _ => simp [beq]
  | .unknown _, w => by cases w <;> simp [beq]

theorem beqList_iff : (xs ys : List Value) → (beqList xs ys = true ↔ xs = ys)
  | [], ys => by cases ys <;> simp [beqList]
  | x :: xs, ys => by
    cases ys with
    | nil => simp [beqList]
    | cons y ys => simp [beqList, beq_iff x y, beqList_iff xs ys]

theorem beqEnv_iff : (xs ys : List (String × Value)) → (beqEnv xs ys = true ↔ xs = ys)
  | [], ys => by cases ys <;> simp [beqEnv]
  | (_, x) :: xs, ys => by
    cases ys with
    | nil => simp [beqEnv]
    | cons y ys =>
      obtain ⟨_, y⟩ := y
      simp [beqEnv, beq_iff x y, beqEnv_iff xs ys]

end

instance : DecidableEq Value := fun v w =>
  decidable_of_iff _ (beq_iff v w)

/-! ## Stuck values -/

def kind : Value → Kind
  | .nat _ => .nat
  | .bool _ => .bool
  | .list _ => .list
  | .callable _ => .callable
  | .lambda _ _ _ => .lambda
  | .unknown _ => .unknown

def isUnknown : Value → Bool
  | .unknown _ => true
  | _ => false

mutual

/-- Whether the value is unknown or a list with a stuck item. What a lambda holds does not count. -/
def isStuck : Value → Bool
  | .unknown _ => true
  | .list items => anyStuck items
  | _ => false

def anyStuck : List Value → Bool
  | [] => false
  | item :: items => isStuck item || anyStuck items

end

/-! ## Printing -/

mutual

/-- The value as messages show it. -/
def render : Value → String
  | .nat n => toString n.toNat
  | .bool true => "True"
  | .bool false => "False"
  | .list items => renderItems "[" items
  | .callable name => name
  | .lambda param body _ => "\\" ++ param ++ " => " ++ body.render
  | .unknown name => "?" ++ name

/-- The items after the text `before`, with commas between them and a closing bracket. -/
def renderItems (before : String) : List Value → String
  | [] => before ++ "]"
  | [item] => before ++ render item ++ "]"
  | item :: items => renderItems (before ++ render item ++ ", ") items

end

end Value

end ProofScript
