import ProofScript.Evaluation.Operation

/-!
# Evaluation

Terms are evaluated from the inside out: all arguments of an application, from left to right, then
the application itself, both branches of `ifThenElse` included. A name in scope is what it is bound
to, and a bound head is applied to its arguments one by one. A name that is neither in scope nor a
builtin that may be mentioned is unknown, and a builtin with an unknown argument is unknown without
a look at the others.

Evaluation need not end, since a lambda can be applied to itself. It is therefore given a limit on
how deeply applications of values may be nested; everything else recurses on the term.

The definitions are written for any monad that can fail and keep a record of the calls of builtins.
`evaluate` and `callValue` are their plain reading, which keeps none.
-/
namespace ProofScript

/-- A call of a builtin: its name and the number of its arguments. -/
structure Call where
  name : String
  arguments : Nat
deriving DecidableEq, Repr

/-- A monad in which calls can be put on record. -/
class RecordsCalls (m : Type → Type) where
  record : Call → m Unit

/-- Evaluation that may fail and records nothing. -/
instance : RecordsCalls (Except EvaluationError) where
  record _ := .ok ()

/-- Evaluation that may fail and keeps the calls made up to then. -/
abbrev Recorded := ExceptT EvaluationError (StateM (Array Call))

instance : RecordsCalls Recorded where
  record call := modify (·.push call)

namespace Evaluation

variable {m : Type → Type} [Monad m] [MonadExceptOf EvaluationError m]

/-- The value of a constant. -/
def constant (name : String) : m Value :=
  match name with
  | "Z" => pure (.nat 0)
  | "True" => pure (.bool true)
  | "False" => pure (.bool false)
  | "Nil" => pure (.list [])
  | _ =>
    if Builtin.isCallable name then pure (.callable name) else throw (.unknownConstant name)

/-- The value of a variable. -/
def variableValue (env : Env) (name : String) : Value :=
  match env.find? name with
  | some value => value
  | none => if Builtin.isCallable name then .callable name else .unknown name

variable [RecordsCalls m]

/-- Applies the builtin called `name`, `apply` being the application of one value to another. -/
def applyNamed (apply : Value → Value → m Value) (name : String) (args : List Value) : m Value :=
  if args.any Value.isUnknown then pure (.unknown name)
  else do
    RecordsCalls.record ⟨name, args.length⟩
    match Builtin.ofName? name with
    | some builtin => (builtin.operation apply).apply name args
    | none => throw (.unknownFunction name)

mutual

/-- The value of a term, `apply` being the application of one value to another. -/
def term (apply : Value → Value → m Value) (env : Env) : Term → m Value
  | .const name => constant name
  | .var name => pure (variableValue env name)
  | .lambda param body => pure (.lambda param body env)
  | .app head args => do
    let args ← terms apply env args
    match env.find? head with
    | some function => args.foldlM apply function
    | none => applyNamed apply head args

def terms (apply : Value → Value → m Value) (env : Env) : List Term → m (List Value)
  | [] => pure []
  | arg :: args => do
    let arg ← term apply env arg
    let args ← terms apply env args
    return arg :: args

end

/-- Applies one value to another, with at most `limit` applications nested. -/
def application : Nat → Value → Value → m Value
  | 0, _, _ => throw .tooDeep
  | limit + 1, .callable name, arg => applyNamed (application limit) name [arg]
  | limit + 1, .lambda param body env, arg =>
    term (application limit) (Env.insert env param arg) body
  | _ + 1, .unknown name, _ => pure (.unknown name)
  | _ + 1, other, _ => throw (.notCallable other.kind.name)

end Evaluation

/-- The value of `term` where names have the values of `env`. -/
def evaluate (limit : Nat) (env : Env) (term : Term) : Except EvaluationError Value :=
  Evaluation.term (Evaluation.application limit) env term

/-- The result of applying the value `function` to `arg`. -/
def callValue (limit : Nat) (function arg : Value) : Except EvaluationError Value :=
  Evaluation.application limit function arg

/-- The result of applying the builtin called `name` to `args`. -/
def callBuiltin (limit : Nat) (name : String) (args : List Value) : Except EvaluationError Value :=
  Evaluation.applyNamed (Evaluation.application limit) name args

/-- The limit that programs evaluate with. -/
def nestingLimit : Nat := 1000000

/-- The calls of builtins made by an evaluation, up to its end or its failure. -/
def callsOf {α : Type} (evaluation : Recorded α) : List Call :=
  (evaluation.run #[]).2.toList

end ProofScript
