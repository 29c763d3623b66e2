import ProofScript.Grammar.Name
import ProofScript.Signature

/-!
# Canonical names

Every name that a signature is free to choose is replaced by a generated one, in one walk from left
to right:

* type variables become `t0`, `t1`, … in the order in which they are first met;
* parameters become `p0`, `p1`, … in the order of their declaration, and a parameter is already in
  scope in its own type;
* the other variables of terms, whether free or bound by a lambda, become `v0`, `v1`, … in the order
  in which they are met. A free name keeps what it was given for the rest of the walk, while the
  binder of a lambda is known in its body only.

The head of an application is renamed like any other occurrence when it is in scope. A head that is
not keeps its spelling, and so do constants. Two signatures are alike up to a consistent choice of
names when their canonical forms are equal.
-/
namespace ProofScript

/-- Names and what they are replaced by. The first entry for a name counts. -/
abbrev Renaming := List (String × String)

/-- The names of terms given out so far outside of lambdas, and the number of `v` names in use. -/
structure Naming where
  scope : Renaming
  fresh : Nat
deriving DecidableEq

namespace Naming

/-- The next `v` name. -/
def next (naming : Naming) : String × Naming :=
  ("v" ++ toString naming.fresh, { naming with fresh := naming.fresh + 1 })

/-- Gives the next `v` name to the free name `name`. -/
def meet (naming : Naming) (name : String) : String × Naming :=
  let (given, naming) := naming.next
  (given, { naming with scope := (name, given) :: naming.scope })

end Naming

namespace Term

mutual

/-- The term with canonical names, `bound` being those of the lambdas around it. -/
def canonical (bound : Renaming) : Term → Naming → Term × Naming
  | .const name, naming => (.const name, naming)
  | .var name, naming =>
    match (bound ++ naming.scope).lookup name with
    | some given => (.var given, naming)
    | none =>
      let (given, naming) := naming.meet name
      (.var given, naming)
  | .app head args, naming =>
    let given := ((bound ++ naming.scope).lookup head).getD head
    let (args, naming) := canonicalArgs bound args naming
    (.app given args, naming)
  | .lambda param body, naming =>
    let (given, naming) := naming.next
    let (body, naming) := canonical ((param, given) :: bound) body naming
    (.lambda given body, naming)

def canonicalArgs (bound : Renaming) : List Term → Naming → List Term × Naming
  | [], naming => ([], naming)
  | arg :: args, naming =>
    let (arg, naming) := canonical bound arg naming
    let (args, naming) := canonicalArgs bound args naming
    (arg :: args, naming)

end

end Term

/-- What has been given out in a signature so far. -/
structure SignatureNaming where
  types : Renaming
  terms : Naming
deriving DecidableEq

namespace SignatureNaming

/-- Before anything is met. -/
def empty : SignatureNaming :=
  ⟨[], ⟨[], 0⟩⟩

/-- The canonical name of a type variable, given out now if it has none. -/
def typeName (naming : SignatureNaming) (name : String) : String × SignatureNaming :=
  match naming.types.lookup name with
  | some given => (given, naming)
  | none =>
    let given := "t" ++ toString naming.types.length
    (given, { naming with types := naming.types ++ [(name, given)] })

/-- Declares the parameter `name` under the name `given`. -/
def declare (naming : SignatureNaming) (name given : String) : SignatureNaming :=
  { naming with terms := { naming.terms with scope := (name, given) :: naming.terms.scope } }

end SignatureNaming

namespace Ty

mutual

/-- The type with canonical names. -/
def canonical : Ty → SignatureNaming → Ty × SignatureNaming
  | .const name, naming => (.const name, naming)
  | .var name, naming =>
    let (given, naming) := naming.typeName name
    (.var given, naming)
  | .app head args, naming =>
    let (given, naming) :=
      if isTypeConstant head then (head, naming) else naming.typeName head
    let (args, naming) := canonicalArgs args naming
    (.app given args, naming)
  | .eq left right, naming =>
    let (left, terms) := left.canonical [] naming.terms
    let (right, terms) := right.canonical [] terms
    (.eq left right, { naming with terms := terms })
  | .arrow source target, naming =>
    let (source, naming) := canonical source naming
    let (target, naming) := canonical target naming
    (.arrow source target, naming)

def canonicalArgs : List Ty → SignatureNaming → List Ty × SignatureNaming
  | [], naming => ([], naming)
  | arg :: args, naming =>
    let (arg, naming) := canonical arg naming
    let (args, naming) := canonicalArgs args naming
    (arg :: args, naming)

end

end Ty

namespace Signature

/-- The parameters with canonical names, `index` of them having come before. -/
def canonicalParams (index : Nat) : List Param → SignatureNaming → List Param × SignatureNaming
  | [], naming => ([], naming)
  | param :: params, naming =>
    let given := "p" ++ toString index
    let (type, naming) := param.type.canonical (naming.declare param.name given)
    let (params, naming) := canonicalParams (index + 1) params naming
    (⟨given, type⟩ :: params, naming)

/-- The signature with canonical names. -/
def canonical (signature : Signature) : Signature :=
  let (params, naming) := canonicalParams 0 signature.params .empty
  ⟨params, (signature.result.canonical naming).1⟩

/-- Whether two signatures differ at most in the names that they are free to choose. -/
def alike (left right : Signature) : Bool :=
  left.canonical = right.canonical

end Signature

end ProofScript
