import ProofScript.Term

/-!
# Types

A type is a name, a named constructor applied to arguments, a function type or the type of proofs
that two terms are equal. Function types associate to the right, so a chain of them is a list of
arguments and a result that is no function type.
-/
namespace ProofScript

inductive Ty where
  | const (name : String)
  | var (name : String)
  | app (head : String) (args : List Ty)
  | eq (left right : Term)
  | arrow (source target : Ty)

namespace Ty

/-! ## Equality -/

mutual

/-- Structural equality as a Boolean. -/
def beq : Ty → Ty → Bool
  | .const x, .const y => x == y
  | .var x, .var y => x == y
  | .app f xs, .app g ys => f == g && beqList xs ys
  | .eq a b, .eq c d => decide (a = c) && decide (b = d)
  | .arrow a b, .arrow c d => beq a c && beq b d
  | _, _ => false

def beqList : List Ty → List Ty → Bool
  | [], [] => true
  | x :: xs, y :: ys => beq x y && beqList xs ys
  | _, _ => false

end

mutual

theorem beq_iff : (s t : Ty) → (beq s t = true ↔ s = t)
  | .const _, t => by cases t <;> simp [beq]
  | .var _, t => by cases t <;> simp [beq]
  | .app _ xs, t => by
    cases t with
    | app _ ys => simp [beq, beqList_iff xs ys]
    | _ => simp [beq]
  | .eq _ _, t => by cases t <;> simp [beq]
  | .arrow a b, t => by
    cases t with
    | arrow c d => simp [beq, beq_iff a c, beq_iff b d]
    | _ => simp [beq]

theorem beqList_iff : (xs ys : List Ty) → (beqList xs ys = true ↔ xs = ys)
  | [], ys => by cases ys <;> simp [beqList]
  | x :: xs, ys => by
    cases ys with
    | nil => simp [beqList]
    | cons y ys => simp [beqList, beq_iff x y, beqList_iff xs ys]

end

instance : DecidableEq Ty := fun s t =>
  decidable_of_iff _ (beq_iff s t)

/-! ## Chains of function types -/

/-- The argument types of a chain of function types, first to last. -/
def arrowArgs : Ty → List Ty
  | .arrow source target => source :: target.arrowArgs
  | _ => []

/-- What a chain of function types ends in. -/
def arrowResult : Ty → Ty
  | .arrow _ target => target.arrowResult
  | type => type

/-- The two sides, if the type is an equality. -/
def sides? : Ty → Option (Term × Term)
  | .eq left right => some (left, right)
  | _ => none

/-! ## Printing -/

/-- A plain name. -/
def isAtomic : Ty → Bool
  | .const _ | .var _ => true
  | _ => false

/-- Whether the type can stand to the left of an arrow without parentheses. -/
def isArrowSource : Ty → Bool
  | .arrow _ _ | .eq _ _ => false
  | _ => true

mutual

/-- The type as it is written. -/
def render : Ty → String
  | .const name => name
  | .var name => name
  | .app head args => head ++ " " ++ renderArgs args
  | .eq left right => left.render ++ " = " ++ right.render
  | .arrow source target =>
    Text.parensUnless source.isArrowSource (render source) ++ " -> " ++ render target

/-- The arguments as they are written, with a space between them. -/
def renderArgs : List Ty → String
  | [] => ""
  | [arg] => Text.parensUnless arg.isAtomic (render arg)
  | arg :: other :: args =>
    Text.parensUnless arg.isAtomic (render arg) ++ " " ++ renderArgs (other :: args)

end

/-- The type as it is written to the left of an arrow. -/
def renderSource (type : Ty) : String :=
  Text.parensUnless type.isArrowSource type.render

end Ty

end ProofScript
