import ProofScript.Text.Parens

/-!
# Terms

Terms are names, applications of a name to a flat list of arguments, and lambdas. Equality is
structural and decidable. Printing puts parentheses around an argument exactly when it is not a
plain name, which is what the grammar needs to read it back. An application without arguments, which
no text is read as, is printed with a blank behind its head.
-/
namespace ProofScript

inductive Term where
  | var (name : String)
  | const (name : String)
  | app (head : String) (args : List Term)
  | lambda (param : String) (body : Term)

namespace Term

/-! ## Equality -/

mutual

/-- Structural equality as a Boolean. -/
def beq : Term → Term → Bool
  | .var x, .var y => x == y
  | .const x, .const y => x == y
  | .app f xs, .app g ys => f == g && beqList xs ys
  | .lambda x b, .lambda y c => x == y && beq b c
  | _, _ => false

def beqList : List Term → List Term → Bool
  | [], [] => true
  | x :: xs, y :: ys => beq x y && beqList xs ys
  | _, _ => false

end

mutual

theorem beq_iff : (s t : Term) → (beq s t = true ↔ s = t)
  | .var _, t => by cases t <;> simp [beq]
  | .const _, t => by cases t <;> simp [beq]
  | .app _ xs, t => by
    cases t with
    | app _ ys => simp [beq, beqList_iff xs ys]
    | _ => simp [beq]
  | .lambda _ b, t => by
    cases t with
    | lambda _ c => simp [beq, beq_iff b c]
    | _ => simp [beq]

theorem beqList_iff : (xs ys : List Term) → (beqList xs ys = true ↔ xs = ys)
  | [], ys => by cases ys <;> simp [beqList]
  | x :: xs, ys => by
    cases ys with
    | nil => simp [beqList]
    | cons y ys => simp [beqList, beq_iff x y, beqList_iff xs ys]

end

instance : DecidableEq Term := fun s t =>
  decidable_of_iff _ (beq_iff s t)

/-! ## Printing -/

/-- A plain name. -/
def isAtomic : Term → Bool
  | .var _ | .const _ => true
  | _ => false

mutual

/-- The term as it is written. -/
def render : Term → String
  | .var name => name
  | .const name => name
  | .app head args => head ++ " " ++ renderArgs args
  | .lambda param body => "\\" ++ param ++ " => " ++ render body

/-- The arguments as they are written, with a space between them. -/
def renderArgs : List Term → String
  | [] => ""
  | [arg] => Text.parensUnless arg.isAtomic (render arg)
  | arg :: other :: args =>
    Text.parensUnless arg.isAtomic (render arg) ++ " " ++ renderArgs (other :: args)

end

end Term

end ProofScript
