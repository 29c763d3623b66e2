import ProofScript.Diagnostic
import ProofScript.Evaluation
import ProofScript.Signature

/-!
# Proofs by evaluation

The proof `Refl` stands for evaluation without any bindings: the signature has to end in an equation
whose sides have the same value, and neither value may be stuck.
-/
namespace ProofScript.Refl

/-- The sides of an equation and their values. -/
structure Sides where
  left : Term
  right : Term
  leftValue : Value
  rightValue : Value

/-- Evaluates the equation that a signature ends in, the left side first. -/
def evaluate (limit : Nat) (signature : Signature) : Except Diagnostic Sides :=
  match signature.result.sides? with
  | none => .error .reflNotEquality
  | some (left, right) => do
    let leftValue ← (ProofScript.evaluate limit [] left).mapError .eval
    let rightValue ← (ProofScript.evaluate limit [] right).mapError .eval
    return ⟨left, right, leftValue, rightValue⟩

/-- Demands that the sides have one value that is not stuck. -/
def compare (sides : Sides) : Except Diagnostic Unit :=
  if sides.leftValue.isStuck then .error (.reflStuck sides.left.render)
  else if sides.rightValue.isStuck then .error (.reflStuck sides.right.render)
  else if sides.leftValue = sides.rightValue then .ok ()
  else .error (.reflMismatch sides.left.render sides.right.render)

/-- Checks that a signature is proved by evaluation. -/
def check (limit : Nat) (signature : Signature) : Except Diagnostic Unit := do
  compare (← evaluate limit signature)

end ProofScript.Refl
