import ProofScript.Proofs.Evaluation.Limit

/-!
# The first failure

Everything in a term is evaluated, the bodies of lambdas apart: both branches of `ifThenElse`, and
the arguments next to an unknown one. So whatever fails in a term makes the term fail.

## Main result

`evaluate_fails_first`: a term with a part that fails, fails in the way of the first such part, in
the order in which parts are evaluated.

The order is that of `Term.parts`. One lemma, `Term.findSome?_parts`, says that the evaluator keeps
to it; it holds for any application of values, so the limit does not matter to it.
-/
namespace ProofScript

namespace Term

mutual

/-- The parts of a term that are evaluated along with it, in the order in which they are done:
arguments from left to right, then the application. The body of a lambda is not among them. -/
def parts : Term → List Term
  | .var name => [.var name]
  | .const name => [.const name]
  | .lambda param body => [.lambda param body]
  | .app head args => partsArgs args ++ [.app head args]

def partsArgs : List Term → List Term
  | [] => []
  | arg :: args => parts arg ++ partsArgs args

end

end Term

/-- How a computation failed, if it did. -/
def failure? {α : Type} : Except EvaluationError α → Option EvaluationError
  | .ok _ => none
  | .error failure => some failure

theorem failure?_eq_none {α : Type} {outcome : Except EvaluationError α} :
    failure? outcome = none ↔ ∃ value, outcome = .ok value := by
  cases outcome <;> simp [failure?]

theorem failure?_eq_some {α : Type} {outcome : Except EvaluationError α}
    {failure : EvaluationError} : failure? outcome = some failure ↔ outcome = .error failure := by
  cases outcome <;> simp [failure?]

/-- What fails first decides, and what comes after it only matters if nothing did. -/
theorem failure?_bind {α β : Type} (first : Except EvaluationError α)
    (next : α → Except EvaluationError β) :
    (failure? first).or (failure? (first >>= next)) = failure? (first >>= next) := by
  cases first <;> rfl

namespace Term

variable (apply : Value → Value → Except EvaluationError Value) (env : Env)

mutual

/-- Among the parts of a term, the first failure is the failure of the term. -/
theorem findSome?_parts : (term : Term) →
    term.parts.findSome? (fun part => failure? (Evaluation.term apply env part)) =
      failure? (Evaluation.term apply env term)
  | .var name => by simp [parts]
  | .const name => by simp [parts]
  | .lambda param body => by simp [parts]
  | .app head args => by
    rw [parts, List.findSome?_append, findSome?_partsArgs args, List.findSome?_singleton,
      Evaluation.term]
    -- arguments are evaluated before the head is looked at, whether it is bound or not
    exact failure?_bind _ _

theorem findSome?_partsArgs : (args : List Term) →
    (partsArgs args).findSome? (fun part => failure? (Evaluation.term apply env part)) =
      failure? (Evaluation.terms apply env args)
  | [] => rfl
  | arg :: args => by
    rw [partsArgs, List.findSome?_append, findSome?_parts arg, findSome?_partsArgs args,
      Evaluation.terms]
    cases Evaluation.term apply env arg with
    | error failure => rfl
    | ok value => cases Evaluation.terms apply env args <;> rfl

end

end Term

/-! ### Failing under some limit -/

namespace Term

/-- Evaluation ends, in a value or in a failure. -/
def Ends (term : Term) (env : Env) : Prop :=
  ∃ limit, evaluate limit env term ≠ .error .tooDeep

/-- Evaluation ends in `failure`. -/
def FailsWith (term : Term) (env : Env) (failure : EvaluationError) : Prop :=
  failure ≠ .tooDeep ∧ ∃ limit, evaluate limit env term = .error failure

/-- The first part of the term that fails, fails with `failure`. -/
def FirstFailure (term : Term) (env : Env) (failure : EvaluationError) : Prop :=
  ∃ before part after, term.parts = before ++ part :: after ∧ part.FailsWith env failure ∧
    ∀ earlier ∈ before, ∀ other, ¬ earlier.FailsWith env other

variable {term : Term} {env : Env} {failure failure' : EvaluationError}

/-- A term that fails, fails under every limit that lets it end. -/
theorem FailsWith.evaluate_eq (fails : term.FailsWith env failure) {limit : Nat}
    (ended : evaluate limit env term ≠ .error .tooDeep) :
    evaluate limit env term = .error failure := by
  obtain ⟨settled, limit', failed⟩ := fails
  have ended' : evaluate limit' env term ≠ .error .tooDeep := by simp [failed, settled]
  rw [evaluate_eq_of_ended ended ended', failed]

theorem FailsWith.unique (fails : term.FailsWith env failure)
    (fails' : term.FailsWith env failure') : failure = failure' := by
  obtain ⟨settled, limit, failed⟩ := fails
  have same := fails'.evaluate_eq (by simp [failed, settled] : evaluate limit env term ≠ _)
  rw [failed] at same
  exact Except.error.inj same

theorem not_failsWith {limit : Nat} {value : Value}
    (returned : evaluate limit env term = .ok value) : ¬ term.FailsWith env failure := by
  intro fails
  have same := fails.evaluate_eq (by simp [returned] : evaluate limit env term ≠ _)
  rw [returned] at same
  cases same

/-- There is one first part that fails, and it fails in one way. -/
theorem FirstFailure.unique (first : term.FirstFailure env failure)
    (first' : term.FirstFailure env failure') : failure = failure' := by
  classical
  -- both parts are what a search for a failing part finds
  have found : ∀ {failure}, term.FirstFailure env failure → ∃ part, part.FailsWith env failure ∧
      term.parts.find? (fun part => decide (∃ other, part.FailsWith env other)) = some part := by
    rintro failure ⟨before, part, after, order, fails, none⟩
    refine ⟨part, fails, List.find?_eq_some_iff_append.mpr ⟨?_, before, after, order, ?_⟩⟩
    · simpa using ⟨failure, fails⟩
    · intro earlier member
      simpa using none earlier member
  obtain ⟨part, fails, search⟩ := found first
  obtain ⟨part', fails', search'⟩ := found first'
  rw [search] at search'
  obtain rfl := Option.some.inj search'
  exact fails.unique fails'

end Term

/-- A failure in a term that ends is never lost: the term fails, and it does so as the first of its
parts that fails. -/
theorem evaluate_fails_first {term : Term} {env : Env} (ends : term.Ends env) {part : Term}
    (occurs : part ∈ term.parts) {failure : EvaluationError} (fails : part.FailsWith env failure) :
    ∃ first, term.FailsWith env first ∧ ∀ other, term.FirstFailure env other ↔ other = first := by
  obtain ⟨limit, ended⟩ := ends
  have order : term.parts.findSome? (fun part => failure? (evaluate limit env part)) =
      failure? (evaluate limit env term) := Term.findSome?_parts _ env term
  cases outcome : evaluate limit env term with
  | ok value =>
    -- then every part has a value under this limit, the one that fails included
    rw [failure?_eq_none.mpr ⟨value, outcome⟩, List.findSome?_eq_none_iff] at order
    obtain ⟨result, evaluated⟩ := failure?_eq_none.mp (order part occurs)
    exact absurd fails (Term.not_failsWith evaluated)
  | error first =>
    have settled : first ≠ .tooDeep := fun atLimit => ended (by rw [outcome, atLimit])
    have isFirst : term.FirstFailure env first := by
      rw [failure?_eq_some.mpr outcome] at order
      obtain ⟨before, culprit, after, split, failed, none⟩ := List.findSome?_eq_some_iff.mp order
      refine ⟨before, culprit, after, split, ⟨settled, limit, failure?_eq_some.mp failed⟩, ?_⟩
      intro earlier member other
      obtain ⟨result, evaluated⟩ := failure?_eq_none.mp (none earlier member)
      exact Term.not_failsWith evaluated
    refine ⟨first, ⟨settled, limit, outcome⟩, fun other => ⟨?_, ?_⟩⟩
    · intro isFirst'
      exact isFirst'.unique isFirst
    · rintro rfl
      exact isFirst

/-- A sum that is not a number, beside an unknown and in a branch that is not taken. The other
branch calls a function that does not exist. -/
def troubled : Term :=
  .app "ifThenElse" [.const "False",
    .app "plus" [.var "n", .app "plus" [.const "True", .const "Z"]],
    .app "frobnicate" [.const "Z"]]

/-- Neither the unknown, nor the condition, nor the failure that comes after it hides the sum. -/
theorem evaluate_fails_first_troubled :
    troubled.Ends [] ∧ .app "frobnicate" [.const "Z"] ∈ troubled.parts ∧
      Term.FailsWith (.app "frobnicate" [.const "Z"]) [] (.unknownFunction "frobnicate") ∧
      troubled.FailsWith [] (.kindMismatch "plus" "Nat" "Bool") ∧
      troubled.FirstFailure [] (.kindMismatch "plus" "Nat" "Bool") := by
  have ends : troubled.Ends [] := ⟨0, by decide⟩
  have occurs : .app "frobnicate" [.const "Z"] ∈ troubled.parts := by decide
  have fails : Term.FailsWith (.app "frobnicate" [.const "Z"]) []
      (.unknownFunction "frobnicate") := ⟨by decide, 0, rfl⟩
  have mismatch : troubled.FailsWith [] (.kindMismatch "plus" "Nat" "Bool") :=
    ⟨by decide, 0, rfl⟩
  obtain ⟨first, failed, isFirst⟩ := evaluate_fails_first ends occurs fails
  exact ⟨ends, occurs, fails, mismatch, (isFirst _).mpr (mismatch.unique failed)⟩

end ProofScript
