import ProofScript.Proofs.Evaluation.Simulation

/-!
# The limit on nested applications

A larger limit changes nothing about an evaluation that did not run into it. So a value that comes
out under some limit is the value of the term, and evaluations under different limits can be
compared under the larger one.
-/
namespace ProofScript

/-- Equal terms under equal environments, the left side possibly running into its limit. -/
def deeperEvaluation : Simulation where
  toTolerance := .deeper
  value := Eq
  code env term env' term' := env = env' ∧ term = term'
  nat_left := eq_comm
  bool_left := eq_comm
  list_left := by
    intro xs w
    rw [List.forall₂_eq_eq_eq]
    exact ⟨fun same => ⟨xs, same.symm, rfl⟩, fun ⟨_, same, items⟩ => by rw [same, items]⟩
  callable_left same := ⟨same.symm, rfl⟩
  callable_refl _ := rfl
  lambda_left := by
    rintro param body env w rfl
    refine ⟨param, body, env, rfl, ?_⟩
    rintro a b rfl
    exact ⟨rfl, rfl⟩
  unknown_left := by
    rintro name w rfl
    exact .inl rfl
  unknown_refl _ := rfl
  code_const related := related.2.symm
  code_var := by
    rintro env env' name term ⟨rfl, rfl⟩
    exact ⟨name, rfl, rfl⟩
  code_lambda := by
    rintro env env' param body term ⟨rfl, rfl⟩
    exact ⟨param, body, rfl, rfl⟩
  code_args := by
    rintro env env' head args term ⟨rfl, rfl⟩
    refine ⟨head, args, rfl, List.forall₂_same.mpr fun _ _ => ⟨rfl, rfl⟩, ?_⟩
    cases env.find? head with
    | some function => rfl
    | none => exact ⟨rfl, .inl rfl⟩

theorem evaluate_eq_of_le {limit limit' : Nat} (le : limit ≤ limit') {env : Env} {term : Term}
    (ended : evaluate limit env term ≠ .error .tooDeep) :
    evaluate limit' env term = evaluate limit env term := by
  have related : deeperEvaluation.Outcomes (evaluate limit env term) (evaluate limit' env term) :=
    Simulation.evaluate_related (.inr ⟨le, rfl⟩) ⟨rfl, rfl⟩
  cases outcome : evaluate limit env term with
  | ok value =>
    rw [outcome] at related
    obtain ⟨other, evaluated, rfl⟩ := related.right_ok fun _ fails => fails
    exact evaluated
  | error failure =>
    -- every failure but the one at the limit is the same on the right
    have other : failure ≠ .tooDeep := fun atLimit => ended (by rw [outcome, atLimit])
    rw [outcome] at related
    cases outcome' : evaluate limit' env term with
    | ok value =>
      rw [outcome'] at related
      exact absurd related other
    | error failure' =>
      rw [outcome'] at related
      rw [related.resolve_left other]

/-- Evaluations that end come out the same, whatever their limits are. -/
theorem evaluate_eq_of_ended {limit limit' : Nat} {env : Env} {term : Term}
    (ended : evaluate limit env term ≠ .error .tooDeep)
    (ended' : evaluate limit' env term ≠ .error .tooDeep) :
    evaluate limit env term = evaluate limit' env term := by
  rw [← evaluate_eq_of_le (Nat.le_max_left limit limit') ended,
    evaluate_eq_of_le (Nat.le_max_right limit limit') ended']

theorem evaluate_mono {limit limit' : Nat} (le : limit ≤ limit') {env : Env} {term : Term}
    {value : Value} (returned : evaluate limit env term = .ok value) :
    evaluate limit' env term = .ok value := by
  rw [evaluate_eq_of_le le (by simp [returned]), returned]

end ProofScript
