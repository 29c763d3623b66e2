import ProofScript.Proofs.Evaluation.Ideal
import ProofScript.Proofs.Naming.Renamed

/-!
# Evaluating renamed terms

A term without lambdas has the same value as the term that it is renamed to, if names that
correspond have the same value. With lambdas this is not so, because a lambda holds the names of its
parameter and of what is bound around it.
-/
namespace ProofScript

namespace Term

mutual

/-- The variables of a term, those of lambdas included. -/
def occurrences : Term → List String
  | .const _ => []
  | .var name => [name]
  | .app _ args => occurrencesArgs args
  | .lambda _ body => occurrences body

def occurrencesArgs : List Term → List String
  | [] => []
  | arg :: args => occurrences arg ++ occurrencesArgs args

end

end Term

theorem Paired.mem_left {pairs : Pairs} {name name' : String} (paired : Paired pairs name name') :
    name ∈ pairs.map Prod.fst := by
  induction paired with
  | here => exact List.mem_cons_self
  | there _ _ _ ih => exact List.mem_cons_of_mem _ ih

theorem Paired.mem_right {pairs : Pairs} {name name' : String} (paired : Paired pairs name name') :
    name' ∈ pairs.map Prod.snd := by
  induction paired with
  | here => exact List.mem_cons_self
  | there _ _ _ ih => exact List.mem_cons_of_mem _ ih

/-- A name corresponds to one name only. -/
theorem Paired.left_unique {pairs : Pairs} {name other name' : String}
    (paired : Paired pairs name name') (paired' : Paired pairs other name') : name = other := by
  induction paired with
  | here =>
    cases paired' with
    | here => rfl
    | there _ differs _ => exact absurd rfl differs
  | there _ differs _ ih =>
    cases paired' with
    | here => exact absurd rfl differs
    | there _ _ inner => exact ih inner

/-- Both environments bind the names in scope, to the same values where they correspond. -/
structure Pairs.Agree (pairs : Pairs) (env env' : Env) : Prop where
  paired : ∀ {name name'}, Paired pairs name name' →
    ∃ value, env.find? name = some value ∧ env'.find? name' = some value
  left : ∀ {name}, name ∉ pairs.map Prod.fst → env.find? name = none
  right : ∀ {name}, name ∉ pairs.map Prod.snd → env'.find? name = none

/-- The values that the second names have if the first ones have those of `env`. -/
def Pairs.transport (pairs : Pairs) (env : Env) : Env :=
  pairs.map fun pair => (pair.2, Evaluation.variableValue env pair.1)

theorem Pairs.find?_transport {pairs : Pairs} {env : Env} {name name' : String}
    (paired : Paired pairs name name') :
    (pairs.transport env).find? name' = some (Evaluation.variableValue env name) := by
  induction paired with
  | here => exact List.lookup_cons_self
  | there _ differs _ ih =>
    rw [transport, List.map_cons, Env.find?_cons, if_neg differs]
    exact ih

theorem Pairs.find?_transport_eq_none {pairs : Pairs} {env : Env} {name : String}
    (absent : name ∉ pairs.map Prod.snd) : (pairs.transport env).find? name = none := by
  induction pairs with
  | nil => rfl
  | cons pair pairs ih =>
    rw [List.map_cons, List.mem_cons, not_or] at absent
    rw [transport, List.map_cons, Env.find?_cons, if_neg absent.1]
    exact ih absent.2

/-- An environment that binds the first names can be carried over to the second ones. -/
theorem Pairs.agree_transport {pairs : Pairs} {env : Env}
    (binds : ∀ name, (env.find? name).isSome = true ↔ name ∈ pairs.map Prod.fst) :
    pairs.Agree env (pairs.transport env) where
  paired {name name'} paired := by
    obtain ⟨value, found⟩ := Option.isSome_iff_exists.mp ((binds name).mpr paired.mem_left)
    refine ⟨value, found, ?_⟩
    rw [find?_transport paired, Evaluation.variableValue, found]
  left {name} absent := by
    rw [← Option.not_isSome_iff_eq_none, binds]
    exact absent
  right absent := find?_transport_eq_none absent

namespace Term

variable {apply : Value → Value → Except EvaluationError Value} {known : Pairs} {env env' : Env}

mutual

/-- Renaming does not change the value of a term without lambdas whose variables are in scope. -/
theorem Renamed.term_eq (agree : known.Agree env env') : (term' : Term) → {term : Term} →
    {known' : Pairs} → term'.isDirect = true →
    (∀ name ∈ term'.occurrences, name ∈ known.map Prod.snd) →
    term.Renamed [] known term' known' →
    known' = known ∧ Evaluation.term apply env term = Evaluation.term apply env' term'
  | .const name, term, known', _, _, renamed => by
    cases renamed
    exact ⟨rfl, by rw [Evaluation.term, Evaluation.term]⟩
  | .var name', term, known', _, inScope, renamed => by
    cases renamed with
    | inScope paired =>
      obtain ⟨value, found, found'⟩ := agree.paired paired
      refine ⟨rfl, ?_⟩
      rw [Evaluation.term, Evaluation.term, Evaluation.variableValue, Evaluation.variableValue,
        found, found']
    -- a variable met for the first time would not be in scope
    | met unpaired => exact absurd (inScope name' List.mem_cons_self) unpaired.2
  | .app head' args', term, known', direct, inScope, renamed => by
    rw [isDirect, Bool.and_eq_true] at direct
    cases renamed with
    | app heads renamedArgs =>
      obtain ⟨same, values⟩ := RenamedArgs.terms_eq agree args' direct.2 inScope renamedArgs
      refine ⟨same, ?_⟩
      rw [Evaluation.term, Evaluation.term, values]
      rcases heads with paired | ⟨unpaired, rfl⟩
      · obtain ⟨value, found, found'⟩ := agree.paired paired
        rw [found, found']
      · rw [agree.left unpaired.1, agree.right unpaired.2]

theorem RenamedArgs.terms_eq (agree : known.Agree env env') : (args' : List Term) →
    {args : List Term} → {known' : Pairs} → areDirect args' = true →
    (∀ name ∈ occurrencesArgs args', name ∈ known.map Prod.snd) →
    RenamedArgs [] known args args' known' →
    known' = known ∧ Evaluation.terms apply env args = Evaluation.terms apply env' args'
  | [], args, known', _, _, renamed => by
    cases renamed
    exact ⟨rfl, by rw [Evaluation.terms, Evaluation.terms]⟩
  | arg' :: args', args, known', direct, inScope, renamed => by
    rw [areDirect, Bool.and_eq_true] at direct
    rw [occurrencesArgs, List.forall_mem_append] at inScope
    cases renamed with
    | cons renamedArg renamedArgs =>
      obtain ⟨between, value⟩ := Renamed.term_eq agree arg' direct.1 inScope.1 renamedArg
      -- no variable was met in the first argument, so the others start from the same pairs
      rw [between] at renamedArgs
      obtain ⟨same, values⟩ := RenamedArgs.terms_eq agree args' direct.2 inScope.2 renamedArgs
      exact ⟨same, by rw [Evaluation.terms, Evaluation.terms, value, values]⟩

end

end Term

end ProofScript
