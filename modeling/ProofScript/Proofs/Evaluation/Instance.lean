import ProofScript.Proofs.Environment
import ProofScript.Proofs.Evaluation.Simulation

/-!
# Instances of values

A name without a value is unknown, and so is what a builtin makes of it. When the name is given a
value, the unknowns that came from it turn into something else, and lambdas see one binding more.
Everything else about a value stays. `Value.Instance env v w` says that `w` is what `v` may turn
into when the names of `env` are given their values.

## Main results

`evaluate_instance`: evaluating under `env` gives an instance of what evaluating without bindings
gives, provided that `env` binds no name of a builtin.

`Value.Instance.unique`: a value that holds no unknown at all has one instance only.
-/
namespace ProofScript

namespace Value

mutual

/-- Whether there is an unknown anywhere in the value, the bindings held by lambdas included. -/
def holdsUnknown : Value → Bool
  | .unknown _ => true
  | .list items => itemsHoldUnknown items
  | .lambda _ _ env => bindingsHoldUnknown env
  | _ => false

def itemsHoldUnknown : List Value → Bool
  | [] => false
  | item :: items => holdsUnknown item || itemsHoldUnknown items

def bindingsHoldUnknown : List (String × Value) → Bool
  | [] => false
  | (_, held) :: rest => holdsUnknown held || bindingsHoldUnknown rest

end

mutual

/-- Whether the second value is the first one with something in place of each unknown and with the
bindings of `env` below those that a lambda holds. -/
def Instance (env : Env) : Value → Value → Prop
  | .unknown _, _ => True
  | .nat n, w => w = .nat n
  | .bool b, w => w = .bool b
  | .callable name, w => w = .callable name
  | .list items, w => ∃ items', w = .list items' ∧ ItemInstances env items items'
  | .lambda param body held, w =>
    ∃ held', w = .lambda param body (env.overlay held') ∧ BindingInstances env held held'

def ItemInstances (env : Env) : List Value → List Value → Prop
  | [], items' => items' = []
  | item :: items, items' =>
    ∃ w ws, items' = w :: ws ∧ Instance env item w ∧ ItemInstances env items ws

/-- The same names, in the same order, bound to instances. -/
def BindingInstances (env : Env) : List (String × Value) → Env → Prop
  | [], bindings' => bindings' = []
  | (name, held) :: rest, bindings' =>
    ∃ w ws, bindings' = (name, w) :: ws ∧ Instance env held w ∧ BindingInstances env rest ws

end

variable {env : Env}

/-! ### Lists and bindings -/

theorem itemInstances_iff {xs ys : List Value} :
    ItemInstances env xs ys ↔ List.Forall₂ (Instance env) xs ys := by
  induction xs generalizing ys with
  | nil => simp [ItemInstances]
  | cons x xs ih =>
    simp only [ItemInstances, List.forall₂_cons_left_iff, ih]
    exact ⟨fun ⟨w, ws, same, head, tail⟩ => ⟨w, ws, head, tail, same⟩,
      fun ⟨w, ws, head, tail, same⟩ => ⟨w, ws, same, head, tail⟩⟩

theorem bindingInstances_iff {bindings bindings' : Env} :
    BindingInstances env bindings bindings' ↔
      Env.Pointwise (Instance env) bindings bindings' := by
  induction bindings generalizing bindings' with
  | nil =>
    constructor
    · rintro rfl
      exact .nil
    · rintro ⟨⟩
      rfl
  | cons binding rest ih =>
    obtain ⟨name, held⟩ := binding
    constructor
    · rintro ⟨w, ws, rfl, first, others⟩
      exact .cons first (ih.mp others)
    · rintro ⟨⟩
      next w ws first others => exact ⟨w, ws, rfl, first, ih.mpr others⟩

theorem BindingInstances.insert {bindings bindings' : Env}
    (instances : BindingInstances env bindings bindings') (name : String) {v w : Value}
    (value : Instance env v w) :
    BindingInstances env (Env.insert bindings name v) (Env.insert bindings' name w) := by
  rw [bindingInstances_iff] at instances ⊢
  exact instances.insert name value

/-- A name is bound on both sides, to a value and an instance of it, or it is left to `env`. -/
theorem BindingInstances.find?_overlay {bindings bindings' : Env}
    (instances : BindingInstances env bindings bindings') (name : String) :
    (∃ v w, Env.find? bindings name = some v ∧ Env.find? (env.overlay bindings') name = some w ∧
      Instance env v w) ∨
    (Env.find? bindings name = none ∧
      Env.find? (env.overlay bindings') name = Env.find? env name) := by
  rw [bindingInstances_iff] at instances
  induction instances with
  | nil => exact .inr ⟨rfl, rfl⟩
  | @cons bound v w rest rest' first _ ih =>
    rw [Env.overlay_cons, Env.find?_insert, Env.find?_cons]
    by_cases same : name = bound
    · rw [if_pos same, if_pos same]
      exact .inl ⟨v, w, rfl, rfl, first⟩
    · rw [if_neg same, if_neg same]
      exact ih

/-! ### Uniqueness -/

mutual

/-- Without unknowns there is nothing to choose: the instance is determined. -/
theorem Instance.unique : (v : Value) → v.holdsUnknown = false → {w w' : Value} →
    Instance env v w → Instance env v w' → w = w'
  | .nat _, _, _, _, first, second => Eq.trans first (Eq.symm second)
  | .bool _, _, _, _, first, second => Eq.trans first (Eq.symm second)
  | .callable _, _, _, _, first, second => Eq.trans first (Eq.symm second)
  | .unknown _, known, _, _, _, _ => by cases known
  | .list items, known, w, w', first, second => by
    obtain ⟨ys, rfl, left⟩ := first
    obtain ⟨ys', rfl, right⟩ := second
    rw [holdsUnknown] at known
    rw [ItemInstances.unique items known left right]
  | .lambda param body held, known, w, w', first, second => by
    obtain ⟨ys, rfl, left⟩ := first
    obtain ⟨ys', rfl, right⟩ := second
    rw [holdsUnknown] at known
    rw [BindingInstances.unique held known left right]

theorem ItemInstances.unique : (items : List Value) → itemsHoldUnknown items = false →
    {ys ys' : List Value} → ItemInstances env items ys → ItemInstances env items ys' → ys = ys'
  | [], _, _, _, first, second => Eq.trans first (Eq.symm second)
  | item :: items, known, ys, ys', first, second => by
    obtain ⟨w, ws, rfl, head, tail⟩ := first
    obtain ⟨w', ws', rfl, head', tail'⟩ := second
    rw [itemsHoldUnknown, Bool.or_eq_false_iff] at known
    rw [Instance.unique item known.1 head head', ItemInstances.unique items known.2 tail tail']

theorem BindingInstances.unique : (bindings : List (String × Value)) →
    bindingsHoldUnknown bindings = false → {ys ys' : Env} →
    BindingInstances env bindings ys → BindingInstances env bindings ys' → ys = ys'
  | [], _, _, _, first, second => Eq.trans first (Eq.symm second)
  | (name, held) :: rest, known, ys, ys', first, second => by
    obtain ⟨w, ws, rfl, head, tail⟩ := first
    obtain ⟨w', ws', rfl, head', tail'⟩ := second
    rw [bindingsHoldUnknown, Bool.or_eq_false_iff] at known
    rw [Instance.unique held known.1 head head', BindingInstances.unique rest known.2 tail tail']

end

end Value

/-! ### Evaluation -/

namespace Evaluation

variable {env : Env}

theorem variableValue_instance (foreign : env.Foreign) {held bindings : Env}
    (instances : Value.BindingInstances env held bindings) (name : String) :
    Value.Instance env (variableValue held name) (variableValue (env.overlay bindings) name) := by
  unfold variableValue
  rcases instances.find?_overlay name with ⟨v, w, left, right, value⟩ | ⟨left, right⟩
  · rw [left, right]
    exact value
  · rw [left, right]
    cases outer : Env.find? env name with
    | none =>
      -- the name means the same on both sides: a builtin, or an unknown
      dsimp only
      split
      · rfl
      · trivial
    | some w =>
      -- the name is no builtin, so without bindings it is unknown and may become anything
      have noBuiltin := foreign name (by rw [outer]; rfl)
      rw [Builtin.isCallable_eq_false noBuiltin]
      trivial

end Evaluation

/-- The same term without bindings and under `env`, each below the same further bindings. -/
def instantiation (env : Env) (foreign : env.Foreign) : Simulation where
  toTolerance := .lenient
  value := Value.Instance env
  code held term held' term' :=
    term' = term ∧
      ∃ bindings, held' = env.overlay bindings ∧ Value.BindingInstances env held bindings
  nat_left := Iff.rfl
  bool_left := Iff.rfl
  list_left := by
    intro xs w
    simp only [Value.Instance, Value.itemInstances_iff]
  callable_left same := ⟨same, trivial⟩
  callable_refl _ := by rw [Value.Instance]
  lambda_left := by
    rintro param body held w ⟨bindings, rfl, instances⟩
    -- an argument goes on top of what the lambda holds, and `env` stays below both
    refine ⟨param, body, _, rfl, fun a b value => ⟨rfl, bindings.insert param b, ?_, ?_⟩⟩
    · rw [Env.overlay_insert]
    · exact instances.insert param value
  unknown_left _ := .inr ⟨fun _ _ => trivial, fun _ => trivial⟩
  unknown_refl _ := trivial
  code_const related := related.1
  code_var := by
    rintro held held' name term ⟨rfl, bindings, rfl, instances⟩
    exact ⟨name, rfl, Evaluation.variableValue_instance foreign instances name⟩
  code_lambda := by
    rintro held held' param body term ⟨rfl, bindings, rfl, instances⟩
    exact ⟨param, body, rfl, bindings, rfl, instances⟩
  code_args := by
    rintro held held' head args term ⟨rfl, bindings, rfl, instances⟩
    refine ⟨head, args, rfl, List.forall₂_same.mpr fun _ _ => ⟨rfl, bindings, rfl, instances⟩, ?_⟩
    rcases instances.find?_overlay head with ⟨v, w, left, right, value⟩ | ⟨left, right⟩
    · rw [left, right]
      exact value
    · rw [left, right]
      cases outer : Env.find? env head with
      | none => exact ⟨trivial, .inl rfl⟩
      | some w =>
        exact ⟨foreign head (by rw [outer]; rfl), trivial, fun _ => trivial, fun _ => trivial⟩

/-- Giving values to names that are no builtins turns the value of a term into an instance of it. -/
theorem evaluate_instance {env : Env} (foreign : env.Foreign) {limit : Nat} {term : Term}
    {v w : Value} (free : evaluate limit [] term = .ok v)
    (bound : evaluate limit env term = .ok w) : Value.Instance env v w := by
  have related : (instantiation env foreign).Outcomes (evaluate limit [] term)
      (evaluate limit env term) :=
    Simulation.evaluate_related (.inl rfl) ⟨rfl, [], rfl, rfl⟩
  rw [free, bound] at related
  exact related

end ProofScript
