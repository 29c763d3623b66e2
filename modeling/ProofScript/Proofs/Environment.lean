import ProofScript.Builtin
import ProofScript.Value

/-!
# Environments

The environment that a lambda holds is the one around its definition with the arguments of the
lambdas in between bound on top, in the order in which they were applied. Since bindings are kept
in the order of their names, only the names and values on top matter and not that order.
-/
namespace ProofScript

theorem Builtin.ofName?_name (builtin : Builtin) : Builtin.ofName? builtin.name = some builtin := by
  cases builtin <;> decide +kernel

/-- A name that may be mentioned is the name of a builtin. -/
theorem Builtin.isCallable_eq_false {name : String} (noBuiltin : Builtin.ofName? name = none) :
    Builtin.isCallable name = false := by
  rw [Builtin.ofName?, List.find?_eq_none] at noBuiltin
  rw [Builtin.isCallable, List.any_eq_false]
  intro builtin _
  exact noBuiltin builtin (by cases builtin <;> decide)

theorem Builtin.name_ne (builtin : Builtin) {name : String}
    (noBuiltin : Builtin.ofName? name = none) : builtin.name ≠ name := by
  rintro rfl
  rw [Builtin.ofName?_name] at noBuiltin
  cases noBuiltin

namespace Env

/-- Whether no builtin is given another value. -/
def Foreign (env : Env) : Prop :=
  ∀ name, (env.find? name).isSome = true → Builtin.ofName? name = none

theorem insert_insert_same (env : Env) (name : String) (first second : Value) :
    (env.insert name first).insert name second = env.insert name second := by
  induction env with
  | nil => simp [insert]
  | cons binding rest ih =>
    obtain ⟨bound, held⟩ := binding
    by_cases same : name = bound
    · simp [insert, same]
    · by_cases before : name < bound
      · simp [insert, same, before]
      · simp [insert, same, before, ih]

theorem insert_insert_comm (env : Env) {name other : String} (distinct : name ≠ other)
    (value value' : Value) :
    (env.insert name value).insert other value' = (env.insert other value').insert name value := by
  induction env with
  | nil => grind [insert]
  | cons binding rest ih =>
    obtain ⟨bound, held⟩ := binding
    grind [insert]

/-- `env` with `bindings` bound on top. -/
def overlay (env bindings : Env) : Env :=
  bindings.foldr (fun (name, value) held => held.insert name value) env

theorem overlay_cons (env : Env) (name : String) (value : Value) (bindings : Env) :
    env.overlay ((name, value) :: bindings) = (env.overlay bindings).insert name value := rfl

/-- Binding a name on top of `env` is binding it among the bindings on top. -/
theorem overlay_insert (env bindings : Env) (name : String) (value : Value) :
    env.overlay (bindings.insert name value) = (env.overlay bindings).insert name value := by
  induction bindings with
  | nil => rfl
  | cons binding rest ih =>
    obtain ⟨bound, held⟩ := binding
    rw [insert]
    split
    next same =>
      subst same
      rw [overlay_cons, overlay_cons, insert_insert_same]
    next different =>
      split
      · rfl
      -- the new binding goes below this one, with another name
      · rw [overlay_cons, overlay_cons, ih, insert_insert_comm _ different]

/-! ### Environments with the same names -/

/-- The same names in the same order, bound to values that `related` relates. -/
inductive Pointwise (related : Value → Value → Prop) : Env → Env → Prop
  | nil : Pointwise related [] []
  | cons {name : String} {v w : Value} {rest rest' : Env} :
    related v w → Pointwise related rest rest' →
    Pointwise related ((name, v) :: rest) ((name, w) :: rest')

namespace Pointwise

variable {related : Value → Value → Prop} {env env' : Env}

/-- The names are the same on both sides, so a new binding finds the same place. -/
theorem insert (pointwise : Pointwise related env env') (name : String) {v w : Value}
    (value : related v w) :
    Pointwise related (Env.insert env name v) (Env.insert env' name w) := by
  induction pointwise with
  | nil => exact .cons value .nil
  | cons first rest ih =>
    simp only [Env.insert]
    split
    · exact .cons value rest
    · split
      · exact .cons value (.cons first rest)
      · exact .cons first ih

/-- A name is bound on both sides, to related values, or on neither. -/
theorem find? (pointwise : Pointwise related env env') (name : String) :
    (∃ v w, env.find? name = some v ∧ env'.find? name = some w ∧ related v w) ∨
      (env.find? name = none ∧ env'.find? name = none) := by
  induction pointwise with
  | nil => exact .inr ⟨rfl, rfl⟩
  | cons first rest ih =>
    simp only [Env.find?_cons]
    split
    · exact .inl ⟨_, _, rfl, rfl, first⟩
    · exact ih

end Pointwise

end Env

end ProofScript
