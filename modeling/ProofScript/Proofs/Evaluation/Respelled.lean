import ProofScript.Proofs.Environment
import ProofScript.Proofs.Evaluation.Simulation
import ProofScript.Proofs.Naming.Respelled

/-!
# Evaluating a term under another spelling

A name without a value evaluates to an unknown that keeps the spelling, and a lambda keeps its body
as it is written. So the value of a respelled term is the respelled value. Neither spelling may be
that of a builtin, since a builtin has a value of its own.

## Main results

`evaluate_respelled`: a term and its respelled form both fail, or they evaluate to a value and the
respelled value.

`Value.Respelled.left_unique`, `Value.Respelled.right_unique`: respelling keeps values apart.
-/
namespace ProofScript

/-- Whether the old spelling is in force under `env`. If `env` binds it, it stands for that. -/
def Env.leaves (env : Env) (old : String) : Bool :=
  (env.find? old).isNone

theorem Env.leaves_insert (env : Env) (old param : String) (arg : Value) :
    Env.leaves (Env.insert env param arg) old = (env.leaves old && decide (param ≠ old)) := by
  unfold Env.leaves
  rw [Env.find?_insert]
  by_cases same : old = param
  · simp [same]
  · simp [same, Ne.symm same]

namespace Value

/-- The second value is the first one with `new` for `old`, and the first one does not have `new`
in it. -/
inductive Respelled (old new : String) : Value → Value → Prop
  | nat (n : UInt64) : Respelled old new (.nat n) (.nat n)
  | bool (b : Bool) : Respelled old new (.bool b) (.bool b)
  | callable {name : String} : name ≠ old → name ≠ new →
    Respelled old new (.callable name) (.callable name)
  | unknown {name : String} : name ≠ new →
    Respelled old new (.unknown name) (.unknown (respelling old new name))
  | list {items items' : List Value} : List.Forall₂ (Respelled old new) items items' →
    Respelled old new (.list items) (.list items')
  | lambda {param : String} {body body' : Term} {held held' : Env} :
    Env.find? held new = none → new ∉ (Term.lambda param body).spellings →
    (Term.lambda param body).respellIf (held.leaves old) old new = .lambda param body' →
    Env.Pointwise (Respelled old new) held held' →
    Respelled old new (.lambda param body held) (.lambda param body' held')

variable {old new : String}

theorem Respelled.unknown_self {name : String} (apart : name ≠ old) (fresh : name ≠ new) :
    Respelled old new (.unknown name) (.unknown name) := by
  have image : Respelled old new (.unknown name) (.unknown (respelling old new name)) :=
    .unknown fresh
  rwa [respelling_of_ne apart] at image

/-! ### One to one -/

mutual

theorem Respelled.right_unique : (v : Value) → {w w' : Value} → Respelled old new v w →
    Respelled old new v w' → w = w'
  | .nat _, _, _, .nat _, .nat _ => rfl
  | .bool _, _, _, .bool _, .bool _ => rfl
  | .callable _, _, _, .callable _ _, .callable _ _ => rfl
  | .unknown _, _, _, .unknown _, .unknown _ => rfl
  | .list items, _, _, .list first, .list second => by rw [items_right_unique items first second]
  | .lambda _ _ held, _, _, .lambda _ _ body first, .lambda _ _ body' second => by
    rw [bindings_right_unique held first second, (Term.lambda.inj (body.symm.trans body')).2]
termination_by structural v => v

theorem items_right_unique : (items : List Value) → {ys ys' : List Value} →
    List.Forall₂ (Respelled old new) items ys → List.Forall₂ (Respelled old new) items ys' →
    ys = ys'
  | [], _, _, .nil, .nil => rfl
  | item :: items, _, _, .cons first rest, .cons first' rest' => by
    rw [Respelled.right_unique item first first', items_right_unique items rest rest']
termination_by structural items => items

theorem bindings_right_unique : (bindings : List (String × Value)) → {ys ys' : Env} →
    Env.Pointwise (Respelled old new) bindings ys →
    Env.Pointwise (Respelled old new) bindings ys' → ys = ys'
  | [], _, _, .nil, .nil => rfl
  | (_, held) :: rest, _, _, .cons first more, .cons first' more' => by
    rw [Respelled.right_unique held first first', bindings_right_unique rest more more']
termination_by structural bindings => bindings

end

theorem leaves_eq {held held' : Env} (bindings : Env.Pointwise (Respelled old new) held held') :
    held.leaves old = held'.leaves old := by
  unfold Env.leaves
  rcases bindings.find? old with ⟨v, w, found, found', -⟩ | ⟨absent, absent'⟩
  · rw [found, found']
    rfl
  · rw [absent, absent']

mutual

theorem Respelled.left_unique : (v : Value) → {v' w : Value} → Respelled old new v w →
    Respelled old new v' w → v = v'
  | .nat _, _, _, .nat _, .nat _ => rfl
  | .bool _, _, _, .bool _, .bool _ => rfl
  | .callable _, _, _, .callable _ _, .callable _ _ => rfl
  | .unknown _, v', _, .unknown fresh, second => by
    generalize image : Value.unknown (respelling old new _) = w at second
    cases second with
    | unknown fresh' =>
      rw [respelling_injective fresh fresh' (Value.unknown.inj image)]
    | _ => cases image
  | .list items, _, _, .list first, .list second => by rw [items_left_unique items first second]
  | .lambda param body held, _, _, .lambda _ fresh written first,
      .lambda _ fresh' written' second => by
    -- the lambdas hold the same names, so both bodies were respelled or neither was
    have both := written.trans written'.symm
    rw [leaves_eq first, leaves_eq second, Term.respellIf, Term.respellIf] at both
    rw [bindings_left_unique held first second]
    split at both
    · rw [(Term.lambda.inj (Term.respell_injective _ fresh fresh' both)).2]
    · rw [(Term.lambda.inj both).2]
termination_by structural v => v

theorem items_left_unique : (items : List Value) → {items' ys : List Value} →
    List.Forall₂ (Respelled old new) items ys → List.Forall₂ (Respelled old new) items' ys →
    items = items'
  | [], _, _, .nil, .nil => rfl
  | item :: items, _, _, .cons first rest, .cons first' rest' => by
    rw [Respelled.left_unique item first first', items_left_unique items rest rest']
termination_by structural items => items

theorem bindings_left_unique : (bindings : List (String × Value)) → {bindings' ys : Env} →
    Env.Pointwise (Respelled old new) bindings ys →
    Env.Pointwise (Respelled old new) bindings' ys → bindings = bindings'
  | [], _, _, .nil, .nil => rfl
  | (_, held) :: rest, _, _, .cons first more, .cons first' more' => by
    rw [Respelled.left_unique held first first', bindings_left_unique rest more more']
termination_by structural bindings => bindings

end

mutual

theorem Respelled.isStuck_eq : (v : Value) → {w : Value} → Respelled old new v w →
    w.isStuck = v.isStuck
  | .nat _, _, .nat _ => rfl
  | .bool _, _, .bool _ => rfl
  | .callable _, _, .callable _ _ => rfl
  | .unknown _, _, .unknown _ => rfl
  | .lambda _ _ _, _, .lambda _ _ _ _ => rfl
  | .list items, _, .list respelled => anyStuck_eq items respelled

theorem anyStuck_eq : (items : List Value) → {ys : List Value} →
    List.Forall₂ (Respelled old new) items ys → anyStuck ys = anyStuck items
  | [], _, .nil => rfl
  | item :: items, _, .cons first rest => by
    rw [anyStuck, anyStuck, Respelled.isStuck_eq item first, anyStuck_eq items rest]

end

end Value

/-! ### Evaluation -/

section Evaluation

variable {old new : String}

/-- A name is bound on both sides, to a value and the respelled value, or it is bound on neither.
In the latter case it is the same on both sides or that of no builtin. -/
theorem find?_respelled (foreign : Builtin.ofName? old = none)
    (foreign' : Builtin.ofName? new = none) {env env' : Env} (unbound : env.find? new = none)
    (bindings : Env.Pointwise (Value.Respelled old new) env env') {name : String}
    (fresh : name ≠ new) :
    (∃ v w, env.find? name = some v ∧
      env'.find? (respellingIf (env.leaves old) old new name) = some w ∧
      Value.Respelled old new v w) ∨
    (env.find? name = none ∧ env'.find? (respellingIf (env.leaves old) old new name) = none ∧
      Value.Respelled old new (.unknown name)
        (.unknown (respellingIf (env.leaves old) old new name)) ∧
      (name = respellingIf (env.leaves old) old new name ∧ name ≠ old ∨
        Builtin.ofName? name = none ∧
          Builtin.ofName? (respellingIf (env.leaves old) old new name) = none)) := by
  by_cases same : name = old
  · subst same
    unfold respellingIf Env.leaves
    rcases bindings.find? name with ⟨v, w, found, found', value⟩ | ⟨absent, -⟩
    · rw [found, Option.isNone_some, if_neg (by decide)]
      exact .inl ⟨v, w, rfl, found', value⟩
    · rw [absent, Option.isNone_none, if_pos rfl, respelling_self]
      have absent' : env'.find? new = none := by
        rcases bindings.find? new with ⟨v, w, found, -, -⟩ | ⟨-, absent'⟩
        · rw [unbound] at found
          cases found
        · exact absent'
      have image : Value.Respelled name new (.unknown name) (.unknown (respelling name new name)) :=
        .unknown fresh
      rw [respelling_self] at image
      exact .inr ⟨rfl, absent', image, .inr ⟨foreign, foreign'⟩⟩
  · rw [respellingIf_of_ne _ same]
    rcases bindings.find? name with found | ⟨absent, absent'⟩
    · exact .inl found
    · exact .inr ⟨absent, absent', .unknown_self same fresh, .inl ⟨rfl, same⟩⟩

theorem Evaluation.variableValue_respelled (foreign : Builtin.ofName? old = none)
    (foreign' : Builtin.ofName? new = none) {env env' : Env} (unbound : env.find? new = none)
    (bindings : Env.Pointwise (Value.Respelled old new) env env') {name : String}
    (fresh : name ≠ new) :
    Value.Respelled old new (variableValue env name)
      (variableValue env' (respellingIf (env.leaves old) old new name)) := by
  unfold variableValue
  rcases find?_respelled foreign foreign' unbound bindings fresh with
    ⟨v, w, found, found', value⟩ | ⟨absent, absent', image, names⟩
  · rw [found, found']
    exact value
  · rw [absent, absent']
    rcases names with ⟨same, apart⟩ | ⟨noBuiltin, noBuiltin'⟩
    · rw [← same] at image ⊢
      dsimp only
      split
      · exact .callable apart fresh
      · exact image
    · rw [Builtin.isCallable_eq_false noBuiltin, Builtin.isCallable_eq_false noBuiltin']
      exact image

/-- A term and its respelled form, under environments that are respelled likewise. -/
def respelledEvaluation (foreign : Builtin.ofName? old = none)
    (foreign' : Builtin.ofName? new = none) : Simulation where
  toTolerance := .together
  value := Value.Respelled old new
  code env term env' term' :=
    env.find? new = none ∧ new ∉ term.spellings ∧
      term.respellIf (env.leaves old) old new = term' ∧
      Env.Pointwise (Value.Respelled old new) env env'
  nat_left := by
    intro n w
    constructor
    · intro respelled
      cases respelled
      rfl
    · rintro rfl
      exact .nat n
  bool_left := by
    intro b w
    constructor
    · intro respelled
      cases respelled
      rfl
    · rintro rfl
      exact .bool b
  list_left := by
    intro items w
    constructor
    · intro respelled
      cases respelled with
      | list items => exact ⟨_, rfl, items⟩
    · rintro ⟨items', rfl, respelled⟩
      exact .list respelled
  callable_left := by
    intro name w respelled
    cases respelled with
    | callable apart fresh => exact ⟨rfl, .unknown_self apart fresh⟩
  callable_refl := by
    intro name mentioned
    refine .callable ?_ ?_
    · rintro rfl
      rw [Builtin.isCallable_eq_false foreign] at mentioned
      cases mentioned
    · rintro rfl
      rw [Builtin.isCallable_eq_false foreign'] at mentioned
      cases mentioned
  lambda_left := by
    intro param body held w respelled
    cases respelled with
    | @lambda _ _ body' _ held' unbound fresh written bindings =>
      refine ⟨param, body', held', rfl, fun a b value => ?_⟩
      rw [Term.spellings, List.mem_cons, not_or] at fresh
      rw [Term.respellIf_lambda, ← Env.leaves_insert held old param a] at written
      refine ⟨?_, fresh.2, (Term.lambda.inj written).2, bindings.insert param value⟩
      rw [Env.find?_insert, if_neg fresh.1, unbound]
  unknown_left := by
    intro name w respelled
    cases respelled
    exact .inl rfl
  unknown_refl builtin :=
    .unknown_self (Builtin.name_ne builtin foreign) (Builtin.name_ne builtin foreign')
  code_const := by
    rintro env env' name term ⟨-, -, rfl, -⟩
    exact Term.respellIf_const _ name
  code_var := by
    rintro env env' name term ⟨unbound, fresh, rfl, bindings⟩
    rw [Term.spellings, List.mem_singleton] at fresh
    exact ⟨_, Term.respellIf_var _ name,
      Evaluation.variableValue_respelled foreign foreign' unbound bindings (Ne.symm fresh)⟩
  code_lambda := by
    rintro env env' param body term ⟨unbound, fresh, rfl, bindings⟩
    have written : (Term.lambda param body).respellIf (env.leaves old) old new = _ :=
      Term.respellIf_lambda _ param body
    exact ⟨param, _, written, .lambda unbound fresh written bindings⟩
  code_args := by
    rintro env env' head args term ⟨unbound, fresh, rfl, bindings⟩
    rw [Term.spellings, List.mem_cons, not_or] at fresh
    refine ⟨_, _, Term.respellIf_app _ head args, ?_, ?_⟩
    · rw [List.forall₂_map_right_iff, List.forall₂_same]
      intro arg member
      exact ⟨unbound, Term.not_mem_spellings_of_mem fresh.2 member, rfl, bindings⟩
    · rcases find?_respelled foreign foreign' unbound bindings (Ne.symm fresh.1) with
        ⟨v, w, found, found', value⟩ | ⟨absent, absent', image, names⟩
      · rw [found, found']
        exact value
      · rw [absent, absent']
        refine ⟨image, names.imp And.left ?_⟩
        rintro ⟨noBuiltin, noBuiltin'⟩
        exact ⟨noBuiltin, noBuiltin', trivial⟩

/-- A term and its respelled form both fail, or both have a value and the values are respelled. -/
theorem evaluate_respelled (foreign : Builtin.ofName? old = none)
    (foreign' : Builtin.ofName? new = none) (limit : Nat) {term : Term}
    (fresh : new ∉ term.spellings) :
    Tolerance.together.Results (Value.Respelled old new) (evaluate limit [] term)
      (evaluate limit [] (term.respell old new)) :=
  Simulation.evaluate_related (S := respelledEvaluation foreign foreign') (.inl rfl)
    ⟨rfl, fresh, rfl, .nil⟩

end Evaluation

end ProofScript
