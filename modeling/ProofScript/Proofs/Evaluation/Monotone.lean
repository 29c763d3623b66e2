import ProofScript.Proofs.Evaluation.Instance
import ProofScript.Proofs.Evaluation.Limit

/-!
# Knowing more

Values are ordered by how much of them is known: an unknown is below everything, lists are compared
item by item, and lambdas by the bindings that they hold. One environment is below another if it
binds no more names and binds them to values below, where a name that only the other one binds must
not be that of a builtin.

## Main result

`evaluate_monotone`: a term evaluates to more under the environment in which more is known. A value
without unknowns and lambdas has nothing above it but itself, so it is the value of the term however
the names that have no value yet are going to be bound.
-/
namespace ProofScript

namespace Value

mutual

/-- The second value is the first one, with more of it known. -/
inductive Below : Value → Value → Prop
  | unknown (name : String) (value : Value) : Below (.unknown name) value
  | nat (n : UInt64) : Below (.nat n) (.nat n)
  | bool (b : Bool) : Below (.bool b) (.bool b)
  | callable (name : String) : Below (.callable name) (.callable name)
  | list {items items' : List Value} :
    List.Forall₂ Below items items' → Below (.list items) (.list items')
  | lambda {param : String} {body : Term} {held held' : Env} :
    (∀ name, BindingBelow name (held.find? name) (held'.find? name)) →
    Below (.lambda param body held) (.lambda param body held')

/-- What a name is bound to, on both sides, if it is. -/
inductive BindingBelow : String → Option Value → Option Value → Prop
  | both {name : String} {v w : Value} : Below v w → BindingBelow name (some v) (some w)
  | added {name : String} {w : Value} :
    Builtin.ofName? name = none → BindingBelow name none (some w)
  | neither {name : String} : BindingBelow name none none

end

end Value

/-- The second environment knows more about every name. -/
def Env.Below (env env' : Env) : Prop :=
  ∀ name, Value.BindingBelow name (env.find? name) (env'.find? name)

theorem Env.Below.insert {env env' : Env} (below : env.Below env') (param : String) {v w : Value}
    (value : v.Below w) : Env.Below (Env.insert env param v) (Env.insert env' param w) := by
  intro name
  rw [Env.find?_insert, Env.find?_insert]
  by_cases same : name = param
  · rw [if_pos same, if_pos same]
    exact .both value
  · rw [if_neg same, if_neg same]
    exact below name

theorem Evaluation.variableValue_below {env env' : Env} (below : env.Below env') (name : String) :
    (variableValue env name).Below (variableValue env' name) := by
  have binding := below name
  unfold variableValue
  generalize env.find? name = found at binding ⊢
  generalize env'.find? name = found' at binding ⊢
  cases binding with
  | both value => exact value
  | added noBuiltin =>
    -- the name may not be mentioned either, so it was unknown
    rw [Builtin.isCallable_eq_false noBuiltin]
    exact .unknown name _
  | neither =>
    dsimp only
    split
    · exact .callable name
    · exact .unknown name _

/-- The same term under two environments, one below the other. -/
def growing : Simulation where
  toTolerance := .lenient
  value := Value.Below
  code env term env' term' := term' = term ∧ env.Below env'
  nat_left := by
    intro n w
    constructor
    · intro below
      cases below
      rfl
    · rintro rfl
      exact .nat n
  bool_left := by
    intro b w
    constructor
    · intro below
      cases below
      rfl
    · rintro rfl
      exact .bool b
  list_left := by
    intro items w
    constructor
    · intro below
      cases below with
      | list items => exact ⟨_, rfl, items⟩
    · rintro ⟨items', rfl, below⟩
      exact .list below
  callable_left := by
    intro name w below
    cases below
    exact ⟨rfl, .unknown name _⟩
  callable_refl _ := .callable _
  lambda_left := by
    intro param body held w below
    cases below with
    | lambda bindings =>
      refine ⟨param, body, _, rfl, fun a b value => ⟨rfl, ?_⟩⟩
      exact Env.Below.insert bindings param value
  unknown_left _ := .inr ⟨fun name w => .unknown name w, fun _ => trivial⟩
  unknown_refl _ := .unknown _ _
  code_const related := related.1
  code_var := by
    rintro env env' name term ⟨rfl, below⟩
    exact ⟨name, rfl, Evaluation.variableValue_below below name⟩
  code_lambda := by
    rintro env env' param body term ⟨rfl, below⟩
    exact ⟨param, body, rfl, .lambda below⟩
  code_args := by
    rintro env env' head args term ⟨rfl, below⟩
    refine ⟨head, args, rfl, List.forall₂_same.mpr fun _ _ => ⟨rfl, below⟩, ?_⟩
    have binding := below head
    generalize env.find? head = found at binding ⊢
    generalize env'.find? head = found' at binding ⊢
    cases binding with
    | both value => exact value
    | added noBuiltin =>
      exact ⟨noBuiltin, trivial, fun w => .unknown head w, fun _ => trivial⟩
    | neither => exact ⟨.unknown head _, .inl rfl⟩

/-! ### Values without anything above them -/

namespace Value

mutual

/-- Whether there is neither an unknown nor a lambda in the value. -/
def isGround : Value → Bool
  | .unknown _ => false
  | .lambda _ _ _ => false
  | .list items => areGround items
  | _ => true

def areGround : List Value → Bool
  | [] => true
  | item :: items => isGround item && areGround items

end

mutual

theorem Below.eq_of_isGround : (v : Value) → {w : Value} → v.Below w → v.isGround = true → w = v
  | .nat _, _, below, _ => by
    cases below
    rfl
  | .bool _, _, below, _ => by
    cases below
    rfl
  | .callable _, _, below, _ => by
    cases below
    rfl
  | .unknown _, _, _, ground => by cases ground
  | .lambda _ _ _, _, _, ground => by cases ground
  | .list items, _, below, ground => by
    cases below with
    | list below => rw [items_eq_of_areGround items below ground]

theorem items_eq_of_areGround : (items : List Value) → {items' : List Value} →
    List.Forall₂ Below items items' → areGround items = true → items' = items
  | [], _, below, _ => by
    cases below
    rfl
  | item :: items, _, below, ground => by
    rw [areGround, Bool.and_eq_true] at ground
    cases below with
    | cons first rest =>
      rw [Below.eq_of_isGround item first ground.1, items_eq_of_areGround items rest ground.2]

end

end Value

/-- Where more is known, a term evaluates to more, and to the same if nothing was left open. -/
theorem evaluate_monotone {env env' : Env} (below : env.Below env') {limit limit' : Nat}
    {term : Term} {v w : Value} (before : evaluate limit env term = .ok v)
    (after : evaluate limit' env' term = .ok w) :
    v.Below w ∧ (v.isGround = true → w = v) := by
  -- both runs are compared under the larger of the two limits
  have first := evaluate_mono (Nat.le_max_left limit limit') before
  have second := evaluate_mono (Nat.le_max_right limit limit') after
  have related : growing.Outcomes (evaluate (max limit limit') env term)
      (evaluate (max limit limit') env' term) :=
    Simulation.evaluate_related (.inl rfl) ⟨rfl, below⟩
  rw [first, second] at related
  exact ⟨related, Value.Below.eq_of_isGround v related⟩

/-- A list of which one item is unknown. -/
def partlyKnown : Env := [("xs", .list [.unknown "a", .nat 2])]

/-- The same list with all of its items, and a number. -/
def fullyKnown : Env := [("n", .nat 1), ("xs", .list [.nat 5, .nat 2])]

theorem partlyKnown_below : partlyKnown.Below fullyKnown := by
  intro name
  simp only [partlyKnown, fullyKnown, Env.find?_cons, Env.find?_nil]
  by_cases isList : name = "xs"
  · subst isList
    exact .both (.list (.cons (.unknown _ _) (.cons (.nat 2) .nil)))
  · rw [if_neg isList, if_neg isList]
    split
    next same => exact .added (by rw [same]; decide +kernel)
    next => exact .neither

/-- The sums of `n` and the items of `xs`. -/
def sums : Term :=
  .app "map" [.lambda "x" (.app "plus" [.var "x", .var "n"]), .var "xs"]

/-- More is known of the sums afterwards, but nothing more of how many there are. -/
theorem evaluate_monotone_sums :
    partlyKnown.Below fullyKnown ∧
      evaluate 1 partlyKnown sums = .ok (.list [.unknown "plus", .unknown "plus"]) ∧
      evaluate 1 fullyKnown sums = .ok (.list [.nat 6, .nat 3]) ∧
      Value.Below (.list [.unknown "plus", .unknown "plus"]) (.list [.nat 6, .nat 3]) ∧
      ∃ v w, evaluate 1 partlyKnown (.app "length" [sums]) = .ok v ∧
        evaluate 1 fullyKnown (.app "length" [sums]) = .ok w ∧ v.isGround = true ∧ w = v := by
  have before : evaluate 1 partlyKnown sums = .ok (.list [.unknown "plus", .unknown "plus"]) := rfl
  have after : evaluate 1 fullyKnown sums = .ok (.list [.nat 6, .nat 3]) := rfl
  have count : evaluate 1 partlyKnown (.app "length" [sums]) = .ok (.nat 2) := rfl
  have count' : evaluate 1 fullyKnown (.app "length" [sums]) = .ok (.nat 2) := rfl
  exact ⟨partlyKnown_below, before, after, (evaluate_monotone partlyKnown_below before after).1,
    .nat 2, .nat 2, count, count', rfl,
    (evaluate_monotone partlyKnown_below count count').2 rfl⟩

end ProofScript
