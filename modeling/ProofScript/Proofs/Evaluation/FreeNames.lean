import ProofScript.Proofs.Evaluation.FirstOrder
import ProofScript.Proofs.Evaluation.Simulation

/-!
# The names that matter

What a term evaluates to depends on the names that occur free in it, as variables or as heads, and
on no others. A lambda holds everything that was in scope where it was evaluated, though. So under
environments that differ on other names only, results are the same up to what their lambdas hold for
names that do not occur free in them.

## Main result

`evaluate_free_names`: under environments that agree on the free names of a term, it fails in the
same way, or else has values that agree. Values that agree and hold no lambda are the same.
-/
namespace ProofScript

namespace Term

mutual

/-- The names that occur free in a term, as variables or as heads. -/
def freeNames : Term → List String
  | .var name => [name]
  | .const _ => []
  | .app head args => head :: freeNamesArgs args
  | .lambda param body => (freeNames body).filter (· ≠ param)

def freeNamesArgs : List Term → List String
  | [] => []
  | arg :: args => freeNames arg ++ freeNamesArgs args

end

theorem mem_freeNamesArgs {arg : Term} {args : List Term} (listed : arg ∈ args) {name : String}
    (free : name ∈ arg.freeNames) : name ∈ freeNamesArgs args := by
  induction listed with
  | head rest => simp [freeNamesArgs, free]
  | tail other _ ih => simp [freeNamesArgs, ih]

end Term

/-! ### Values that agree -/

/-- The same value, except that lambdas may hold something else for names that do not occur free in
them. What they hold for the other names agrees. -/
inductive Value.Agree : Value → Value → Prop
  | nat (n : UInt64) : Agree (.nat n) (.nat n)
  | bool (b : Bool) : Agree (.bool b) (.bool b)
  | callable (name : String) : Agree (.callable name) (.callable name)
  | unknown (name : String) : Agree (.unknown name) (.unknown name)
  | list {items items' : List Value} :
    List.Forall₂ Agree items items' → Agree (.list items) (.list items')
  | lambda {param : String} {body : Term} {held held' : Env} :
    (∀ name ∈ (Term.lambda param body).freeNames,
      Option.Rel Agree (held.find? name) (held'.find? name)) →
    Agree (.lambda param body held) (.lambda param body held')

/-- The environments bind each of the names to values that agree, or both do not bind it. -/
def Env.AgreeOn (names : List String) (env env' : Env) : Prop :=
  ∀ name ∈ names, Option.Rel Value.Agree (env.find? name) (env'.find? name)

theorem Env.AgreeOn.insert {param : String} {body : Term} {env env' : Env}
    (agree : AgreeOn (Term.lambda param body).freeNames env env') {v w : Value}
    (value : v.Agree w) :
    AgreeOn body.freeNames (Env.insert env param v) (Env.insert env' param w) := by
  intro name free
  rw [Env.find?_insert, Env.find?_insert]
  by_cases same : name = param
  · rw [if_pos same, if_pos same]
    exact .some value
  · rw [if_neg same, if_neg same]
    exact agree name (by simp [Term.freeNames, free, same])

namespace Value

mutual

theorem Agree.refl : (v : Value) → v.Agree v
  | .nat n => .nat n
  | .bool b => .bool b
  | .callable name => .callable name
  | .unknown name => .unknown name
  | .list items => .list (items_agree_refl items)
  | .lambda _ _ held => .lambda fun name _ => bindings_agree_refl held name

theorem items_agree_refl : (items : List Value) → List.Forall₂ Agree items items
  | [] => .nil
  | item :: items => .cons (Agree.refl item) (items_agree_refl items)

theorem bindings_agree_refl : (held : List (String × Value)) → (name : String) →
    Option.Rel Agree (Env.find? held name) (Env.find? held name)
  | [], _ => .none
  | (bound, v) :: rest, name => by
    rw [Env.find?_cons]
    split
    · exact .some (Agree.refl v)
    · exact bindings_agree_refl rest name

end

mutual

/-- Only lambdas can agree without being the same. -/
theorem Agree.eq_of_plain : (v : Value) → {w : Value} → v.Agree w → v.Plain → w = v
  | .nat _, _, agree, _ => by
    cases agree
    rfl
  | .bool _, _, agree, _ => by
    cases agree
    rfl
  | .callable _, _, agree, _ => by
    cases agree
    rfl
  | .unknown _, _, agree, _ => by
    cases agree
    rfl
  | .lambda _ _ _, _, _, plain => by cases plain
  | .list items, _, agree, plain => by
    cases agree with
    | list agree => rw [items_eq_of_plain items agree (plain_list.mp plain)]

theorem items_eq_of_plain : (items : List Value) → {items' : List Value} →
    List.Forall₂ Agree items items' → (∀ item ∈ items, item.Plain) → items' = items
  | [], _, .nil, _ => rfl
  | item :: items, _, .cons first rest, plain => by
    rw [List.forall_mem_cons] at plain
    rw [Agree.eq_of_plain item first plain.1, items_eq_of_plain items rest plain.2]

end

end Value

/-! ### Evaluation -/

theorem Evaluation.variableValue_agree {env env' : Env} {name : String}
    (binding : Option.Rel Value.Agree (env.find? name) (env'.find? name)) :
    (variableValue env name).Agree (variableValue env' name) := by
  unfold variableValue
  generalize env.find? name = found at binding ⊢
  generalize env'.find? name = found' at binding ⊢
  cases binding with
  | some value => exact value
  | none => exact .refl _

/-- The same term under environments that agree on the names that occur free in it. -/
def focused : Simulation where
  toTolerance := .identical
  value := Value.Agree
  code env term env' term' := term' = term ∧ Env.AgreeOn term.freeNames env env'
  nat_left := by
    intro n w
    constructor
    · intro agree
      cases agree
      rfl
    · rintro rfl
      exact .nat n
  bool_left := by
    intro b w
    constructor
    · intro agree
      cases agree
      rfl
    · rintro rfl
      exact .bool b
  list_left := by
    intro items w
    constructor
    · intro agree
      cases agree with
      | list items => exact ⟨_, rfl, items⟩
    · rintro ⟨items', rfl, agree⟩
      exact .list agree
  callable_left := by
    intro name w agree
    cases agree
    exact ⟨rfl, .unknown name⟩
  callable_refl _ := .callable _
  lambda_left := by
    intro param body held w agree
    cases agree with
    | lambda bindings =>
      exact ⟨param, body, _, rfl, fun a b value => ⟨rfl, Env.AgreeOn.insert bindings value⟩⟩
  unknown_left := by
    intro name w agree
    cases agree
    exact .inl rfl
  unknown_refl _ := .unknown _
  code_const related := related.1
  code_var := by
    rintro env env' name term ⟨rfl, agree⟩
    exact ⟨name, rfl, Evaluation.variableValue_agree (agree name (by simp [Term.freeNames]))⟩
  code_lambda := by
    rintro env env' param body term ⟨rfl, agree⟩
    exact ⟨param, body, rfl, .lambda agree⟩
  code_args := by
    rintro env env' head args term ⟨rfl, agree⟩
    refine ⟨head, args, rfl, List.forall₂_same.mpr fun arg listed => ⟨rfl, ?_⟩, ?_⟩
    · intro name free
      exact agree name (List.mem_cons_of_mem _ (Term.mem_freeNamesArgs listed free))
    · have binding := agree head List.mem_cons_self
      generalize env.find? head = found at binding ⊢
      generalize env'.find? head = found' at binding ⊢
      cases binding with
      | some value => exact value
      -- unbound on both sides, so that both look for a builtin of that name
      | none => exact ⟨.unknown head, .inl rfl⟩

/-- Only the free names of a term matter to its evaluation. -/
theorem evaluate_free_names {env env' : Env} {term : Term}
    (agree : ∀ name ∈ term.freeNames, env.find? name = env'.find? name) (limit : Nat) :
    (∃ failure, evaluate limit env term = .error failure ∧
      evaluate limit env' term = .error failure) ∨
    ∃ v w, evaluate limit env term = .ok v ∧ evaluate limit env' term = .ok w ∧ v.Agree w ∧
      (v.holdsLambda = false → w = v) := by
  have related : focused.Outcomes (evaluate limit env term) (evaluate limit env' term) := by
    refine Simulation.evaluate_related (.inl rfl) ⟨rfl, fun name free => ?_⟩
    rw [agree name free]
    exact Value.bindings_agree_refl env' name
  cases outcome : evaluate limit env term with
  | ok v =>
    rw [outcome] at related
    obtain ⟨w, evaluated, value⟩ := related.right_ok fun _ fails => fails
    exact .inr ⟨v, w, rfl, evaluated, value, value.eq_of_plain v⟩
  | error failure =>
    -- no failure is tolerated on one side only
    cases outcome' : evaluate limit env' term with
    | ok w =>
      rw [outcome, outcome'] at related
      exact absurd related not_false
    | error failure' =>
      rw [outcome, outcome'] at related
      exact .inl ⟨failure, rfl, congrArg Except.error (Eq.symm related)⟩

/-- A list with a lambda that looks at `n`, made by applying another one to zero. -/
def constantly : Term :=
  .app "map" [.lambda "x" (.lambda "y" (.app "plus" [.var "x", .var "n"])),
    .app "Cons" [.const "Z", .const "Nil"]]

/-- Its value: the lambda holds the zero and all that is in scope. -/
def constantlyIn (env : Env) : Value :=
  .list [.lambda "y" (.app "plus" [.var "x", .var "n"]) (env.insert "x" (.nat 0))]

def narrow : Env := [("n", .nat 2)]

def wide : Env := [("m", .nat 5), ("n", .nat 2)]

/-- The values differ, but only in what the lambda holds for `m`. -/
theorem evaluate_free_names_constantly :
    (∀ name ∈ constantly.freeNames, narrow.find? name = wide.find? name) ∧
      evaluate 1 narrow constantly = .ok (constantlyIn narrow) ∧
      evaluate 1 wide constantly = .ok (constantlyIn wide) ∧
      (constantlyIn narrow).Agree (constantlyIn wide) ∧
      constantlyIn narrow ≠ constantlyIn wide := by
  have agree : ∀ name ∈ constantly.freeNames, narrow.find? name = wide.find? name := by decide
  have first : evaluate 1 narrow constantly = .ok (constantlyIn narrow) := rfl
  have second : evaluate 1 wide constantly = .ok (constantlyIn wide) := rfl
  refine ⟨agree, first, second, ?_, by decide⟩
  rcases evaluate_free_names agree 1 with
    ⟨failure, failed, -⟩ | ⟨v, w, evaluated, evaluated', value, -⟩
  · rw [first] at failed
    cases failed
  · rw [first] at evaluated
    rw [second] at evaluated'
    obtain rfl := Except.ok.inj evaluated
    obtain rfl := Except.ok.inj evaluated'
    exact value

end ProofScript
