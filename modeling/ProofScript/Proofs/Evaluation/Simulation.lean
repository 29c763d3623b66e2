import Mathlib.Data.List.Forall2
import ProofScript.Evaluation
import ProofScript.Proofs.Outcome

/-!
# Simulations between evaluations

Many facts about evaluation compare two runs: the same term under two environments, a term and a
renamed copy of it, or one term under two limits. A simulation says what is compared. It relates
values with values and terms under environments with terms under environments, and it says which
failures on one side go with which outcomes on the other.

## Main result

`Simulation.evaluate_related`: evaluation takes related terms to related results.

The builtins are gone through once, in `Simulation.operation_related`. Everything else follows the
recursion of the evaluator: over terms for a fixed application of values, then over the limit.
-/
namespace ProofScript

/-! ### Results of two computations -/

/-- Which failures of one computation go with which outcomes of another. A failure that goes with a
value on the other side goes with every failure there, since the other side may still fail. -/
structure Tolerance where
  /-- Both sides fail. -/
  bothFail : EvaluationError → EvaluationError → Prop
  /-- Only the left side fails. -/
  leftFails : EvaluationError → Prop
  /-- Only the right side fails. -/
  rightFails : EvaluationError → Prop
  bothFail_refl : ∀ error, bothFail error error
  bothFail_of_left : ∀ {error}, leftFails error → ∀ other, bothFail error other
  bothFail_of_right : ∀ {error}, rightFails error → ∀ other, bothFail other error

namespace Tolerance

/-- Each side may fail in any way. -/
def lenient : Tolerance where
  bothFail _ _ := True
  leftFails _ := True
  rightFails _ := True
  bothFail_refl _ := trivial
  bothFail_of_left _ _ := trivial
  bothFail_of_right _ _ := trivial

/-- The left side may run into the limit where the right side does not. -/
def deeper : Tolerance where
  bothFail error other := error = .tooDeep ∨ error = other
  leftFails error := error = .tooDeep
  rightFails _ := False
  bothFail_refl _ := .inr rfl
  bothFail_of_left atLimit _ := .inl atLimit
  bothFail_of_right impossible _ := impossible.elim

/-- If one side fails then so does the other, in whatever way. -/
def together : Tolerance where
  bothFail _ _ := True
  leftFails _ := False
  rightFails _ := False
  bothFail_refl _ := trivial
  bothFail_of_left impossible _ := impossible.elim
  bothFail_of_right impossible _ := impossible.elim

/-- If one side fails then so does the other, in the same way. -/
def identical : Tolerance where
  bothFail error other := error = other
  leftFails _ := False
  rightFails _ := False
  bothFail_refl _ := rfl
  bothFail_of_left impossible _ := impossible.elim
  bothFail_of_right impossible _ := impossible.elim

/-- Values are related by `R`, and failures go together. -/
def Results (T : Tolerance) {α β : Type} (R : α → β → Prop) :
    Except EvaluationError α → Except EvaluationError β → Prop
  | .ok a, .ok b => R a b
  | .error e, .error f => T.bothFail e f
  | .error e, .ok _ => T.leftFails e
  | .ok _, .error f => T.rightFails f

variable {T : Tolerance} {α β γ δ : Type} {R : α → β → Prop} {S : γ → δ → Prop}

theorem Results.throw (error : EvaluationError) :
    T.Results R (MonadExceptOf.throw error) (MonadExceptOf.throw error) :=
  T.bothFail_refl error

theorem Results.of_leftFails {error : EvaluationError} (fails : T.leftFails error)
    (other : Except EvaluationError β) : T.Results R (.error error) other := by
  cases other with
  | ok b => exact fails
  | error f => exact T.bothFail_of_left fails f

theorem Results.of_rightFails {error : EvaluationError} (fails : T.rightFails error)
    (other : Except EvaluationError α) : T.Results R other (.error error) := by
  cases other with
  | ok a => exact fails
  | error e => exact T.bothFail_of_right fails e

/-- Where the right side may not fail alone, it returns if the left side does. -/
theorem Results.right_ok {a : α} {right : Except EvaluationError β}
    (related : T.Results R (.ok a) right) (returns : ∀ error, ¬ T.rightFails error) :
    ∃ b, right = .ok b ∧ R a b := by
  cases right with
  | ok b => exact ⟨b, rfl, related⟩
  | error f => exact absurd related (returns f)

theorem Results.left_ok {left : Except EvaluationError α} {b : β}
    (related : T.Results R left (.ok b)) (returns : ∀ error, ¬ T.leftFails error) :
    ∃ a, left = .ok a ∧ R a b := by
  cases left with
  | ok a => exact ⟨a, rfl, related⟩
  | error e => exact absurd related (returns e)

theorem Results.bind {left : Except EvaluationError α} {right : Except EvaluationError β}
    {f : α → Except EvaluationError γ} {g : β → Except EvaluationError δ}
    (first : T.Results R left right) (second : ∀ a b, R a b → T.Results S (f a) (g b)) :
    T.Results S (left >>= f) (right >>= g) := by
  cases left with
  | ok a =>
    cases right with
    | ok b => exact second a b first
    | error e => exact .of_rightFails first _
  | error e =>
    cases right with
    | ok b => exact .of_leftFails first _
    | error f => exact first

/-- A traversal keeps the relation item by item. -/
theorem Results.mapM {f : α → Except EvaluationError γ} {g : β → Except EvaluationError δ}
    (each : ∀ a b, R a b → T.Results S (f a) (g b)) {as : List α} {bs : List β}
    (related : List.Forall₂ R as bs) : T.Results (List.Forall₂ S) (as.mapM f) (bs.mapM g) := by
  induction related with
  | nil => exact List.Forall₂.nil
  | cons head _ ih =>
    rw [List.mapM_cons, List.mapM_cons]
    refine (each _ _ head).bind fun c d image => ih.bind fun cs ds images => ?_
    exact List.Forall₂.cons image images

end Tolerance

/-! ### Simulations -/

/-- A relation between values, and between terms under environments, that evaluation keeps. The
laws say what related values have in common, what related terms are made of, and that the body of a
related lambda is related under the bindings of its argument. -/
structure Simulation extends Tolerance where
  value : Value → Value → Prop
  code : Env → Term → Env → Term → Prop
  nat_left : ∀ {n w}, value (.nat n) w ↔ w = .nat n
  bool_left : ∀ {b w}, value (.bool b) w ↔ w = .bool b
  list_left : ∀ {xs w}, value (.list xs) w ↔ ∃ ys, w = .list ys ∧ List.Forall₂ value xs ys
  callable_left : ∀ {name w}, value (.callable name) w →
    w = .callable name ∧ value (.unknown name) (.unknown name)
  callable_refl : ∀ {name}, Builtin.isCallable name = true →
    value (.callable name) (.callable name)
  lambda_left : ∀ {param body env w}, value (.lambda param body env) w →
    ∃ param' body' env', w = .lambda param' body' env' ∧
      ∀ a b, value a b → code (Env.insert env param a) body (Env.insert env' param' b) body'
  /-- An unknown goes with an unknown, or else with whatever comes out on the other side. -/
  unknown_left : ∀ {name w}, value (.unknown name) w →
    w.isUnknown = true ∨ (∀ other v, value (.unknown other) v) ∧ ∀ error, rightFails error
  unknown_refl : ∀ builtin : Builtin, value (.unknown builtin.name) (.unknown builtin.name)
  code_const : ∀ {env env' name term}, code env (.const name) env' term → term = .const name
  code_var : ∀ {env env' name term}, code env (.var name) env' term →
    ∃ name', term = .var name' ∧
      value (Evaluation.variableValue env name) (Evaluation.variableValue env' name')
  code_lambda : ∀ {env env' param body term}, code env (.lambda param body) env' term →
    ∃ param' body', term = .lambda param' body' ∧
      value (.lambda param body env) (.lambda param' body' env')
  code_args : ∀ {env env' head args term}, code env (.app head args) env' term →
    ∃ head' args', term = .app head' args' ∧
      List.Forall₂ (fun arg arg' => code env arg env' arg') args args' ∧
      match env.find? head, env'.find? head' with
      | some function, some function' => value function function'
      | none, none =>
        -- the same name, or two that are no builtins and so of use to an unknown only
        value (.unknown head) (.unknown head') ∧
          (head = head' ∨ Builtin.ofName? head = none ∧ Builtin.ofName? head' = none ∧
            bothFail (.unknownFunction head) (.unknownFunction head'))
      | none, some _ =>
        -- a head that only the right side knows: no builtin, so the left side is stuck or fails
        Builtin.ofName? head = none ∧ leftFails (.unknownFunction head) ∧
          (∀ w, value (.unknown head) w) ∧ ∀ error, rightFails error
      | some _, none => False

namespace Simulation

variable (S : Simulation)

/-- Results whose values are related. -/
abbrev Outcomes : Except EvaluationError Value → Except EvaluationError Value → Prop :=
  S.Results S.value

variable {S}

theorem kind_eq {v w : Value} (related : S.value v w) (known : v.isUnknown = false) :
    w.kind = v.kind := by
  cases v with
  | nat n => rw [S.nat_left.mp related]
  | bool b => rw [S.bool_left.mp related]
  | list xs =>
    obtain ⟨ys, rfl, -⟩ := S.list_left.mp related
    rfl
  | callable name => rw [(S.callable_left related).1]
  | lambda param body env =>
    obtain ⟨_, _, _, rfl, -⟩ := S.lambda_left related
    rfl
  | unknown name => cases known

theorem isUnknown_eq_false {v w : Value} (related : S.value v w) (known : v.isUnknown = false) :
    w.isUnknown = false := by
  have kinds := kind_eq related known
  cases v <;> cases w <;> simp_all [Value.isUnknown, Value.kind]

/-- Where an unknown goes with every value and failures on the right do not matter, it goes with
every result. -/
theorem unknown_outcomes {name : String} (anything : ∀ w, S.value (.unknown name) w)
    (fails : ∀ error, S.rightFails error) (right : Except EvaluationError Value) :
    S.Outcomes (.ok (.unknown name)) right := by
  cases right with
  | ok w => exact anything w
  | error e => exact fails e

/-- A builtin that gives up on an unknown value on the left goes with whatever it makes of a related
value on the right, as long as it gives up on unknowns there too. -/
theorem stuck_outcomes {name found : String} {w : Value} (related : S.value (.unknown found) w)
    (refl : S.value (.unknown name) (.unknown name)) {right : Except EvaluationError Value}
    (same : w.isUnknown = true → right = .ok (.unknown name)) :
    S.Outcomes (.ok (.unknown name)) right := by
  rcases S.unknown_left related with unknown | ⟨anything, fails⟩
  · rw [same unknown]
    exact refl
  · cases right with
    | ok v => exact anything name v
    | error e => exact fails e

/-! ### Arguments of builtins -/

theorem expectNat_related {v w : Value} (name : String) (related : S.value v w)
    (known : v.isUnknown = false) :
    S.Results (Eq : Nat → Nat → Prop) (expectNat name v) (expectNat name w) := by
  have kinds := kind_eq related known
  cases v with
  | nat n =>
    rw [S.nat_left.mp related]
    rfl
  | unknown => cases known
  | _ =>
    cases w <;> simp only [Value.kind, reduceCtorEq] at kinds
    exact .throw _

theorem expectBool_related {v w : Value} (name : String) (related : S.value v w)
    (known : v.isUnknown = false) :
    S.Results (Eq : Bool → Bool → Prop) (expectBool name v) (expectBool name w) := by
  have kinds := kind_eq related known
  cases v with
  | bool b =>
    rw [S.bool_left.mp related]
    rfl
  | unknown => cases known
  | _ =>
    cases w <;> simp only [Value.kind, reduceCtorEq] at kinds
    exact .throw _

theorem expectList_related {v w : Value} (name : String) (related : S.value v w)
    (known : v.isUnknown = false) :
    S.Results (List.Forall₂ S.value) (expectList name v) (expectList name w) := by
  have kinds := kind_eq related known
  cases v with
  | list xs =>
    obtain ⟨ys, rfl, items⟩ := S.list_left.mp related
    exact items
  | unknown => cases known
  | _ =>
    cases w <;> simp only [Value.kind, reduceCtorEq] at kinds
    exact .throw _

theorem natural_related (name : String) (n : Nat) :
    S.Outcomes (natural name n) (natural name n) := by
  unfold natural
  split
  · exact S.nat_left.mpr rfl
  · exact .throw _

theorem list_related {xs ys : List Value} (items : List.Forall₂ S.value xs ys) :
    S.Outcomes (.ok (.list xs)) (.ok (.list ys)) :=
  S.list_left.mpr ⟨ys, rfl, items⟩

/-! ### Lists of values -/

theorem joinLists_related (builtin : Builtin) {joined joined' lists lists' : List Value}
    (done : List.Forall₂ S.value joined joined') (rest : List.Forall₂ S.value lists lists') :
    S.Outcomes (joinLists builtin.name joined lists) (joinLists builtin.name joined' lists') := by
  -- over the lists still to be joined, with the items joined so far related in reverse
  induction rest generalizing joined joined' with
  | nil => exact list_related (List.rel_reverse done)
  | @cons v w _ _ related _ ih =>
    cases known : v.isUnknown with
    | true =>
      cases v <;> simp only [Value.isUnknown, Bool.false_eq_true] at known
      refine stuck_outcomes related (S.unknown_refl builtin) fun unknown => ?_
      cases w <;> simp only [Value.isUnknown, Bool.false_eq_true] at unknown
      rfl
    | false =>
      have kinds := kind_eq related known
      cases v with
      | list xs =>
        obtain ⟨ys, rfl, items⟩ := S.list_left.mp related
        exact ih (List.rel_append (List.rel_reverse items) done)
      | unknown => cases known
      | _ =>
        cases w <;> simp only [Value.kind, reduceCtorEq] at kinds
        exact .throw _

theorem keepItems_related (builtin : Builtin) {test test' : Value → Except EvaluationError Value}
    (tests : ∀ a b, S.value a b → S.Outcomes (test a) (test' b))
    {kept kept' items items' : List Value}
    (done : List.Forall₂ S.value kept kept') (rest : List.Forall₂ S.value items items') :
    S.Outcomes (keepItems builtin.name test kept items)
      (keepItems builtin.name test' kept' items') := by
  induction rest generalizing kept kept' with
  | nil => exact list_related (List.rel_reverse done)
  | @cons a b _ _ related _ ih =>
    refine (tests a b related).bind fun v w verdict => ?_
    -- the item is kept by the verdict alone, so an unknown one ends both runs
    cases known : v.isUnknown with
    | true =>
      cases v <;> simp only [Value.isUnknown, Bool.false_eq_true] at known
      refine stuck_outcomes verdict (S.unknown_refl builtin) fun unknown => ?_
      cases w <;> simp only [Value.isUnknown, Bool.false_eq_true] at unknown
      rfl
    | false =>
      have kinds := kind_eq verdict known
      cases v with
      | bool answer =>
        cases S.bool_left.mp verdict
        cases answer with
        | true => exact ih (.cons related done)
        | false => exact ih done
      | unknown => cases known
      | _ =>
        cases w <;> simp only [Value.kind, reduceCtorEq] at kinds
        exact .throw _

/-! ### Builtins -/

/-- Operations of the same arity that take related arguments, none of them unknown, to related
results. -/
inductive Operations (S : Simulation) :
    Operation (Except EvaluationError) → Operation (Except EvaluationError) → Prop
  | unary {f g} (run : ∀ a b, S.value a b → a.isUnknown = false → S.Outcomes (f a) (g b)) :
    Operations S (.unary f) (.unary g)
  | binary {f g} (run : ∀ a b c d, S.value a b → S.value c d → a.isUnknown = false →
      c.isUnknown = false → S.Outcomes (f a c) (g b d)) :
    Operations S (.binary f) (.binary g)
  | ternary {f g} (run : ∀ a b c d x y, S.value a b → S.value c d → S.value x y →
      a.isUnknown = false → c.isUnknown = false → x.isUnknown = false →
      S.Outcomes (f a c x) (g b d y)) :
    Operations S (.ternary f) (.ternary g)

theorem Operations.apply {operation operation' : Operation (Except EvaluationError)}
    (operations : Operations S operation operation') (name : String) {args args' : List Value}
    (related : List.Forall₂ S.value args args') (known : args.any Value.isUnknown = false) :
    S.Outcomes (operation.apply name args) (operation'.apply name args') := by
  have lengths := related.length_eq
  -- either the number of arguments is right, or both sides refuse the same number of them
  cases operations with
  | unary run =>
    cases related with
    | nil => exact .throw _
    | cons first rest =>
      cases rest with
      | nil => exact run _ _ first (by simpa using known)
      | cons =>
        simp only [Operation.apply, lengths]
        exact .throw _
  | binary run =>
    cases related with
    | nil => exact .throw _
    | cons first rest =>
      cases rest with
      | nil => exact .throw _
      | cons second rest =>
        cases rest with
        | nil =>
          simp only [List.any_cons, List.any_nil, Bool.or_false, Bool.or_eq_false_iff] at known
          exact run _ _ _ _ first second known.1 known.2
        | cons =>
          simp only [Operation.apply, lengths]
          exact .throw _
  | ternary run =>
    cases related with
    | nil => exact .throw _
    | cons first rest =>
      cases rest with
      | nil => exact .throw _
      | cons second rest =>
        cases rest with
        | nil => exact .throw _
        | cons third rest =>
          cases rest with
          | nil =>
            simp only [List.any_cons, List.any_nil, Bool.or_false, Bool.or_eq_false_iff] at known
            exact run _ _ _ _ _ _ first second third known.1 known.2.1 known.2.2
          | cons =>
            simp only [Operation.apply, lengths]
            exact .throw _

theorem natToNat_related (name : String) (op : Nat → Nat) :
    Operations S (natToNat name op) (natToNat name op) := by
  refine .unary fun a b related known => ?_
  refine (expectNat_related name related known).bind fun n n' same => ?_
  subst same
  exact natural_related name (op n)

theorem ofNats_related (name : String) {op : Nat → Nat → Except EvaluationError Value}
    (refl : ∀ m n, S.Outcomes (op m n) (op m n)) :
    Operations S (ofNats name op) (ofNats name op) := by
  refine .binary fun a b c d first second knownFirst knownSecond => ?_
  refine (expectNat_related name first knownFirst).bind fun m m' same => ?_
  refine (expectNat_related name second knownSecond).bind fun n n' same' => ?_
  subst same same'
  exact refl m n

theorem natsToNat_related (name : String) (op : Nat → Nat → Nat) :
    Operations S (natsToNat name op) (natsToNat name op) :=
  ofNats_related name fun m n => natural_related name (op m n)

theorem natToBool_related (name : String) (test : Nat → Bool) :
    Operations S (natToBool name test) (natToBool name test) := by
  refine .unary fun a b related known => ?_
  refine (expectNat_related name related known).bind fun n n' same => ?_
  subst same
  exact S.bool_left.mpr rfl

theorem natsToBool_related (name : String) (test : Nat → Nat → Bool) :
    Operations S (natsToBool name test) (natsToBool name test) :=
  ofNats_related name fun _ _ => S.bool_left.mpr rfl

theorem boolsToBool_related (name : String) (op : Bool → Bool → Bool) :
    Operations S (boolsToBool name op) (boolsToBool name op) := by
  refine .binary fun a b c d first second knownFirst knownSecond => ?_
  refine (expectBool_related name first knownFirst).bind fun p p' same => ?_
  refine (expectBool_related name second knownSecond).bind fun q q' same' => ?_
  subst same same'
  exact S.bool_left.mpr rfl

theorem power_related (name : String) (base exponent : Nat) :
    S.Outcomes (power name base exponent) (power name base exponent) := by
  unfold power
  split
  · exact .throw _
  · exact natural_related name _

variable {apply apply' : Value → Value → Except EvaluationError Value}

/-- Every builtin takes related arguments to related results, provided that applying values does. -/
theorem operation_related
    (applies : ∀ f g a b, S.value f g → S.value a b → S.Outcomes (apply f a) (apply' g b))
    (builtin : Builtin) :
    Operations S (builtin.operation apply) (builtin.operation apply') := by
  cases builtin with
  -- on numbers and booleans related arguments are equal
  | succ | pred | double => exact natToNat_related _ _
  | plus | mult | sub | min | max => exact natsToNat_related _ _
  | pow => exact ofNats_related _ (power_related _)
  | isZero | even | odd => exact natToBool_related _ _
  | leq | lt | eqNat => exact natsToBool_related _ _
  | and | or | xor => exact boolsToBool_related _ _
  | not =>
    refine .unary fun a b related known => ?_
    refine (expectBool_related _ related known).bind fun p p' same => ?_
    subst same
    exact S.bool_left.mpr rfl
  | ifThenElse =>
    refine .ternary fun a b c d x y condition positive negative known _ _ => ?_
    refine (expectBool_related _ condition known).bind fun p p' same => ?_
    subst same
    cases p with
    | true => exact positive
    | false => exact negative
  -- lists are related item by item
  | cons =>
    refine .binary fun a b c d head tail _ known => ?_
    refine (expectList_related _ tail known).bind fun xs ys items => ?_
    exact list_related (.cons head items)
  | append =>
    refine .binary fun a b c d left right knownLeft knownRight => ?_
    refine (expectList_related _ left knownLeft).bind fun xs ys first => ?_
    refine (expectList_related _ right knownRight).bind fun xs' ys' second => ?_
    exact list_related (List.rel_append first second)
  | length =>
    refine .unary fun a b related known => ?_
    refine (expectList_related _ related known).bind fun xs ys items => ?_
    rw [items.length_eq]
    exact natural_related _ _
  | reverse =>
    refine .unary fun a b related known => ?_
    refine (expectList_related _ related known).bind fun xs ys items => ?_
    exact list_related (List.rel_reverse items)
  | snoc =>
    refine .binary fun a b c d related last known _ => ?_
    refine (expectList_related _ related known).bind fun xs ys items => ?_
    exact list_related (List.rel_append items (.cons last .nil))
  | concat =>
    refine .unary fun a b related known => ?_
    refine (expectList_related _ related known).bind fun xs ys lists => ?_
    exact joinLists_related .concat .nil lists
  | replicate =>
    refine .binary fun a b c d count item known _ => ?_
    refine (expectNat_related _ count known).bind fun n n' same => ?_
    subst same
    split
    · exact .throw _
    · exact list_related (forall₂_replicate item n)
  -- the only two that apply a value
  | map =>
    refine .binary fun a b c d function related _ known => ?_
    refine (expectList_related _ related known).bind fun xs ys items => ?_
    refine (Tolerance.Results.mapM (fun x y => applies a b x y function) items).bind
      fun vs ws images => ?_
    exact list_related images
  | filter =>
    refine .binary fun a b c d test related _ known => ?_
    refine (expectList_related _ related known).bind fun xs ys items => ?_
    exact keepItems_related .filter (fun x y => applies a b x y test) .nil items

theorem any_isUnknown_eq_false {args args' : List Value}
    (related : List.Forall₂ S.value args args') (known : args.any Value.isUnknown = false) :
    args'.any Value.isUnknown = false := by
  induction related with
  | nil => rfl
  | cons first _ ih =>
    simp only [List.any_cons, Bool.or_eq_false_iff] at known ⊢
    exact ⟨isUnknown_eq_false first known.1, ih known.2⟩

/-- With an unknown among the arguments on the left, there is one on the right as well, or anything
may come out there. -/
theorem any_isUnknown_eq_true {args args' : List Value}
    (related : List.Forall₂ S.value args args') (unknown : args.any Value.isUnknown = true) :
    args'.any Value.isUnknown = true ∨
      (∀ other v, S.value (.unknown other) v) ∧ ∀ error, S.rightFails error := by
  induction related with
  | nil => cases unknown
  | @cons v w _ _ first _ ih =>
    simp only [List.any_cons, Bool.or_eq_true] at unknown ⊢
    rcases unknown with here | later
    · cases v <;> simp only [Value.isUnknown, Bool.false_eq_true] at here
      exact (S.unknown_left first).imp_left .inl
    · exact (ih later).imp_left .inr

theorem applyNamed_related
    (applies : ∀ f g a b, S.value f g → S.value a b → S.Outcomes (apply f a) (apply' g b))
    {name name' : String} (unknowns : S.value (.unknown name) (.unknown name'))
    (names : name = name' ∨ Builtin.ofName? name = none ∧ Builtin.ofName? name' = none ∧
      S.bothFail (.unknownFunction name) (.unknownFunction name'))
    {args args' : List Value} (related : List.Forall₂ S.value args args') :
    S.Outcomes (Evaluation.applyNamed apply name args)
      (Evaluation.applyNamed apply' name' args') := by
  -- an unknown argument is looked for before the name is, on both sides
  cases known : args.any Value.isUnknown with
  | true =>
    simp only [Evaluation.applyNamed, known, if_true]
    rcases any_isUnknown_eq_true related known with known' | ⟨anything, fails⟩
    · rw [if_pos known']
      exact unknowns
    · exact unknown_outcomes (anything name) fails _
  | false =>
    simp only [Evaluation.applyNamed, known, any_isUnknown_eq_false related known,
      Bool.false_eq_true, if_false]
    rcases names with rfl | ⟨noBuiltin, noBuiltin', fail⟩
    · cases Builtin.ofName? name with
      | none => exact .throw _
      | some builtin => exact (operation_related applies builtin).apply name related known
    · rw [noBuiltin, noBuiltin']
      exact fail

theorem foldlM_related
    (applies : ∀ f g a b, S.value f g → S.value a b → S.Outcomes (apply f a) (apply' g b))
    {function function' : Value} (functions : S.value function function') {args args' : List Value}
    (related : List.Forall₂ S.value args args') :
    S.Outcomes (args.foldlM apply function) (args'.foldlM apply' function') := by
  induction related generalizing function function' with
  | nil => exact functions
  | cons first _ ih =>
    rw [List.foldlM_cons, List.foldlM_cons]
    exact (applies _ _ _ _ functions first).bind fun _ _ results => ih results

/-! ### Terms -/

theorem constant_related (name : String) :
    S.Outcomes (Evaluation.constant name) (Evaluation.constant name) := by
  unfold Evaluation.constant
  split
  · exact S.nat_left.mpr rfl
  · exact S.bool_left.mpr rfl
  · exact S.bool_left.mpr rfl
  · exact S.list_left.mpr ⟨[], rfl, .nil⟩
  · split
    next callable => exact S.callable_refl callable
    next => exact .throw _

mutual

theorem term_related
    (applies : ∀ f g a b, S.value f g → S.value a b → S.Outcomes (apply f a) (apply' g b)) :
    (term : Term) → {env env' : Env} → {term' : Term} → S.code env term env' term' →
      S.Outcomes (Evaluation.term apply env term) (Evaluation.term apply' env' term')
  | .const name, env, env', term', related => by
    rw [S.code_const related]
    exact constant_related name
  | .var name, env, env', term', related => by
    obtain ⟨name', rfl, values⟩ := S.code_var related
    exact values
  | .lambda param body, env, env', term', related => by
    obtain ⟨param', body', rfl, values⟩ := S.code_lambda related
    exact values
  | .app head args, env, env', term', related => by
    obtain ⟨head', args', rfl, arguments, heads⟩ := S.code_args related
    unfold Evaluation.term
    refine (terms_related applies args arguments).bind fun values values' images => ?_
    cases function : env.find? head with
    | some f =>
      cases function' : env'.find? head' with
      | some g =>
        simp only [function, function'] at heads
        exact foldlM_related applies heads images
      | none => simp only [function, function'] at heads
    | none =>
      cases function' : env'.find? head' with
      | none =>
        simp only [function, function'] at heads
        exact applyNamed_related applies heads.1 heads.2 images
      | some g =>
        -- the right side applies what it knows, the left side has an unknown argument or fails
        simp only [function, function'] at heads
        obtain ⟨noBuiltin, leftFails, anything, rightFails⟩ := heads
        simp only [Evaluation.applyNamed, noBuiltin]
        split
        · exact unknown_outcomes anything rightFails _
        · exact .of_leftFails leftFails _

theorem terms_related
    (applies : ∀ f g a b, S.value f g → S.value a b → S.Outcomes (apply f a) (apply' g b)) :
    (terms : List Term) → {env env' : Env} → {terms' : List Term} →
      List.Forall₂ (fun term term' => S.code env term env' term') terms terms' →
      S.Results (List.Forall₂ S.value) (Evaluation.terms apply env terms)
        (Evaluation.terms apply' env' terms')
  | [], _, _, _, .nil => List.Forall₂.nil
  | term :: terms, _, _, _, .cons first rest => by
    unfold Evaluation.terms
    refine (term_related applies term first).bind fun v w value => ?_
    refine (terms_related applies terms rest).bind fun vs ws values => ?_
    exact List.Forall₂.cons value values

end

/-! ### Limits -/

/-- Applying related values gives related results, under the same limit or under a larger one on
the right if the left side is allowed to run into its own. -/
theorem application_related {limit limit' : Nat}
    (limits : limit = limit' ∨ limit ≤ limit' ∧ S.leftFails .tooDeep) (f g a b : Value)
    (functions : S.value f g) (args : S.value a b) :
    S.Outcomes (Evaluation.application limit f a) (Evaluation.application limit' g b) := by
  -- the limit is used up only by applying values, so terms are gone through for a fixed application
  induction limit generalizing limit' f g a b with
  | zero =>
    rcases limits with rfl | ⟨-, tooDeep⟩
    · exact .throw _
    · exact .of_leftFails tooDeep _
  | succ limit ih =>
    obtain ⟨limit', rfl⟩ : ∃ n, limit' = n + 1 := ⟨limit' - 1, by omega⟩
    have applies := @ih limit' (limits.imp (by omega) fun larger => ⟨by omega, larger.2⟩)
    cases f with
    | callable name =>
      obtain ⟨rfl, refl⟩ := S.callable_left functions
      exact applyNamed_related applies refl (.inl rfl) (.cons args .nil)
    | lambda param body env =>
      obtain ⟨param', body', env', rfl, bodies⟩ := S.lambda_left functions
      exact term_related applies body (bodies a b args)
    | unknown name =>
      rcases S.unknown_left functions with unknown | ⟨anything, fails⟩
      · cases g <;> simp only [Value.isUnknown, Bool.false_eq_true] at unknown
        exact functions
      · exact unknown_outcomes (anything name) fails _
    | _ =>
      -- not a function: both sides report the kind of the value, which is the same
      have kinds := kind_eq functions rfl
      cases g <;> simp only [Value.kind, reduceCtorEq] at kinds
      exact .throw _

/-- Evaluation takes related terms to related results. -/
theorem evaluate_related {limit limit' : Nat}
    (limits : limit = limit' ∨ limit ≤ limit' ∧ S.leftFails .tooDeep) {env env' : Env}
    {term term' : Term} (related : S.code env term env' term') :
    S.Outcomes (evaluate limit env term) (evaluate limit' env' term') :=
  term_related (application_related limits) term related

end Simulation

end ProofScript
