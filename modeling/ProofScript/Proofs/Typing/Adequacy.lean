import ProofScript.Evaluation
import ProofScript.Proofs.Outcome
import ProofScript.Proofs.Typing.Denotation

/-!
# Evaluation and the standard model

A typed term evaluates to the element that it stands for, unless a number or a list gets too large
on the way. It never meets an argument of the wrong kind, a name without a value or a value that is
no function, and it applies values to values no more deeply than lambdas are nested in it.

## Main result

`Term.Typed.safe`: all of this at once, for a typed term under an environment that assigns elements
to its variables. The builtins are gone through once, in `Builtin.Typed.safe`; everything else
follows the typing of the term.
-/
namespace ProofScript

/-! ### Computations that do not go wrong -/

/-- What the computation returns is `good`. It may refuse a result that is out of range, and it runs
into the limit on nested applications only if that is `low`. -/
def Safe {α : Type} (low : Prop) (good : α → Prop) : Except EvaluationError α → Prop
  | .ok result => good result
  | .error (.overflow _) => True
  | .error .tooDeep => low
  | .error _ => False

namespace Safe

variable {α β : Type} {low low' : Prop} {good : α → Prop} {next : β → Prop}

theorem mono {computation : Except EvaluationError α} (safe : Safe low good computation)
    (weaker : low → low') : Safe low' good computation := by
  match computation, safe with
  | .ok _, safe => exact safe
  | .error (.overflow _), _ => trivial
  | .error .tooDeep, safe => exact weaker safe

theorem bind {first : Except EvaluationError α} {rest : α → Except EvaluationError β}
    (safe : Safe low good first) (continues : ∀ result, good result → Safe low next (rest result)) :
    Safe low next (first >>= rest) := by
  match first, safe with
  | .ok result, safe => exact continues result safe
  | .error (.overflow _), _ => trivial
  | .error .tooDeep, safe => exact safe

end Safe

/-! ### Values and their elements -/

namespace Value

/-- The values of a list are the elements of a list, one by one. -/
abbrev Means (type : SimpleType) : List Value → List type.Carrier → Prop :=
  List.Forall₂ fun v element => v.meaning? type = some element

theorem meaning?_nat {v : Value} {n : Nat} (means : v.meaning? .nat = some n) :
    ∃ word : UInt64, v = .nat word ∧ word.toNat = n := by
  cases v <;> simp only [meaning?, Option.some.injEq, reduceCtorEq] at means
  exact ⟨_, rfl, means⟩

theorem meaning?_bool {v : Value} {b : Bool} (means : v.meaning? .bool = some b) : v = .bool b := by
  cases v <;> simp only [meaning?, Option.some.injEq, reduceCtorEq] at means
  rw [means]

theorem meaning?_items {type : SimpleType} {items : List Value} {elements : List type.Carrier} :
    (Value.list items).meaning? (.list type) = some elements ↔ Means type items elements := by
  rw [meaning?]
  induction items generalizing elements with
  | nil => simp [eq_comm]
  | cons item items ih =>
    simp only [List.mapM_cons, Option.bind_eq_bind, Option.bind_eq_some_iff, Option.pure_def,
      Option.some.injEq, ih]
    constructor
    · rintro ⟨first, means, rest, meanRest, rfl⟩
      exact .cons means meanRest
    · rintro (- | ⟨means, meanRest⟩)
      exact ⟨_, means, _, meanRest, rfl⟩

theorem meaning?_list {type : SimpleType} {v : Value} {elements : List type.Carrier}
    (means : v.meaning? (.list type) = some elements) :
    ∃ items, v = .list items ∧ Means type items elements := by
  cases v with
  | list items => exact ⟨items, rfl, meaning?_items.mp means⟩
  | _ => simp only [meaning?, reduceCtorEq] at means

theorem isUnknown_of_meaning? {type : SimpleType} {v : Value} {element : type.Carrier}
    (means : v.meaning? type = some element) : v.isUnknown = false := by
  cases v with
  | unknown name => cases type <;> simp only [meaning?, reduceCtorEq] at means
  | _ => rfl

end Value

/-! ### Builtins -/

section Builtins

variable {low : Prop} {function name : String} {args : List Value}

theorem natural_safe (n : Nat) :
    Safe low (fun v => v.meaning? .nat = some n) (natural function n) := by
  unfold natural
  split
  next fits => exact congrArg some (UInt64.toNat_ofNat_of_lt' fits)
  next => trivial

theorem power_safe (base exponent : Nat) :
    Safe low (fun v => v.meaning? .nat = some (Nat.pow base exponent))
      (power function base exponent) := by
  unfold power
  split
  -- the powers that are not computed are refused, as those that do not fit
  · trivial
  · exact natural_safe _

/-- The values are arguments for which the function gives the element `result`. -/
inductive Applied {codomain : SimpleType} : (domain : List SimpleType) →
    SimpleType.Curried domain codomain → List Value → codomain.Carrier → Prop
  | nil (result : codomain.Carrier) : Applied [] result [] result
  | cons {type : SimpleType} {domain : List SimpleType}
      {function : SimpleType.Curried (type :: domain) codomain} {arg : Value}
      {element : type.Carrier} {args : List Value} {result : codomain.Carrier} :
    arg.meaning? type = some element → Applied domain (function element) args result →
    Applied (type :: domain) function (arg :: args) result

namespace Applied

theorem any_isUnknown {codomain : SimpleType} {domain : List SimpleType}
    {meaning : SimpleType.Curried domain codomain} {result : codomain.Carrier}
    (applied : Applied domain meaning args result) : args.any Value.isUnknown = false := by
  induction applied with
  | nil => rfl
  | cons means _ ih => rw [List.any_cons, Value.isUnknown_of_meaning? means, ih, Bool.false_or]

theorem natToNat {op : Nat → Nat} {result : Nat} (applied : @Applied .nat [.nat] op args result) :
    Safe low (fun v => v.meaning? .nat = some result)
      ((natToNat function op).apply name args) := by
  obtain - | ⟨first, - | _⟩ := applied
  obtain ⟨n, rfl, rfl⟩ := Value.meaning?_nat first
  exact natural_safe _

theorem natToBool {test : Nat → Bool} {result : Bool}
    (applied : @Applied .bool [.nat] test args result) :
    Safe low (fun v => v.meaning? .bool = some result)
      ((natToBool function test).apply name args) := by
  obtain - | ⟨first, - | _⟩ := applied
  obtain ⟨n, rfl, rfl⟩ := Value.meaning?_nat first
  exact rfl

theorem ofNats {codomain : SimpleType} {meaning : Nat → Nat → codomain.Carrier}
    {op : Nat → Nat → Except EvaluationError Value} {result : codomain.Carrier}
    (applied : Applied [.nat, .nat] meaning args result)
    (computes : ∀ m n, Safe low (fun v => v.meaning? codomain = some (meaning m n)) (op m n)) :
    Safe low (fun v => v.meaning? codomain = some result)
      ((ofNats function op).apply name args) := by
  obtain - | ⟨first, - | ⟨second, - | _⟩⟩ := applied
  obtain ⟨m, rfl, rfl⟩ := Value.meaning?_nat first
  obtain ⟨n, rfl, rfl⟩ := Value.meaning?_nat second
  exact computes _ _

theorem natsToNat {op : Nat → Nat → Nat} {result : Nat}
    (applied : @Applied .nat [.nat, .nat] op args result) :
    Safe low (fun v => v.meaning? .nat = some result)
      ((natsToNat function op).apply name args) :=
  applied.ofNats fun m n => natural_safe (op m n)

theorem natsToBool {test : Nat → Nat → Bool} {result : Bool}
    (applied : @Applied .bool [.nat, .nat] test args result) :
    Safe low (fun v => v.meaning? .bool = some result)
      ((natsToBool function test).apply name args) :=
  applied.ofNats fun _ _ => rfl

theorem boolsToBool {op : Bool → Bool → Bool} {result : Bool}
    (applied : @Applied .bool [.bool, .bool] op args result) :
    Safe low (fun v => v.meaning? .bool = some result)
      ((boolsToBool function op).apply name args) := by
  obtain - | ⟨first, - | ⟨second, - | _⟩⟩ := applied
  rw [Value.meaning?_bool first, Value.meaning?_bool second]
  exact rfl

end Applied

theorem joinLists_safe {type : SimpleType} {joined lists : List Value}
    {before : List type.Carrier} {elements : List (List type.Carrier)}
    (done : Value.Means type joined before) (rest : Value.Means (.list type) lists elements) :
    Safe low (fun v => v.meaning? (.list type) = some (before.reverse ++ elements.flatten))
      (joinLists function joined lists) := by
  -- `joined` holds what is joined so far, last item first
  induction rest generalizing joined before with
  | nil =>
    rw [List.flatten_nil, List.append_nil]
    exact Value.meaning?_items.mpr (List.rel_reverse done)
  | @cons v items _ _ first _ ih =>
    obtain ⟨values, rfl, means⟩ := Value.meaning?_list first
    have more := ih (List.rel_append (List.rel_reverse means) done)
    rw [List.reverse_append, List.reverse_reverse, List.append_assoc] at more
    exact more

/-- A typed builtin computes the function that it stands for. -/
theorem Builtin.Typed.safe {builtin : Builtin} {domain : List SimpleType} {codomain : SimpleType}
    (typed : builtin.Typed domain codomain) {result : codomain.Carrier}
    (applied : Applied domain typed.meaning args result)
    {apply : Value → Value → Except EvaluationError Value} :
    Safe low (fun v => v.meaning? codomain = some result)
      ((builtin.operation apply).apply name args) := by
  cases typed with
  | succ | pred | double => exact applied.natToNat
  | plus | mult | sub | min | max => exact applied.natsToNat
  | pow => exact applied.ofNats power_safe
  | isZero | even | odd => exact applied.natToBool
  | leq | lt | eqNat => exact applied.natsToBool
  | and | or | xor => exact applied.boolsToBool
  | not =>
    obtain - | ⟨first, - | _⟩ := applied
    rw [Value.meaning?_bool first]
    exact rfl
  | ifThenElse type =>
    obtain - | @⟨_, _, _, _, answer, _, _, condition, - | ⟨positive, - | ⟨negative, - | _⟩⟩⟩ :=
      applied
    rw [Value.meaning?_bool condition]
    cases answer with
    | true => exact positive
    | false => exact negative
  | cons type =>
    obtain - | ⟨head, - | ⟨tail, - | _⟩⟩ := applied
    obtain ⟨items, rfl, means⟩ := Value.meaning?_list tail
    exact Value.meaning?_items.mpr (.cons head means)
  | append type =>
    obtain - | ⟨left, - | ⟨right, - | _⟩⟩ := applied
    obtain ⟨first, rfl, meansFirst⟩ := Value.meaning?_list left
    obtain ⟨second, rfl, meansSecond⟩ := Value.meaning?_list right
    exact Value.meaning?_items.mpr (List.rel_append meansFirst meansSecond)
  | length type =>
    obtain - | @⟨_, _, _, _, elements, _, _, list, - | _⟩ := applied
    obtain ⟨items, rfl, means⟩ := Value.meaning?_list list
    have same : List.length elements = items.length := means.length_eq.symm
    change Safe low (fun v : Value => v.meaning? .nat = some (List.length elements)) _
    rw [same]
    exact natural_safe items.length
  | reverse type =>
    obtain - | ⟨list, - | _⟩ := applied
    obtain ⟨items, rfl, means⟩ := Value.meaning?_list list
    exact Value.meaning?_items.mpr (List.rel_reverse means)
  | snoc type =>
    obtain - | ⟨list, - | ⟨last, - | _⟩⟩ := applied
    obtain ⟨items, rfl, means⟩ := Value.meaning?_list list
    exact Value.meaning?_items.mpr (List.rel_append means (.cons last .nil))
  | concat type =>
    obtain - | ⟨list, - | _⟩ := applied
    obtain ⟨lists, rfl, means⟩ := Value.meaning?_list list
    exact joinLists_safe .nil means
  | replicate type =>
    obtain - | ⟨count, - | @⟨_, _, _, v, element, _, _, item, - | _⟩⟩ := applied
    obtain ⟨n, rfl, rfl⟩ := Value.meaning?_nat count
    change Safe low _ (if longestReplicate < n.toNat then _ else _)
    split
    · trivial
    · have copies :
          Value.Means type (List.replicate n.toNat v) (List.replicate n.toNat element) := by
        refine forall₂_replicate ?_ n.toNat
        exact item
      exact Value.meaning?_items.mpr copies

/-- A builtin is called by its name once all arguments are known. -/
theorem Builtin.Typed.applyNamed_safe {builtin : Builtin} {domain : List SimpleType}
    {codomain : SimpleType} (typed : builtin.Typed domain codomain) {result : codomain.Carrier}
    (applied : Applied domain typed.meaning args result)
    (apply : Value → Value → Except EvaluationError Value) :
    Safe low (fun v => v.meaning? codomain = some result)
      (Evaluation.applyNamed apply builtin.name args) := by
  simp only [Evaluation.applyNamed, applied.any_isUnknown, Builtin.ofName?_name,
    Bool.false_eq_true, if_false]
  exact typed.safe applied

end Builtins

/-! ### Functions on the items of a list -/

section Items

variable {low : Prop} {function : String} {domain codomain : SimpleType}

theorem mapM_safe {apply : Value → Except EvaluationError Value}
    {meaning : domain.Carrier → codomain.Carrier}
    (computes : ∀ v element, v.meaning? domain = some element →
      Safe low (fun w => w.meaning? codomain = some (meaning element)) (apply v))
    {items : List Value} {elements : List domain.Carrier}
    (means : Value.Means domain items elements) :
    Safe low (fun results => Value.Means codomain results (elements.map meaning))
      (items.mapM apply) := by
  induction means with
  | nil => exact .nil
  | @cons v element items elements first _ ih =>
    rw [List.mapM_cons]
    refine (computes v element first).bind fun result image => ih.bind fun results images => ?_
    exact .cons image images

theorem keepItems_safe {test : Value → Except EvaluationError Value}
    {meaning : domain.Carrier → Bool}
    (computes : ∀ v element, v.meaning? domain = some element →
      Safe low (fun w => w.meaning? .bool = some (meaning element)) (test v))
    {kept items : List Value} {before elements : List domain.Carrier}
    (done : Value.Means domain kept before) (means : Value.Means domain items elements) :
    Safe low (fun v => v.meaning? (.list domain) = some (before.reverse ++ elements.filter meaning))
      (keepItems function test kept items) := by
  -- `kept` holds the items kept so far, last one first
  induction means generalizing kept before with
  | nil =>
    rw [List.filter_nil, List.append_nil]
    exact Value.meaning?_items.mpr (List.rel_reverse done)
  | @cons v element items elements first _ ih =>
    rw [keepItems]
    refine (computes v element first).bind fun answer image => ?_
    rw [Value.meaning?_bool image]
    cases verdict : meaning element with
    | true =>
      have more := ih (.cons first done)
      rw [List.reverse_cons, List.append_assoc, List.singleton_append] at more
      rw [List.filter_cons_of_pos verdict]
      exact more
    | false =>
      rw [List.filter_cons_of_neg (by rw [verdict]; decide)]
      exact ih done

end Items

/-! ### Terms -/

theorem Evaluation.constant_of_callable {builtin : Builtin}
    (callable : builtin ∈ Builtin.callables) :
    (Evaluation.constant builtin.name : Except EvaluationError Value) =
      .ok (.callable builtin.name) := by
  cases builtin <;> first | rfl | exact absurd callable (by decide)

theorem Builtin.isCallable_name {builtin : Builtin} (callable : builtin ∈ Builtin.callables) :
    Builtin.isCallable builtin.name = true :=
  List.any_eq_true.mpr ⟨builtin, callable, beq_self_eq_true _⟩

namespace Env

variable {env : Env} {context : Context} {valuation : context.Valuation}

theorem Foreign.find?_name (foreign : env.Foreign) (builtin : Builtin) :
    env.find? builtin.name = none := by
  rw [← Option.not_isSome_iff_eq_none]
  intro bound
  exact builtin.name_ne (foreign builtin.name bound) rfl

/-- An argument goes on top of the other elements, as its binding goes on top of the others. -/
theorem Assigns.bind (assigns : env.Assigns context valuation) {param : String}
    (foreign : Builtin.ofName? param = none) {type : SimpleType} {v : Value}
    {element : type.Carrier} (means : v.meaning? type = some element) :
    Env.Assigns (env.insert param v) ((param, type) :: context) (element, valuation) where
  foreign := by
    intro name bound
    rw [find?_insert] at bound
    split at bound
    next same => rw [same, foreign]
    next => exact assigns.foreign name bound
  assigned has := by
    cases has with
    | here => exact ⟨v, by rw [find?_insert, if_pos rfl], means⟩
    | there different has =>
      obtain ⟨w, found, meansOther⟩ := assigns.assigned has
      exact ⟨w, by rw [find?_insert, if_neg different, found], meansOther⟩

end Env

namespace Term

theorem le_lambdaDepthArgs {arg : Term} {args : List Term} (listed : arg ∈ args) :
    arg.lambdaDepth ≤ lambdaDepthArgs args := by
  induction listed with
  | head rest => exact Nat.le_max_left _ _
  | tail first _ ih => exact Nat.le_trans ih (Nat.le_max_right _ _)

/-- A limit that is too low for an argument is too low for the application. -/
theorem safe_of_arg {α : Type} {good : α → Prop} {computation : Except EvaluationError α}
    {limit : Nat} {arg : Term} {args : List Term}
    (safe : Safe (limit ≤ arg.lambdaDepth) good computation) (listed : arg ∈ args) :
    Safe (limit ≤ lambdaDepthArgs args) good computation :=
  safe.mono fun low => Nat.le_trans low (le_lambdaDepthArgs listed)

/-- A builtin that is given a function and a list, such as `map` and `filter`. -/
theorem callWithFunction_safe {low : Prop} {good : Value → Prop} {env : Env} {limit : Nat}
    {builtin : Builtin} {function items : Term} {f : Value} {type : SimpleType}
    {elements : List type.Carrier} (foreign : env.Foreign)
    (evaluated : evaluate limit env function = .ok f) (known : f.isUnknown = Bool.false)
    (list : Safe low (fun v => v.meaning? (.list type) = some elements) (evaluate limit env items))
    (runs : ∀ values, Value.Means type values elements →
      Safe low good ((builtin.operation (callValue limit)).apply builtin.name [f, .list values])) :
    Safe low good (evaluate limit env (.app builtin.name [function, items])) := by
  have arguments : Safe low (fun args => ∃ values, args = [f, .list values] ∧
      Value.Means type values elements)
      (Evaluation.terms (Evaluation.application limit) env [function, items]) := by
    have function : Safe low (fun v => v = f) (evaluate limit env function) := by
      rw [evaluated]
      exact rfl
    refine function.bind ?_
    rintro _ rfl
    refine (list.bind fun v means => ?_).bind fun rest same => same
    obtain ⟨values, rfl, same⟩ := Value.meaning?_list means
    exact ⟨values, rfl, same⟩
  rw [evaluate, Evaluation.term, foreign.find?_name]
  refine arguments.bind ?_
  rintro _ ⟨values, rfl, means⟩
  have allKnown : [f, .list values].any Value.isUnknown = Bool.false := by
    rw [List.any_cons, known]
    rfl
  simp only [Evaluation.applyNamed, allKnown, Builtin.ofName?_name, Bool.false_eq_true, if_false]
  exact runs values means

mutual

/-- A typed term evaluates to the element that it stands for, or something gets too large. The limit
on nested applications does not matter if it exceeds the nesting of lambdas. -/
theorem Typed.safe : {context : Context} → {term : Term} → {type : SimpleType} →
    (typed : Typed context term type) → {env : Env} → {valuation : context.Valuation} →
    env.Assigns context valuation → (limit : Nat) →
    Safe (limit ≤ term.lambdaDepth) (fun v => v.meaning? type = some (typed.denote valuation))
      (evaluate limit env term)
  | _, _, _, .zero, _, _, _, _ => rfl
  | _, _, _, .true, _, _, _, _ => rfl
  | _, _, _, .false, _, _, _, _ => rfl
  | _, _, _, .nil _, _, _, _, _ => rfl
  | _, _, _, .var has, env, valuation, assigns, limit => by
    obtain ⟨v, found, means⟩ := assigns.assigned has
    rw [evaluate, Evaluation.term, Evaluation.variableValue, found]
    exact means
  | _, _, _, .call builtin args, env, valuation, assigns, limit => by
    rw [evaluate, Evaluation.term, assigns.foreign.find?_name]
    refine (args.safe assigns limit builtin.meaning).bind fun values applied => ?_
    exact builtin.applyNamed_safe applied _
  | _, _, _, .map function items, env, valuation, assigns, limit => by
    -- only calls of the function can run into the limit, not its own evaluation
    obtain ⟨f, evaluated, known, computes⟩ := function.safe assigns limit
    refine callWithFunction_safe assigns.foreign evaluated known
      (safe_of_arg (items.safe assigns limit) (by simp)) fun values means => ?_
    have mapped := mapM_safe computes means
    refine (safe_of_arg mapped List.mem_cons_self).bind fun results images => ?_
    exact Value.meaning?_items.mpr images
  | _, _, _, .filter test items, env, valuation, assigns, limit => by
    obtain ⟨f, evaluated, known, computes⟩ := test.safe assigns limit
    refine callWithFunction_safe assigns.foreign evaluated known
      (safe_of_arg (items.safe assigns limit) (by simp)) fun values means => ?_
    exact safe_of_arg (keepItems_safe computes .nil means) List.mem_cons_self

theorem TypedArgs.safe : {context : Context} → {args : List Term} → {domain : List SimpleType} →
    {codomain : SimpleType} → (typed : TypedArgs context args domain) → {env : Env} →
    {valuation : context.Valuation} → env.Assigns context valuation → (limit : Nat) →
    (function : SimpleType.Curried domain codomain) →
    Safe (limit ≤ lambdaDepthArgs args)
      (fun values => Applied domain function values (typed.denote valuation function))
      (Evaluation.terms (Evaluation.application limit) env args)
  | _, _, _, _, .nil, _, _, _, _, function => Applied.nil function
  | _, _, _, _, .cons arg args, env, valuation, assigns, limit, function => by
    rw [Evaluation.terms]
    refine (safe_of_arg (arg.safe assigns limit) List.mem_cons_self).bind fun v means => ?_
    have others := args.safe assigns limit (function (arg.denote valuation))
    refine (others.mono ?_).bind fun values applied => ?_
    · exact fun low => Nat.le_trans low (Nat.le_max_right _ _)
    exact .cons means applied

theorem TypedFunction.safe : {context : Context} → {term : Term} →
    {domain codomain : SimpleType} → (typed : TypedFunction context term domain codomain) →
    {env : Env} → {valuation : context.Valuation} → env.Assigns context valuation →
    (limit : Nat) → ∃ function, evaluate limit env term = .ok function ∧
      function.isUnknown = Bool.false ∧ ∀ v element, v.meaning? domain = some element →
        Safe (limit ≤ term.lambdaDepth)
          (fun w => w.meaning? codomain = some (typed.denote valuation element))
          (callValue limit function v)
  | _, _, _, _, @TypedFunction.mention _ builtin _ _ _ callable spelled typed, env, valuation,
      assigns, limit => by
    refine ⟨.callable builtin.name, ?_, rfl, fun v element means => ?_⟩
    · rcases spelled with rfl | rfl
      · rw [evaluate, Evaluation.term, Evaluation.variableValue, assigns.foreign.find?_name]
        simp only [Builtin.isCallable_name callable, if_true]
        rfl
      · exact Evaluation.constant_of_callable callable
    · cases limit with
      | zero => exact Nat.zero_le _
      | succ limit => exact typed.applyNamed_safe (.cons means (.nil _)) _
  | _, _, _, _, .lambda foreign body, env, valuation, assigns, limit => by
    refine ⟨.lambda _ _ env, rfl, rfl, fun v element means => ?_⟩
    cases limit with
    | zero => exact Nat.zero_le _
    -- the body runs under one application more, in the scope of one lambda less
    | succ limit =>
      exact (body.safe (assigns.bind foreign means) limit).mono Nat.succ_le_succ

end

end Term

end ProofScript
