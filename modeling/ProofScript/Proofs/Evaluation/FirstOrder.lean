import ProofScript.Proofs.Evaluation.Limit
import ProofScript.Proofs.Typing.Adequacy

/-!
# Lambdas as arguments only

A lambda can be applied to itself, and then evaluation need not end. For that it has to get into a
list, an environment or a result first. Where lambdas stand in front of the arguments of `map` and
`filter` and nowhere else, none ever gets there.

## Main result

`Term.FirstOrder.evaluate_ends`: such a term has an outcome under every environment without lambdas,
the same for all limits beyond the nesting of its lambdas, and its value holds no lambda. The term
need not be typed, and the names `map` and `filter` may be bound to something else.

`Settles` says what a computation on values without lambdas does. The builtins are gone through
once, in `operation_settling`, and everything else follows the recursion of the evaluator.
-/
namespace ProofScript

/-! ### Values without lambdas -/

namespace Value

mutual

/-- Whether there is a lambda anywhere in the value. -/
def holdsLambda : Value → Bool
  | .lambda _ _ _ => true
  | .list items => itemsHoldLambda items
  | _ => false

def itemsHoldLambda : List Value → Bool
  | [] => false
  | item :: items => holdsLambda item || itemsHoldLambda items

end

abbrev Plain (v : Value) : Prop := v.holdsLambda = false

theorem plain_list {items : List Value} :
    (Value.list items).Plain ↔ ∀ item ∈ items, item.Plain := by
  rw [Plain, holdsLambda]
  induction items with
  | nil => simp [itemsHoldLambda]
  | cons item items ih => simp [itemsHoldLambda, ih]

end Value

/-- No name is bound to a value with a lambda in it. -/
def Env.Plain (env : Env) : Prop :=
  ∀ name v, env.find? name = some v → v.Plain

theorem Env.Plain.insert {env : Env} (plain : env.Plain) (param : String) {arg : Value}
    (given : arg.Plain) : Env.Plain (env.insert param arg) := by
  intro name v found
  rw [Env.find?_insert] at found
  by_cases same : name = param
  · simp only [same, if_true, Option.some.injEq] at found
    rw [← found]
    exact given
  · simp only [same, if_false] at found
    exact plain name v found

/-! ### Computations that come to an end -/

/-- What the computation returns is `good`, and it runs into the limit on nested applications only
if that is `low`. It may fail in all other ways. -/
def Settles {α : Type} (low : Prop) (good : α → Prop) : Except EvaluationError α → Prop
  | .ok result => good result
  | .error failure => failure = .tooDeep → low

namespace Settles

variable {α β : Type} {low low' : Prop} {good : α → Prop} {next : β → Prop}

theorem mono {computation : Except EvaluationError α} (settles : Settles low good computation)
    (weaker : low → low') : Settles low' good computation := by
  cases computation with
  | ok result => exact settles
  | error failure => exact fun atLimit => weaker (settles atLimit)

theorem bind {first : Except EvaluationError α} {rest : α → Except EvaluationError β}
    (settles : Settles low good first)
    (continues : ∀ result, good result → Settles low next (rest result)) :
    Settles low next (first >>= rest) := by
  cases first with
  | ok result => exact continues result settles
  | error failure => exact settles

theorem mismatch (function : String) (expected : Kind) (found : Value) :
    Settles low good (throw (kindMismatch function expected found)) := by
  intro atLimit
  cases atLimit

theorem mapM {run : α → Except EvaluationError β} {items : List α}
    (each : ∀ item ∈ items, Settles low next (run item)) :
    Settles low (fun results => ∀ result ∈ results, next result) (items.mapM run) := by
  induction items with
  | nil => exact nofun
  | cons item items ih =>
    rw [List.mapM_cons]
    refine (each item List.mem_cons_self).bind fun result first => ?_
    refine (ih fun other member => each other (List.mem_cons_of_mem _ member)).bind ?_
    intro results rest
    exact List.forall_mem_cons.mpr ⟨first, rest⟩

end Settles

/-! ### Builtins -/

section Builtins

variable {low : Prop} {function name : String}

theorem natural_settles (n : Nat) : Settles low Value.Plain (natural function n) := by
  unfold natural
  split
  · exact rfl
  · exact nofun

theorem power_settles (base exponent : Nat) :
    Settles low Value.Plain (power function base exponent) := by
  unfold power
  split
  · exact nofun
  · exact natural_settles _

theorem expectNat_settles (v : Value) :
    Settles low (fun _ => True) (expectNat function v) := by
  cases v with
  | nat n => trivial
  | _ => exact .mismatch _ _ _

theorem expectBool_settles (v : Value) :
    Settles low (fun _ => True) (expectBool function v) := by
  cases v with
  | bool b => trivial
  | _ => exact .mismatch _ _ _

theorem expectList_settles {v : Value} (plain : v.Plain) :
    Settles low (fun items => ∀ item ∈ items, item.Plain) (expectList function v) := by
  cases v with
  | list items => exact Value.plain_list.mp plain
  | _ => exact .mismatch _ _ _

theorem joinLists_settles {joined lists : List Value} (done : ∀ item ∈ joined, item.Plain)
    (plain : ∀ item ∈ lists, item.Plain) :
    Settles low Value.Plain (joinLists function joined lists) := by
  induction lists generalizing joined with
  | nil => exact Value.plain_list.mpr (by simpa using done)
  | cons first rest ih =>
    rw [List.forall_mem_cons] at plain
    cases first with
    | list items =>
      refine ih (fun item member => ?_) plain.2
      rw [List.mem_append, List.mem_reverse] at member
      exact member.elim (Value.plain_list.mp plain.1 item) (done item)
    | unknown found => exact rfl
    | _ => exact .mismatch _ _ _

theorem keepItems_settles {test : Value → Except EvaluationError Value} {kept items : List Value}
    (tests : ∀ item ∈ items, Settles low Value.Plain (test item))
    (done : ∀ item ∈ kept, item.Plain) (plain : ∀ item ∈ items, item.Plain) :
    Settles low Value.Plain (keepItems function test kept items) := by
  induction items generalizing kept with
  | nil => exact Value.plain_list.mpr (by simpa using done)
  | cons first rest ih =>
    rw [List.forall_mem_cons] at plain tests
    rw [keepItems]
    refine tests.1.bind fun verdict _ => ?_
    -- the verdict is looked at and thrown away, only items are kept
    cases verdict with
    | bool answer =>
      cases answer with
      | true => exact ih tests.2 (List.forall_mem_cons.mpr ⟨plain.1, done⟩) plain.2
      | false => exact ih tests.2 done plain.2
    | unknown name => exact rfl
    | _ => exact .mismatch _ _ _

/-- An operation that comes to an end on values without lambdas, and returns such values. -/
inductive Operation.Settling (low : Prop) : Operation (Except EvaluationError) → Prop
  | unary {run : Value → Except EvaluationError Value} :
    (∀ a, a.Plain → Settles low Value.Plain (run a)) → Settling low (.unary run)
  | binary {run : Value → Value → Except EvaluationError Value} :
    (∀ a b, a.Plain → b.Plain → Settles low Value.Plain (run a b)) → Settling low (.binary run)
  | ternary {run : Value → Value → Value → Except EvaluationError Value} :
    (∀ a b c, a.Plain → b.Plain → c.Plain → Settles low Value.Plain (run a b c)) →
    Settling low (.ternary run)

theorem Operation.Settling.apply {operation : Operation (Except EvaluationError)}
    (settling : operation.Settling low) {args : List Value} (plain : ∀ arg ∈ args, arg.Plain) :
    Settles low Value.Plain (operation.apply name args) := by
  cases settling with
  | unary run =>
    match args with
    | [a] => exact run a (plain a (by simp))
    | [] | _ :: _ :: _ => exact nofun
  | binary run =>
    match args with
    | [a, b] => exact run a b (plain a (by simp)) (plain b (by simp))
    | [] | [_] | _ :: _ :: _ :: _ => exact nofun
  | ternary run =>
    match args with
    | [a, b, c] => exact run a b c (plain a (by simp)) (plain b (by simp)) (plain c (by simp))
    | [] | [_] | [_, _] | _ :: _ :: _ :: _ :: _ => exact nofun

theorem natToNat_settling (op : Nat → Nat) : (natToNat function op).Settling low :=
  .unary fun a _ => (expectNat_settles a).bind fun n _ => natural_settles (op n)

theorem natToBool_settling (test : Nat → Bool) : (natToBool function test).Settling low :=
  .unary fun a _ => (expectNat_settles a).bind fun _ _ => rfl

theorem ofNats_settling {op : Nat → Nat → Except EvaluationError Value}
    (settles : ∀ m n, Settles low Value.Plain (op m n)) : (ofNats function op).Settling low :=
  .binary fun a b _ _ => (expectNat_settles a).bind fun m _ =>
    (expectNat_settles b).bind fun n _ => settles m n

theorem natsToNat_settling (op : Nat → Nat → Nat) : (natsToNat function op).Settling low :=
  ofNats_settling fun m n => natural_settles (op m n)

theorem natsToBool_settling (test : Nat → Nat → Bool) : (natsToBool function test).Settling low :=
  ofNats_settling fun _ _ => rfl

theorem boolsToBool_settling (op : Bool → Bool → Bool) : (boolsToBool function op).Settling low :=
  .binary fun a b _ _ => (expectBool_settles a).bind fun _ _ =>
    (expectBool_settles b).bind fun _ _ => rfl

variable {apply : Value → Value → Except EvaluationError Value}

/-- `map` and `filter` come to an end if the calls of their function do. What kind of function it is
does not matter, since it goes nowhere else. -/
theorem withFunction_settles {builtin : Builtin} (takes : builtin = .map ∨ builtin = .filter)
    {f list : Value} (plain : list.Plain)
    (calls : ∀ item : Value, item.Plain → Settles low Value.Plain (apply f item)) (name : String) :
    Settles low Value.Plain ((builtin.operation apply).apply name [f, list]) := by
  rcases takes with rfl | rfl
  · refine (expectList_settles plain).bind fun items given => ?_
    refine (Settles.mapM fun item member => calls item (given item member)).bind ?_
    intro results images
    exact Value.plain_list.mpr images
  · refine (expectList_settles plain).bind fun items given => ?_
    exact keepItems_settles (fun item member => calls item (given item member)) (by simp) given

/-- No builtin makes a lambda, and each one comes to an end if applying values does. -/
theorem operation_settling
    (applies : ∀ f a, f.Plain → a.Plain → Settles low Value.Plain (apply f a))
    (builtin : Builtin) : (builtin.operation apply).Settling low := by
  cases builtin with
  | succ | pred | double => exact natToNat_settling _
  | plus | mult | sub | min | max => exact natsToNat_settling _
  | pow => exact ofNats_settling power_settles
  | isZero | even | odd => exact natToBool_settling _
  | leq | lt | eqNat => exact natsToBool_settling _
  | and | or | xor => exact boolsToBool_settling _
  | not => exact .unary fun a _ => (expectBool_settles a).bind fun _ _ => rfl
  | ifThenElse =>
    refine .ternary fun a b c _ positive negative => (expectBool_settles a).bind fun p _ => ?_
    cases p with
    | true => exact positive
    | false => exact negative
  -- what goes into a list comes from an argument
  | cons =>
    refine .binary fun a b head tail => (expectList_settles tail).bind fun items plain => ?_
    exact Value.plain_list.mpr (List.forall_mem_cons.mpr ⟨head, plain⟩)
  | append =>
    refine .binary fun a b left right => (expectList_settles left).bind fun xs first => ?_
    refine (expectList_settles right).bind fun ys second => ?_
    exact Value.plain_list.mpr (List.forall_mem_append.mpr ⟨first, second⟩)
  | length =>
    exact .unary fun a list => (expectList_settles list).bind fun _ _ => natural_settles _
  | reverse =>
    refine .unary fun a list => (expectList_settles list).bind fun items plain => ?_
    exact Value.plain_list.mpr (by simpa using plain)
  | snoc =>
    refine .binary fun a b list last => (expectList_settles list).bind fun items plain => ?_
    exact Value.plain_list.mpr (List.forall_mem_append.mpr ⟨plain, by simpa using last⟩)
  | concat =>
    refine .unary fun a list => (expectList_settles list).bind fun lists plain => ?_
    exact joinLists_settles (by simp) plain
  | replicate =>
    refine .binary fun a b _ item => (expectNat_settles a).bind fun count _ => ?_
    split
    · exact nofun
    · refine Value.plain_list.mpr fun copy member => ?_
      rw [List.eq_of_mem_replicate member]
      exact item
  | map =>
    exact .binary fun f a function list =>
      withFunction_settles (.inl rfl) list (fun item given => applies f item function given) "map"
  | filter =>
    exact .binary fun f a test list =>
      withFunction_settles (.inr rfl) list (fun item given => applies f item test given) "filter"

theorem applyNamed_settles
    (applies : ∀ f a, f.Plain → a.Plain → Settles low Value.Plain (apply f a))
    {args : List Value} (plain : ∀ arg ∈ args, arg.Plain) :
    Settles low Value.Plain (Evaluation.applyNamed apply name args) := by
  unfold Evaluation.applyNamed
  split
  · exact rfl
  · cases Builtin.ofName? name with
    | none => exact nofun
    | some builtin => exact (operation_settling applies builtin).apply plain

end Builtins

/-! ### Applying values -/

/-- A value that may be an argument: one without lambdas, or a lambda by itself. -/
inductive Value.Handed : Value → Prop
  | plain {v : Value} : v.Plain → Handed v
  | lambda {param : String} {body : Term} {held : Env} : Handed (.lambda param body held)

/-- A builtin with one argument applies no values, so it does not matter how that is done. -/
theorem operation_single (apply apply' : Value → Value → Except EvaluationError Value)
    (builtin : Builtin) (name : String) (arg : Value) :
    (builtin.operation apply).apply name [arg] = (builtin.operation apply').apply name [arg] := by
  cases builtin <;> rfl

theorem operation_single_settles {low : Prop}
    (apply : Value → Value → Except EvaluationError Value) (builtin : Builtin) (name : String)
    {arg : Value} (handed : arg.Handed) :
    Settles low Value.Plain ((builtin.operation apply).apply name [arg]) := by
  cases handed with
  | plain given =>
    rw [operation_single apply fun _ _ => .ok (.nat 0)]
    refine (operation_settling ?_ builtin).apply (by simpa using given)
    intro _ _ _ _
    exact rfl
  -- no builtin takes a lambda as its only argument
  | lambda => cases builtin <;> exact nofun

/-- Applying a value without lambdas takes no further application and returns no lambda. -/
theorem application_settles {f arg : Value} (plain : f.Plain) (handed : arg.Handed) (limit : Nat) :
    Settles (limit = 0) Value.Plain (Evaluation.application limit f arg) := by
  cases limit with
  | zero => exact fun _ => rfl
  | succ limit =>
    cases f with
    -- one argument is too few for `map` and `filter`, so nothing else is applied
    | callable name =>
      rw [Evaluation.application, Evaluation.applyNamed]
      split
      · exact rfl
      · cases Builtin.ofName? name with
        | none => exact nofun
        | some builtin => exact operation_single_settles _ builtin name handed
    | lambda param body held => cases plain
    | unknown name => exact rfl
    | _ => exact nofun

/-- A bound head is applied to one argument after the other. -/
theorem foldlM_settles {f : Value} (plain : f.Plain) {args : List Value}
    (handed : ∀ arg ∈ args, arg.Handed) (limit : Nat) :
    Settles (limit = 0) Value.Plain (args.foldlM (Evaluation.application limit) f) := by
  induction args generalizing f with
  | nil => exact plain
  | cons arg args ih =>
    rw [List.forall_mem_cons] at handed
    rw [List.foldlM_cons]
    exact (application_settles plain handed.1 limit).bind fun result given => ih given handed.2

/-! ### Terms -/

namespace Term

/-- Lambdas stand in front of the arguments of `map` and `filter`, and nowhere else. -/
inductive FirstOrder : Term → Prop
  | var (name : String) : FirstOrder (.var name)
  | const (name : String) : FirstOrder (.const name)
  | app {head : String} {args : List Term} :
    (∀ arg ∈ args, FirstOrder arg) → FirstOrder (.app head args)
  | handing {builtin : Builtin} {param : String} {body : Term} {args : List Term} :
    builtin = .map ∨ builtin = .filter → FirstOrder body → (∀ arg ∈ args, FirstOrder arg) →
    FirstOrder (.app builtin.name (.lambda param body :: args))

end Term

theorem Evaluation.constant_settles {low : Prop} (name : String) :
    Settles low Value.Plain (Evaluation.constant name) := by
  unfold constant
  split
  · exact rfl
  · exact rfl
  · exact rfl
  · exact rfl
  · split
    · exact rfl
    · exact nofun

theorem Evaluation.variableValue_plain {env : Env} (plain : env.Plain) (name : String) :
    (variableValue env name).Plain := by
  unfold variableValue
  cases found : env.find? name with
  | some v => exact plain name v found
  | none =>
    dsimp only
    split
    · exact rfl
    · exact rfl

theorem Evaluation.terms_settles {low : Prop}
    {apply : Value → Value → Except EvaluationError Value} {env : Env} {args : List Term}
    (each : ∀ arg ∈ args, Settles low Value.Plain (Evaluation.term apply env arg)) :
    Settles low (fun values => ∀ v ∈ values, v.Plain) (Evaluation.terms apply env args) := by
  induction args with
  | nil =>
    rw [terms]
    exact nofun
  | cons arg args ih =>
    rw [List.forall_mem_cons] at each
    rw [terms]
    refine each.1.bind fun v first => (ih each.2).bind fun values rest => ?_
    exact List.forall_mem_cons.mpr ⟨first, rest⟩

/-- `map` and `filter` with a lambda in front, whatever the number of their arguments is. -/
theorem applyNamed_lambda_settles {low : Prop}
    {apply : Value → Value → Except EvaluationError Value} {builtin : Builtin}
    (takes : builtin = .map ∨ builtin = .filter) {param : String} {body : Term} {held : Env}
    (calls : ∀ item : Value, item.Plain →
      Settles low Value.Plain (apply (.lambda param body held) item))
    {args : List Value} (plain : ∀ arg ∈ args, arg.Plain) :
    Settles low Value.Plain
      (Evaluation.applyNamed apply builtin.name (.lambda param body held :: args)) := by
  rw [Evaluation.applyNamed, Builtin.ofName?_name]
  split
  · exact rfl
  · match args with
    | [list] => exact withFunction_settles takes (plain list (by simp)) calls _
    | [] | _ :: _ :: _ => rcases takes with rfl | rfl <;> exact nofun

namespace Term

/-- Evaluation comes to an end without a lambda, and with no more applications nested than lambdas
are. -/
theorem FirstOrder.settles {term : Term} (firstOrder : term.FirstOrder) {env : Env}
    (plain : env.Plain) (limit : Nat) :
    Settles (limit ≤ term.lambdaDepth) Value.Plain (evaluate limit env term) := by
  -- bodies of lambdas are evaluated under other environments and lower limits
  induction firstOrder generalizing env limit with
  | var name => exact Evaluation.variableValue_plain plain name
  | const name => exact Evaluation.constant_settles name
  | @app head args _ ih =>
    have atDepth : limit = 0 → limit ≤ lambdaDepthArgs args := by omega
    have values := Evaluation.terms_settles fun arg member =>
      (ih arg member plain limit).mono fun low => Nat.le_trans low (le_lambdaDepthArgs member)
    rw [evaluate, Evaluation.term]
    refine values.bind fun values given => ?_
    cases found : env.find? head with
    | some function =>
      have handed : ∀ v ∈ values, v.Handed := fun v member => .plain (given v member)
      exact (foldlM_settles (plain head function found) handed limit).mono atDepth
    | none =>
      refine applyNamed_settles (fun f a isPlain argPlain => ?_) given
      exact (application_settles isPlain (.plain argPlain) limit).mono atDepth
  | @handing builtin param body args takes _ _ ihBody ihArgs =>
    have atDepth : limit = 0 → limit ≤ lambdaDepthArgs (.lambda param body :: args) := by omega
    have values : Settles (limit ≤ lambdaDepthArgs (.lambda param body :: args))
        (fun values => ∃ rest, values = .lambda param body env :: rest ∧ ∀ v ∈ rest, v.Plain)
        (Evaluation.terms (Evaluation.application limit) env (.lambda param body :: args)) := by
      have others := Evaluation.terms_settles fun arg member =>
        (ihArgs arg member plain limit).mono fun low =>
          Nat.le_trans low (le_lambdaDepthArgs (List.mem_cons_of_mem (.lambda param body) member))
      rw [Evaluation.terms, Evaluation.term]
      exact others.bind fun rest given => ⟨rest, rfl, given⟩
    rw [evaluate, Evaluation.term]
    refine values.bind ?_
    rintro _ ⟨rest, rfl, given⟩
    cases found : env.find? builtin.name with
    | some function =>
      -- then it is not the builtin that is applied, and whatever it is takes no lambda
      have handed : ∀ v ∈ .lambda param body env :: rest, v.Handed :=
        List.forall_mem_cons.mpr ⟨.lambda, fun v member => .plain (given v member)⟩
      exact (foldlM_settles (plain builtin.name function found) handed limit).mono atDepth
    | none =>
      refine applyNamed_lambda_settles takes (fun item itemPlain => ?_) given
      cases limit with
      | zero => exact fun _ => Nat.zero_le _
      -- the body runs under one application more, and is in one lambda less
      | succ limit =>
        have below := le_lambdaDepthArgs (List.mem_cons_self (a := .lambda param body) (l := args))
        rw [lambdaDepth] at below
        refine (ihBody (plain.insert param itemPlain) limit).mono fun low => ?_
        omega

/-- Evaluation ends if lambdas are only handed to `map` and `filter`, and no lambda comes out. -/
theorem FirstOrder.evaluate_ends {term : Term} (firstOrder : term.FirstOrder) {env : Env}
    (plain : env.Plain) :
    ∃ outcome, outcome ≠ .error .tooDeep ∧
      (∀ limit, term.lambdaDepth < limit → evaluate limit env term = outcome) ∧
      ∀ v, outcome = .ok v → v.holdsLambda = false := by
  have settles := firstOrder.settles plain (term.lambdaDepth + 1)
  have deep : ¬ term.lambdaDepth + 1 ≤ term.lambdaDepth := Nat.not_succ_le_self _
  have ended : evaluate (term.lambdaDepth + 1) env term ≠ .error .tooDeep := by
    intro atLimit
    rw [atLimit] at settles
    exact deep (settles rfl)
  refine ⟨_, ended, fun limit above => evaluate_eq_of_le above ended, fun v returned => ?_⟩
  rw [returned] at settles
  exact settles

/-- The items of `xs` that are below `n`. -/
def lesser : Term :=
  .app "filter" [.lambda "x" (.app "lt" [.var "x", .var "n"]), .var "xs"]

/-- How many items below `n` there are in each list of `xss`. -/
def lesserCounts : Term :=
  .app "map" [.lambda "xs" (.app "length" [lesser]), .var "xss"]

theorem firstOrder_lesserCounts : lesserCounts.FirstOrder := by
  have variablesOnly : ∀ names : List String, ∀ arg ∈ names.map Term.var, arg.FirstOrder := by
    intro names arg member
    obtain ⟨name, -, rfl⟩ := List.mem_map.mp member
    exact .var name
  have filtered : lesser.FirstOrder :=
    .handing (.inr rfl) (.app (variablesOnly ["x", "n"])) (variablesOnly ["xs"])
  exact .handing (.inl rfl) (.app (by simpa using filtered)) (variablesOnly ["xss"])

end Term

/-- Two lists of numbers, the second one empty. -/
def listed : Env := [("n", .nat 2), ("xss", .list [.list [.nat 1, .nat 5], .list []])]

theorem plain_listed : listed.Plain := by
  intro name v found
  simp only [listed, Env.find?_cons, Env.find?_nil] at found
  split at found
  · cases found
    rfl
  · split at found
    · cases found
      rfl
    · cases found

theorem Term.evaluate_ends_lesserCounts :
    lesserCounts.FirstOrder ∧ listed.Plain ∧
      ∃ outcome, outcome ≠ .error .tooDeep ∧
        (∀ limit, lesserCounts.lambdaDepth < limit →
          evaluate limit listed lesserCounts = outcome) ∧
        (∀ v, outcome = .ok v → v.holdsLambda = false) ∧
        outcome = .ok (.list [.nat 1, .nat 0]) := by
  obtain ⟨outcome, ended, same, plain⟩ := firstOrder_lesserCounts.evaluate_ends plain_listed
  have value : evaluate 3 listed lesserCounts = .ok (.list [.nat 1, .nat 0]) := rfl
  refine ⟨firstOrder_lesserCounts, plain_listed, outcome, ended, same, plain, ?_⟩
  rw [← same 3 (by decide), value]

end ProofScript
