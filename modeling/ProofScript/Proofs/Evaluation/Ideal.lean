import ProofScript.Evaluation
import ProofScript.Proofs.Environment
import ProofScript.Proofs.Outcome

/-!
# Evaluation without bounds

Builtins refuse numbers that do not fit 64 bits, and lists that are too long. So a call that returns
something known has computed what it would have computed without any bounds. What that is, is said
here by `Builtin.ideal` for builtins and by `Term.ideal` for terms that apply nothing but builtins.

The converse does not hold: the result without bounds may be refused.
-/
namespace ProofScript

/-- What a builtin takes a value for. A number is of any size, and what is neither a number nor a
truth value nor a list is only handed on. -/
inductive Reading where
  | nat (n : Nat)
  | bool (b : Bool)
  | list (items : List Value)
  | other (value : Value)

namespace Reading

/-- The value that is read so, if there is one. -/
def value : Reading → Value
  | .nat n => .nat (.ofNat n)
  | .bool b => .bool b
  | .list items => .list items
  | .other value => value

def nat? : Reading → Option Nat
  | .nat n => some n
  | _ => none

def bool? : Reading → Option Bool
  | .bool b => some b
  | _ => none

def list? : Reading → Option (List Value)
  | .list items => some items
  | _ => none

@[simp] theorem nat?_eq_some {reading : Reading} {n : Nat} :
    reading.nat? = some n ↔ reading = .nat n := by
  cases reading <;> simp [nat?]

@[simp] theorem bool?_eq_some {reading : Reading} {b : Bool} :
    reading.bool? = some b ↔ reading = .bool b := by
  cases reading <;> simp [bool?]

@[simp] theorem list?_eq_some {reading : Reading} {items : List Value} :
    reading.list? = some items ↔ reading = .list items := by
  cases reading <;> simp [list?]

end Reading

namespace Value

def reading : Value → Reading
  | .nat n => .nat n.toNat
  | .bool b => .bool b
  | .list items => .list items
  | value => .other value

theorem value_reading (v : Value) : v.reading.value = v := by
  cases v with
  | nat n => exact congrArg Value.nat UInt64.ofNat_toNat
  | _ => rfl

theorem reading_injective {v w : Value} (same : v.reading = w.reading) : v = w := by
  rw [← value_reading v, same, value_reading]

end Value

/-- Joins lists. -/
def joined? : List Value → Option (List Value)
  | [] => some []
  | .list items :: rest => (joined? rest).map (items ++ ·)
  | _ => none

/-- Keeps the items for which `test` answers true. -/
def kept? (test : Value → Except EvaluationError Value) : List Value → Option (List Value)
  | [] => some []
  | item :: rest =>
    match test item with
    | .ok (.bool true) => (kept? test rest).map (item :: ·)
    | .ok (.bool false) => kept? test rest
    | _ => none

namespace Reading

variable {α : Type}

@[simp] def unary (run : Reading → Option α) : List Reading → Option α
  | [a] => run a
  | _ => none

@[simp] def binary (run : Reading → Reading → Option α) : List Reading → Option α
  | [a, b] => run a b
  | _ => none

@[simp] def ternary (run : Reading → Reading → Reading → Option α) : List Reading → Option α
  | [a, b, c] => run a b c
  | _ => none

end Reading

open Reading in
/-- What a builtin computes if nothing is out of bounds and all that it needs is known. -/
@[simp] def Builtin.ideal (apply : Value → Value → Except EvaluationError Value) :
    Builtin → List Reading → Option Reading
  | .succ => unary fun a => do return .nat ((← a.nat?) + 1)
  | .plus => binary fun a b => do return .nat ((← a.nat?) + (← b.nat?))
  | .mult => binary fun a b => do return .nat ((← a.nat?) * (← b.nat?))
  | .pow => binary fun a b => do return .nat (Nat.pow (← a.nat?) (← b.nat?))
  | .pred => unary fun a => do return .nat ((← a.nat?) - 1)
  | .double => unary fun a => do return .nat (2 * (← a.nat?))
  | .sub => binary fun a b => do return .nat ((← a.nat?) - (← b.nat?))
  | .min => binary fun a b => do return .nat (Nat.min (← a.nat?) (← b.nat?))
  | .max => binary fun a b => do return .nat (Nat.max (← a.nat?) (← b.nat?))
  | .isZero => unary fun a => do return .bool ((← a.nat?) == 0)
  | .even => unary fun a => do return .bool ((← a.nat?) % 2 == 0)
  | .odd => unary fun a => do return .bool ((← a.nat?) % 2 == 1)
  | .leq => binary fun a b => do return .bool (decide ((← a.nat?) ≤ (← b.nat?)))
  | .lt => binary fun a b => do return .bool (decide ((← a.nat?) < (← b.nat?)))
  | .eqNat => binary fun a b => do return .bool ((← a.nat?) == (← b.nat?))
  | .not => unary fun a => do return .bool !(← a.bool?)
  | .and => binary fun a b => do return .bool ((← a.bool?) && (← b.bool?))
  | .or => binary fun a b => do return .bool ((← a.bool?) || (← b.bool?))
  | .xor => binary fun a b => do return .bool (Bool.xor (← a.bool?) (← b.bool?))
  | .ifThenElse => ternary fun condition positive negative => do
    return if ← condition.bool? then positive else negative
  | .cons => binary fun head tail => do return .list (head.value :: (← tail.list?))
  | .append => binary fun left right => do return .list ((← left.list?) ++ (← right.list?))
  | .length => unary fun items => do return .nat (← items.list?).length
  | .reverse => unary fun items => do return .list (← items.list?).reverse
  | .snoc => binary fun items last => do return .list ((← items.list?) ++ [last.value])
  | .concat => unary fun lists => do return .list (← joined? (← lists.list?))
  | .replicate => binary fun count item => do
    return .list (List.replicate (← count.nat?) item.value)
  | .map => binary fun function items => do
    return .list (← ((← items.list?).mapM (apply function.value)).toOption)
  | .filter => binary fun test items => do return .list (← kept? (apply test.value) (← items.list?))

/-! ### Calls that return -/

section Shapes

variable {function name : String} {args : List Value} {v : Value}

theorem expectNat_ok {a : Value} {n : Nat}
    (returned : (expectNat function a : Except EvaluationError Nat) = .ok n) :
    a.reading = .nat n := by
  cases a <;> cases returned
  rfl

theorem expectBool_ok {a : Value} {b : Bool}
    (returned : (expectBool function a : Except EvaluationError Bool) = .ok b) :
    a.reading = .bool b := by
  cases a <;> cases returned
  rfl

theorem expectList_ok {a : Value} {items : List Value}
    (returned : (expectList function a : Except EvaluationError (List Value)) = .ok items) :
    a.reading = .list items := by
  cases a <;> cases returned
  rfl

theorem natural_ok {n : Nat}
    (returned : (natural function n : Except EvaluationError Value) = .ok v) :
    v.reading = .nat n := by
  unfold natural at returned
  split at returned
  next fits =>
    cases returned
    exact congrArg Reading.nat (UInt64.toNat_ofNat_of_lt' fits)
  next => cases returned

theorem power_ok {base exponent : Nat}
    (returned : (power function base exponent : Except EvaluationError Value) = .ok v) :
    v.reading = .nat (Nat.pow base exponent) := by
  unfold power at returned
  split at returned
  · cases returned
  · exact natural_ok returned

theorem unary_ok {run : Value → Except EvaluationError Value}
    (returned : (Operation.unary run).apply name args = .ok v) :
    ∃ a, args = [a] ∧ run a = .ok v := by
  match args with
  | [a] => exact ⟨a, rfl, returned⟩
  | [] | _ :: _ :: _ => cases returned

theorem binary_ok {run : Value → Value → Except EvaluationError Value}
    (returned : (Operation.binary run).apply name args = .ok v) :
    ∃ a b, args = [a, b] ∧ run a b = .ok v := by
  match args with
  | [a, b] => exact ⟨a, b, rfl, returned⟩
  | [] | [_] | _ :: _ :: _ :: _ => cases returned

theorem ternary_ok {run : Value → Value → Value → Except EvaluationError Value}
    (returned : (Operation.ternary run).apply name args = .ok v) :
    ∃ a b c, args = [a, b, c] ∧ run a b c = .ok v := by
  match args with
  | [a, b, c] => exact ⟨a, b, c, rfl, returned⟩
  | [] | [_] | [_, _] | _ :: _ :: _ :: _ :: _ => cases returned

theorem natToNat_ok {op : Nat → Nat}
    (returned : (natToNat (m := Except EvaluationError) function op).apply name args = .ok v) :
    ∃ n, args.map Value.reading = [.nat n] ∧ v.reading = .nat (op n) := by
  obtain ⟨a, rfl, ran⟩ := unary_ok returned
  obtain ⟨n, read, done⟩ := bind_eq_ok.mp ran
  exact ⟨n, by rw [List.map_singleton, expectNat_ok read], natural_ok done⟩

theorem natToBool_ok {test : Nat → Bool}
    (returned : (natToBool (m := Except EvaluationError) function test).apply name args = .ok v) :
    ∃ n, args.map Value.reading = [.nat n] ∧ v.reading = .bool (test n) := by
  obtain ⟨a, rfl, ran⟩ := unary_ok returned
  obtain ⟨n, read, done⟩ := bind_eq_ok.mp ran
  cases done
  exact ⟨n, by rw [List.map_singleton, expectNat_ok read], rfl⟩

theorem ofNats_ok {op : Nat → Nat → Except EvaluationError Value}
    (returned : (ofNats function op).apply name args = .ok v) :
    ∃ m n, args.map Value.reading = [.nat m, .nat n] ∧ op m n = .ok v := by
  obtain ⟨a, b, rfl, ran⟩ := binary_ok returned
  obtain ⟨m, readFirst, ran⟩ := bind_eq_ok.mp ran
  obtain ⟨n, readSecond, done⟩ := bind_eq_ok.mp ran
  refine ⟨m, n, ?_, done⟩
  rw [List.map_cons, List.map_singleton, expectNat_ok readFirst, expectNat_ok readSecond]

theorem natsToNat_ok {op : Nat → Nat → Nat}
    (returned : (natsToNat (m := Except EvaluationError) function op).apply name args = .ok v) :
    ∃ m n, args.map Value.reading = [.nat m, .nat n] ∧ v.reading = .nat (op m n) := by
  obtain ⟨m, n, read, done⟩ := ofNats_ok returned
  exact ⟨m, n, read, natural_ok done⟩

theorem natsToBool_ok {test : Nat → Nat → Bool}
    (returned : (natsToBool (m := Except EvaluationError) function test).apply name args = .ok v) :
    ∃ m n, args.map Value.reading = [.nat m, .nat n] ∧ v.reading = .bool (test m n) := by
  obtain ⟨m, n, read, done⟩ := ofNats_ok returned
  cases done
  exact ⟨m, n, read, rfl⟩

theorem boolsToBool_ok {op : Bool → Bool → Bool}
    (returned : (boolsToBool (m := Except EvaluationError) function op).apply name args = .ok v) :
    ∃ a b, args.map Value.reading = [.bool a, .bool b] ∧ v.reading = .bool (op a b) := by
  obtain ⟨first, second, rfl, ran⟩ := binary_ok returned
  obtain ⟨a, readFirst, ran⟩ := bind_eq_ok.mp ran
  obtain ⟨b, readSecond, done⟩ := bind_eq_ok.mp ran
  cases done
  refine ⟨a, b, ?_, rfl⟩
  rw [List.map_cons, List.map_singleton, expectBool_ok readFirst, expectBool_ok readSecond]

theorem joinLists_ok {lists before : List Value}
    (returned : (joinLists function before lists : Except EvaluationError Value) = .ok v)
    (known : v.isUnknown = false) :
    ∃ items, joined? lists = some items ∧ v = .list (before.reverse ++ items) := by
  -- `before` holds the items joined so far, last one first
  induction lists generalizing before with
  | nil =>
    cases returned
    exact ⟨[], rfl, by rw [List.append_nil]⟩
  | cons first rest ih =>
    cases first with
    | list items =>
      obtain ⟨more, joined, result⟩ := ih returned
      refine ⟨items ++ more, by rw [joined?, joined]; rfl, ?_⟩
      rw [result, List.reverse_append, List.reverse_reverse, List.append_assoc]
    | unknown =>
      -- the result would be unknown
      cases returned
      cases known
    | _ => cases returned

theorem keepItems_ok {test : Value → Except EvaluationError Value} {items before : List Value}
    (returned : keepItems function test before items = .ok v) (known : v.isUnknown = false) :
    ∃ kept, kept? test items = some kept ∧ v = .list (before.reverse ++ kept) := by
  induction items generalizing before with
  | nil =>
    cases returned
    exact ⟨[], rfl, by rw [List.append_nil]⟩
  | cons item rest ih =>
    obtain ⟨answer, tested, ran⟩ := bind_eq_ok.mp returned
    match answer, ran with
    | .bool true, ran =>
      obtain ⟨kept, keeps, result⟩ := ih ran
      refine ⟨item :: kept, by rw [kept?, tested, keeps]; rfl, ?_⟩
      rw [result, List.reverse_cons, List.append_assoc, List.singleton_append]
    | .bool false, ran =>
      obtain ⟨kept, keeps, result⟩ := ih ran
      exact ⟨kept, by rw [kept?, tested]; exact keeps, result⟩
    | .unknown _, ran =>
      cases ran
      cases known

end Shapes

/-- A call of a builtin that returns something known has computed what it would have computed
without bounds. -/
theorem Builtin.ideal_of_operation {apply : Value → Value → Except EvaluationError Value}
    (builtin : Builtin) {name : String} {args : List Value} {v : Value}
    (returned : (builtin.operation apply).apply name args = .ok v) (known : v.isUnknown = false) :
    builtin.ideal apply (args.map Value.reading) = some v.reading := by
  -- each shape of operation says how the arguments are read once the call has returned
  cases builtin with
  | succ | pred | double =>
    obtain ⟨n, read, result⟩ := natToNat_ok returned
    rw [read, result]
    rfl
  | plus | mult | sub | min | max =>
    obtain ⟨m, n, read, result⟩ := natsToNat_ok returned
    rw [read, result]
    rfl
  | pow =>
    obtain ⟨m, n, read, ran⟩ := ofNats_ok returned
    rw [read, power_ok ran]
    rfl
  | isZero | even | odd =>
    obtain ⟨n, read, result⟩ := natToBool_ok returned
    rw [read, result]
    rfl
  | leq | lt | eqNat =>
    obtain ⟨m, n, read, result⟩ := natsToBool_ok returned
    rw [read, result]
    rfl
  | and | or | xor =>
    obtain ⟨a, b, read, result⟩ := boolsToBool_ok returned
    rw [read, result]
    rfl
  | not =>
    obtain ⟨a, rfl, ran⟩ := unary_ok returned
    obtain ⟨b, read, done⟩ := bind_eq_ok.mp ran
    cases done
    rw [List.map_singleton, expectBool_ok read]
    rfl
  | ifThenElse =>
    obtain ⟨a, positive, negative, rfl, ran⟩ := ternary_ok returned
    obtain ⟨condition, read, done⟩ := bind_eq_ok.mp ran
    cases done
    rw [List.map_cons, expectBool_ok read, List.map_cons, List.map_singleton]
    cases condition <;> rfl
  | cons =>
    obtain ⟨head, a, rfl, ran⟩ := binary_ok returned
    obtain ⟨tail, read, done⟩ := bind_eq_ok.mp ran
    cases done
    rw [List.map_cons, List.map_singleton, expectList_ok read]
    exact congrArg (fun head => some (Reading.list (head :: tail))) head.value_reading
  | append =>
    obtain ⟨a, b, rfl, ran⟩ := binary_ok returned
    obtain ⟨left, readLeft, ran⟩ := bind_eq_ok.mp ran
    obtain ⟨right, readRight, done⟩ := bind_eq_ok.mp ran
    cases done
    rw [List.map_cons, List.map_singleton, expectList_ok readLeft, expectList_ok readRight]
    rfl
  | length =>
    obtain ⟨a, rfl, ran⟩ := unary_ok returned
    obtain ⟨items, read, done⟩ := bind_eq_ok.mp ran
    rw [List.map_singleton, expectList_ok read, natural_ok done]
    rfl
  | reverse =>
    obtain ⟨a, rfl, ran⟩ := unary_ok returned
    obtain ⟨items, read, done⟩ := bind_eq_ok.mp ran
    cases done
    rw [List.map_singleton, expectList_ok read]
    rfl
  | snoc =>
    obtain ⟨a, last, rfl, ran⟩ := binary_ok returned
    obtain ⟨items, read, done⟩ := bind_eq_ok.mp ran
    cases done
    rw [List.map_cons, List.map_singleton, expectList_ok read]
    exact congrArg (fun last => some (Reading.list (items ++ [last]))) last.value_reading
  -- besides `filter` the only one that returns an unknown for arguments that are known
  | concat =>
    obtain ⟨a, rfl, ran⟩ := unary_ok returned
    obtain ⟨lists, read, done⟩ := bind_eq_ok.mp ran
    obtain ⟨items, joined, rfl⟩ := joinLists_ok done known
    rw [List.map_singleton, expectList_ok read]
    exact Option.bind_eq_some_iff.mpr ⟨items, joined, rfl⟩
  | replicate =>
    obtain ⟨a, item, rfl, ran⟩ := binary_ok returned
    obtain ⟨count, read, done⟩ := bind_eq_ok.mp ran
    split at done
    next => cases done
    next =>
      cases done
      rw [List.map_cons, List.map_singleton, expectNat_ok read, ideal, Reading.binary,
        Value.value_reading]
      rfl
  | map =>
    obtain ⟨function, a, rfl, ran⟩ := binary_ok returned
    obtain ⟨items, read, ran⟩ := bind_eq_ok.mp ran
    obtain ⟨results, mapped, done⟩ := bind_eq_ok.mp ran
    cases done
    rw [List.map_cons, List.map_singleton, expectList_ok read, ideal, Reading.binary,
      Value.value_reading]
    exact Option.bind_eq_some_iff.mpr ⟨items, rfl,
      Option.bind_eq_some_iff.mpr ⟨results, congrArg Except.toOption mapped, rfl⟩⟩
  | filter =>
    obtain ⟨test, a, rfl, ran⟩ := binary_ok returned
    obtain ⟨items, read, done⟩ := bind_eq_ok.mp ran
    obtain ⟨kept, keeps, rfl⟩ := keepItems_ok done known
    rw [List.map_cons, List.map_singleton, expectList_ok read, ideal, Reading.binary,
      Value.value_reading]
    exact Option.bind_eq_some_iff.mpr ⟨items, rfl,
      Option.bind_eq_some_iff.mpr ⟨kept, keeps, rfl⟩⟩

/-! ### Terms -/

namespace Term

mutual

/-- What a term that applies nothing but builtins stands for, without bounds. -/
def ideal (apply : Value → Value → Except EvaluationError Value) (names : String → Reading) :
    Term → Option Reading
  | .const name => (Evaluation.constant name : Except EvaluationError Value).toOption.map
      Value.reading
  | .var name => some (names name)
  | .app head args => do
    let builtin ← Builtin.ofName? head
    let args ← idealArgs apply names args
    builtin.ideal apply args
  | .lambda _ _ => none

def idealArgs (apply : Value → Value → Except EvaluationError Value) (names : String → Reading) :
    List Term → Option (List Reading)
  | [] => some []
  | arg :: args => do
    let arg ← ideal apply names arg
    let args ← idealArgs apply names args
    return arg :: args

end

mutual

/-- Whether a term is made from variables, constants and applications of builtins. -/
def isDirect : Term → Bool
  | .const _ => true
  | .var _ => true
  | .app head args => (Builtin.ofName? head).isSome && areDirect args
  | .lambda _ _ => false

def areDirect : List Term → Bool
  | [] => true
  | arg :: args => isDirect arg && areDirect args

end

end Term

/-- How the names of an environment are read. -/
def Env.reading (env : Env) (name : String) : Reading :=
  (Evaluation.variableValue env name).reading

namespace Evaluation

variable {apply : Value → Value → Except EvaluationError Value} {env : Env}

/-- A call that returns something known has known arguments, and its name is that of a builtin. -/
theorem applyNamed_ok {name : String} {args : List Value} {v : Value}
    (returned : applyNamed apply name args = .ok v) (known : v.isUnknown = false) :
    (∀ arg ∈ args, arg.isUnknown = false) ∧
      ∃ builtin, Builtin.ofName? name = some builtin ∧
        (builtin.operation apply).apply name args = .ok v := by
  unfold applyNamed at returned
  split at returned
  next =>
    cases returned
    cases known
  next allKnown =>
    obtain ⟨-, -, ran⟩ := bind_eq_ok.mp returned
    refine ⟨by simpa using allKnown, ?_⟩
    cases found : Builtin.ofName? name with
    | none =>
      rw [found] at ran
      cases ran
    | some builtin =>
      rw [found] at ran
      exact ⟨builtin, rfl, ran⟩

mutual

/-- An evaluation that returns something known has computed what the term stands for. -/
theorem term_ideal (foreign : env.Foreign) : (term : Term) → {v : Value} → term.isDirect = true →
    Evaluation.term apply env term = .ok v → v.isUnknown = false →
    term.ideal apply env.reading = some v.reading
  | .const name, v, _, returned, _ => by
    rw [Evaluation.term] at returned
    rw [Term.ideal, returned]
    rfl
  | .var name, v, _, returned, _ => by
    cases returned
    rfl
  | .app head args, v, direct, returned, known => by
    rw [Term.isDirect, Bool.and_eq_true] at direct
    obtain ⟨values, evaluated, called⟩ := bind_eq_ok.mp returned
    -- a head that is a builtin has no other value, so it is the builtin that is called
    have unbound : env.find? head = none := by
      rw [← Option.not_isSome_iff_eq_none]
      intro bound
      rw [foreign head bound] at direct
      cases direct.1
    rw [unbound] at called
    obtain ⟨allKnown, builtin, found, ran⟩ := applyNamed_ok called known
    rw [Term.ideal, found, terms_ideal foreign args direct.2 evaluated allKnown]
    exact builtin.ideal_of_operation ran known

theorem terms_ideal (foreign : env.Foreign) : (args : List Term) → {values : List Value} →
    Term.areDirect args = true → Evaluation.terms apply env args = .ok values →
    (∀ value ∈ values, value.isUnknown = false) →
    Term.idealArgs apply env.reading args = some (values.map Value.reading)
  | [], values, _, returned, _ => by
    cases returned
    rfl
  | arg :: args, values, direct, returned, known => by
    rw [Term.areDirect, Bool.and_eq_true] at direct
    obtain ⟨first, evaluated, ran⟩ := bind_eq_ok.mp returned
    obtain ⟨rest, evaluatedRest, done⟩ := bind_eq_ok.mp ran
    cases done
    rw [List.forall_mem_cons] at known
    rw [Term.idealArgs, term_ideal foreign arg direct.1 evaluated known.1,
      terms_ideal foreign args direct.2 evaluatedRest known.2]
    rfl

end

end Evaluation

end ProofScript
