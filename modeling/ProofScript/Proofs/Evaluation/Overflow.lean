import ProofScript.Evaluation
import ProofScript.Proofs.Environment

/-!
# Results that do not fit 64 bits

Successors, sums, products, powers and doubles may be larger than what a value holds. They are then
refused as an overflow, and never cut down to 64 bits.

## Main result

`callBuiltin_exact`: a call returns the mathematical result if that fits, and reports an overflow if
it does not. Only the powers of zero and one make an exception. They always fit, but an exponent
beyond 32 bits is refused before anyone looks at the base.
-/
namespace ProofScript

namespace Builtin

/-- The number that a builtin stands for, for those whose result may exceed their arguments. -/
inductive Computes : Builtin → List UInt64 → Nat → Prop
  | succ (a : UInt64) : Computes .succ [a] (a.toNat + 1)
  | plus (a b : UInt64) : Computes .plus [a, b] (a.toNat + b.toNat)
  | mult (a b : UInt64) : Computes .mult [a, b] (a.toNat * b.toNat)
  | pow (a b : UInt64) : Computes .pow [a, b] (Nat.pow a.toNat b.toNat)
  | double (a : UInt64) : Computes .double [a] (2 * a.toNat)

/-- A power of zero or one whose exponent does not fit 32 bits. -/
inductive DeclinedPower : Builtin → List UInt64 → Prop
  | pow {base exponent : UInt64} :
    base.toNat ≤ 1 → UInt32.size ≤ exponent.toNat → DeclinedPower .pow [base, exponent]

end Builtin

/-- The outcome is the number `result` if 64 bits hold it, and the overflow of `function` if not. -/
structure Exact (function : String) (result : Nat) (outcome : Except EvaluationError Value) :
    Prop where
  fits : result < UInt64.size → ∃ word : UInt64, outcome = .ok (.nat word) ∧ word.toNat = result
  overflows : UInt64.size ≤ result → outcome = .error (.overflow function)

theorem natural_exact (function : String) (n : Nat) : Exact function n (natural function n) where
  fits small := by
    refine ⟨.ofNat n, ?_, UInt64.toNat_ofNat_of_lt' small⟩
    simp only [natural, small, if_true]
    rfl
  overflows large := by
    simp only [natural, Nat.not_lt.mpr large, if_false]
    rfl

/-- From the sixty-fourth power on, bases over one are out of range. -/
theorem size_le_pow {base exponent : Nat} (large : 1 < base) (many : 64 ≤ exponent) :
    UInt64.size ≤ Nat.pow base exponent :=
  calc UInt64.size = Nat.pow 2 64 := by decide
    _ ≤ Nat.pow 2 exponent := Nat.pow_le_pow_right (by decide) many
    _ ≤ Nat.pow base exponent := Nat.pow_le_pow_left large exponent

/-- A power is exact if its exponent fits 32 bits or its base exceeds one. -/
theorem power_exact {base exponent : Nat} (computed : exponent < UInt32.size ∨ 1 < base)
    (function : String) :
    Exact function (Nat.pow base exponent) (power function base exponent) := by
  unfold power
  split
  next refused =>
    -- what is refused without being computed does not fit
    have large : UInt64.size ≤ Nat.pow base exponent := by
      simp only [Bool.or_eq_true, Bool.and_eq_true, decide_eq_true_eq] at refused
      have wide : 64 ≤ UInt32.size := by decide
      exact size_le_pow (by omega) (by omega)
    exact ⟨fun small => absurd large (Nat.not_le.mpr small), fun _ => rfl⟩
  next => exact natural_exact function _

/-- Numbers are known, so a builtin that is given some is called. -/
theorem callBuiltin_nats (limit : Nat) (builtin : Builtin) (args : List UInt64) :
    callBuiltin limit builtin.name (args.map Value.nat) =
      (builtin.operation (Evaluation.application limit)).apply builtin.name
        (args.map Value.nat) := by
  have known : (args.map Value.nat).any Value.isUnknown = false := by
    simp [Value.isUnknown]
  simp only [callBuiltin, Evaluation.applyNamed, known, Builtin.ofName?_name, Bool.false_eq_true,
    if_false]
  rfl

/-- An exponent beyond 32 bits is refused, whatever the base is. -/
theorem callBuiltin_pow_of_size_le {exponent : UInt64} (beyond : UInt32.size ≤ exponent.toNat)
    (limit : Nat) (base : UInt64) :
    callBuiltin limit "pow" [.nat base, .nat exponent] = .error (.overflow "pow") := by
  have called : callBuiltin limit "pow" [.nat base, .nat exponent] =
      power "pow" base.toNat exponent.toNat := callBuiltin_nats limit .pow [base, exponent]
  rw [called]
  simp only [power, beyond, decide_true, Bool.true_or, if_true]
  rfl

/-- Arithmetic is exact: an overflow is reported if and only if the result does not fit, apart from
the powers of zero and one that are declined for their exponent. -/
theorem callBuiltin_exact {builtin : Builtin} {args : List UInt64} {result : Nat}
    (computes : builtin.Computes args result) (limit : Nat) :
    (¬ builtin.DeclinedPower args →
      Exact builtin.name result (callBuiltin limit builtin.name (args.map Value.nat))) ∧
    (builtin.DeclinedPower args →
      callBuiltin limit builtin.name (args.map Value.nat) = .error (.overflow builtin.name)) := by
  cases computes with
  | pow base exponent =>
    constructor
    -- not declined means that the exponent is short or the base large, and both are exact
    · intro computed
      rw [callBuiltin_nats]
      refine power_exact ?_ _
      rcases Nat.lt_or_ge exponent.toNat UInt32.size with short | beyond
      · exact .inl short
      · exact .inr (Nat.lt_of_not_le fun small => computed (.pow small beyond))
    · rintro ⟨-, beyond⟩
      exact callBuiltin_pow_of_size_le beyond limit base
  | _ =>
    rw [callBuiltin_nats]
    exact ⟨fun _ => natural_exact _ _, nofun⟩

/-- The largest power of three that fits, the one after it, and a power of zero. -/
theorem callBuiltin_exact_powers :
    Builtin.Computes .pow [3, 40] (Nat.pow 3 40) ∧ ¬ Builtin.DeclinedPower .pow [3, 40] ∧
      (∃ word : UInt64, callBuiltin 0 "pow" [.nat 3, .nat 40] = .ok (.nat word) ∧
        word.toNat = 12157665459056928801) ∧
      callBuiltin 0 "pow" [.nat 3, .nat 41] = .error (.overflow "pow") ∧
      Builtin.DeclinedPower .pow [0, 4294967296] ∧
      callBuiltin 0 "pow" [.nat 0, .nat 4294967296] = .error (.overflow "pow") := by
  have computed (exponent : UInt64) : ¬ Builtin.DeclinedPower .pow [3, exponent] := by
    rintro ⟨small, -⟩
    exact absurd small (by decide)
  have declined : Builtin.DeclinedPower .pow [0, 4294967296] := .pow (by decide) (by decide)
  exact ⟨.pow 3 40, computed 40,
    ((callBuiltin_exact (.pow 3 40) 0).1 (computed 40)).fits (by decide),
    ((callBuiltin_exact (.pow 3 41) 0).1 (computed 41)).overflows (by decide),
    declined, (callBuiltin_exact (.pow 0 4294967296) 0).2 declined⟩

theorem Builtin.computes_one (exponent : UInt64) : Computes .pow [1, exponent] 1 := by
  have power : Nat.pow (1 : UInt64).toNat exponent.toNat = 1 := Nat.one_pow _
  rw [← power]
  exact .pow 1 exponent

/-- One is a number that fits, yet its power to an exponent of 33 bits is reported as too large. -/
theorem overflow_of_one :
    Builtin.Computes .pow [1, 4294967296] 1 ∧ 1 < UInt64.size ∧
      callBuiltin 0 "pow" [.nat 1, .nat 4294967296] = .error (.overflow "pow") :=
  ⟨Builtin.computes_one _, by decide, callBuiltin_pow_of_size_le (by decide) 0 1⟩

end ProofScript
