import ProofScript.Proofs.Evaluation.Limit
import ProofScript.Proofs.Typing.Adequacy
import ProofScript.Proofs.Verification.Refl

/-!
# Typed terms do not go wrong

Under bindings of the right types, a typed term has one outcome, whatever the limit is beyond the
nesting of its lambdas. It is a value of the type of the term, and then the element that the term
stands for, or else a number or a list got too large.

So a proof by evaluation of an equation between typed terms proves an equation between elements.
-/
namespace ProofScript

/-! ### Values of a type -/

namespace Value

/-- The values of a type are those that stand for an element. -/
theorem hasType_iff {type : SimpleType} {v : Value} :
    v.hasType type = true ↔ ∃ element, v.meaning? type = some element := by
  induction type generalizing v with
  | nat => cases v <;> simp [hasType, meaning?]
  | bool => cases v <;> simp [hasType, meaning?]
  | list item ih =>
    cases v with
    | list items =>
      have each : items.all (hasType item) = true ↔ ∃ elements, Means item items elements := by
        induction items with
        | nil => exact ⟨fun _ => ⟨[], .nil⟩, fun _ => rfl⟩
        | cons first rest ihRest =>
          rw [List.all_cons, Bool.and_eq_true, ih, ihRest]
          constructor
          · rintro ⟨⟨element, means⟩, elements, meanRest⟩
            exact ⟨element :: elements, .cons means meanRest⟩
          · rintro ⟨_, - | ⟨means, meanRest⟩⟩
            exact ⟨⟨_, means⟩, _, meanRest⟩
      rw [hasType, each]
      exact exists_congr fun _ => meaning?_items.symm
    | _ => simp [hasType, meaning?]

theorem isStuck_of_hasType {type : SimpleType} {v : Value} (typed : v.hasType type = true) :
    v.isStuck = false := by
  induction type generalizing v with
  | nat => cases v <;> simp_all [hasType, isStuck]
  | bool => cases v <;> simp_all [hasType, isStuck]
  | list item ih =>
    cases v with
    | list items =>
      rw [hasType] at typed
      rw [isStuck]
      induction items with
      | nil => rfl
      | cons first rest ihRest =>
        rw [List.all_cons, Bool.and_eq_true] at typed
        rw [anyStuck, ih typed.1, ihRest typed.2, Bool.false_or]
    | _ => simp [hasType] at typed

end Value

theorem Env.Fits.assigns {env : Env} {context : Context} (fits : env.Fits context) :
    env.Assigns context (env.valuation context) where
  foreign := fits.foreign
  assigned has := by
    obtain ⟨v, found, typed⟩ := fits.typed has
    obtain ⟨element, means⟩ := Value.hasType_iff.mp typed
    refine ⟨v, found, ?_⟩
    rw [has.value_valuation, found, Option.bind_some, means, Option.getD_some]

theorem Env.Fits.empty : Env.Fits [] [] where
  foreign := by
    intro name bound
    cases bound
  typed has := by cases has

/-! ### Safety -/

theorem Safe.ne_tooDeep {α : Type} {low : Prop} {good : α → Prop}
    {computation : Except EvaluationError α} (safe : Safe low good computation) (high : ¬ low) :
    computation ≠ .error .tooDeep := by
  rintro rfl
  exact high safe

/-- A typed term evaluates to a value of its type, or something gets too large. -/
theorem Term.Typed.evaluate_total {context : Context} {term : Term} {type : SimpleType}
    (typed : term.Typed context type) {env : Env} (fits : env.Fits context) :
    ∃ outcome, (∀ limit, term.lambdaDepth < limit → evaluate limit env term = outcome) ∧
      ((∃ v, outcome = .ok v ∧ v.isStuck = Bool.false ∧ v.hasType type = Bool.true) ∨
        ∃ function, outcome = .error (.overflow function)) := by
  have safe := typed.safe fits.assigns (term.lambdaDepth + 1)
  have deep : ¬ term.lambdaDepth + 1 ≤ term.lambdaDepth := Nat.not_succ_le_self _
  -- one limit that is high enough decides for all larger ones
  refine ⟨_, fun limit above => evaluate_eq_of_le above (safe.ne_tooDeep deep), ?_⟩
  match evaluate (term.lambdaDepth + 1) env term, safe with
  | .ok v, means =>
    have typedValue : v.hasType type = Bool.true := Value.hasType_iff.mpr ⟨_, means⟩
    exact .inl ⟨v, rfl, Value.isStuck_of_hasType typedValue, typedValue⟩
  | .error (.overflow function), _ => exact .inr ⟨function, rfl⟩
  | .error .tooDeep, low => exact absurd low deep

/-- The sum of `n` and every item of a list that holds `n` only. -/
def shifted : Term :=
  .app "map" [.lambda "x" (.app "plus" [.var "x", .var "n"]),
    .app "Cons" [.var "n", .const "Nil"]]

def shiftedTyped : shifted.Typed [("n", .nat)] (.list .nat) :=
  .map (.lambda (by decide +kernel)
      (.call .plus (.cons (.var .here) (.cons (.var (.there (by decide) .here)) .nil))))
    (.call (.cons .nat) (.cons (.var .here) (.cons (.nil .nat) .nil)))

theorem fits_single (n : UInt64) : Env.Fits [("n", .nat n)] [("n", .nat)] where
  foreign := by
    intro name bound
    rw [Env.find?_cons] at bound
    split at bound
    next same => rw [same]; decide +kernel
    next => cases bound
  typed has := by
    cases has with
    | here => exact ⟨.nat n, rfl, rfl⟩
    | there _ has => cases has

theorem evaluate_total_shifted :
    Env.Fits [("n", .nat 3)] [("n", .nat)] ∧
      ∃ outcome, (∀ limit, shifted.lambdaDepth < limit →
        evaluate limit [("n", .nat 3)] shifted = outcome) ∧
        ((∃ v, outcome = .ok v ∧ v.isStuck = false ∧ v.hasType (.list .nat) = true) ∨
          ∃ function, outcome = .error (.overflow function)) :=
  ⟨fits_single 3, Term.Typed.evaluate_total shiftedTyped (fits_single 3)⟩

/-! ### Adequacy -/

theorem Term.Typed.meaning?_of_evaluate {context : Context} {term : Term} {type : SimpleType}
    (typed : term.Typed context type) {env : Env} (fits : env.Fits context) {limit : Nat}
    {v : Value} (evaluated : evaluate limit env term = .ok v) :
    v.meaning? type = some (typed.denote (env.valuation context)) := by
  have safe := typed.safe fits.assigns limit
  rw [evaluated] at safe
  exact safe

/-- A value that a typed term evaluates to is the element that the term stands for, and equations
that are proved by evaluation hold between elements. -/
theorem evaluate_adequate :
    (∀ {context : Context} {term : Term} {type : SimpleType} (typed : term.Typed context type)
      {env : Env} {limit : Nat} {v : Value}, env.Fits context → evaluate limit env term = .ok v →
      v.meaning? type = some (typed.denote (env.valuation context))) ∧
    ∀ {left right : Term} {type : SimpleType} (leftTyped : left.Typed [] type)
      (rightTyped : right.Typed [] type) {signature : Signature} {limit : Nat},
      signature.result = .eq left right → Refl.check limit signature = .ok () →
      leftTyped.denote () = rightTyped.denote () := by
  refine ⟨fun typed _ _ _ fits evaluated => typed.meaning?_of_evaluate fits evaluated, ?_⟩
  intro left right type leftTyped rightTyped signature limit equation accepted
  -- both sides have the same value, which stands for one element only
  obtain ⟨value, first, second, -⟩ := (Refl.check_equation_iff equation).mp accepted
  have leftMeans := leftTyped.meaning?_of_evaluate .empty first
  have rightMeans := rightTyped.meaning?_of_evaluate .empty second
  rw [leftMeans] at rightMeans
  exact Option.some.inj rightMeans

/-- The list of one and two. -/
def counted : Term :=
  .app "Cons" [.app "S" [.const "Z"],
    .app "map" [.const "S", .app "Cons" [.app "S" [.const "Z"], .const "Nil"]]]

def countedTyped : counted.Typed [] (.list .nat) :=
  .call (.cons .nat) (.cons (.call .succ (.cons .zero .nil))
    (.cons (.map (.mention (by decide) (.inr rfl) .succ)
      (.call (.cons .nat) (.cons (.call .succ (.cons .zero .nil)) (.cons (.nil .nat) .nil)))) .nil))

/-- The same list, as the reverse of another. -/
def reversed : Term :=
  .app "reverse" [.app "Cons" [.app "double" [.app "S" [.const "Z"]],
    .app "Cons" [.app "S" [.const "Z"], .const "Nil"]]]

def reversedTyped : reversed.Typed [] (.list .nat) :=
  .call (.reverse .nat) (.cons (.call (.cons .nat)
    (.cons (.call .double (.cons (.call .succ (.cons .zero .nil)) .nil))
      (.cons (.call (.cons .nat) (.cons (.call .succ (.cons .zero .nil))
        (.cons (.nil .nat) .nil))) .nil))) .nil)

theorem evaluate_adequate_shifted :
    Env.Fits [("n", .nat 3)] [("n", .nat)] ∧
      evaluate 1 [("n", .nat 3)] shifted = .ok (.list [.nat 6]) ∧
      Value.meaning? (.list .nat) (.list [.nat 6]) =
        some (shiftedTyped.denote (Env.valuation [("n", .nat 3)] [("n", .nat)])) ∧
      Refl.check 1 ⟨[], .eq counted reversed⟩ = .ok () ∧
      countedTyped.denote () = reversedTyped.denote () := by
  have evaluated : evaluate 1 [("n", .nat 3)] shifted = .ok (.list [.nat 6]) := rfl
  have accepted : Refl.check 1 ⟨[], .eq counted reversed⟩ = .ok () := rfl
  exact ⟨fits_single 3, evaluated, evaluate_adequate.1 shiftedTyped (fits_single 3) evaluated,
    accepted, evaluate_adequate.2 countedTyped reversedTyped rfl accepted⟩

end ProofScript
