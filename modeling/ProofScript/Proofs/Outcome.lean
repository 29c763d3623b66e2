import Mathlib.Data.List.Forall2

/-!
# Computations that return

What is known about the parts of a computation once the whole of it has returned, and about the
items of a list once it is built.
-/
namespace ProofScript

variable {ε α β : Type}

theorem bind_eq_ok {first : Except ε α} {next : α → Except ε β} {result : β} :
    first >>= next = .ok result ↔ ∃ item, first = .ok item ∧ next item = .ok result := by
  cases first with
  | ok item => simp [bind, Except.bind]
  | error failure => simp [bind, Except.bind]

theorem bind_eq_error {first : Except ε α} {next : α → Except ε β} {failure : ε} :
    first >>= next = .error failure ↔
      first = .error failure ∨ ∃ item, first = .ok item ∧ next item = .error failure := by
  cases first with
  | ok item => simp [bind, Except.bind]
  | error failure => simp [bind, Except.bind]

theorem mapError_eq_ok {change : ε → β} {result : Except ε α} {item : α} :
    result.mapError change = .ok item ↔ result = .ok item := by
  cases result with
  | ok found => constructor <;> intro same <;> cases same <;> rfl
  | error failure => constructor <;> intro same <;> cases same

theorem mapError_eq_error {change : ε → β} {result : Except ε α} {failure : β} :
    result.mapError change = .error failure ↔
      ∃ cause, result = .error cause ∧ change cause = failure := by
  cases result <;> simp [Except.mapError]

theorem toOption_eq_some {result : Except ε α} {item : α} :
    result.toOption = some item ↔ result = .ok item := by
  cases result <;> simp [Except.toOption]

/-! ### Lists -/

variable {apply : α → Except ε β} {items : List α} {results : List β}

theorem length_of_mapM (mapped : items.mapM apply = .ok results) :
    results.length = items.length := by
  induction items generalizing results with
  | nil =>
    cases mapped
    rfl
  | cons item rest ih =>
    rw [List.mapM_cons] at mapped
    obtain ⟨first, -, ran⟩ := bind_eq_ok.mp mapped
    obtain ⟨more, mappedRest, done⟩ := bind_eq_ok.mp ran
    cases done
    rw [List.length_cons, List.length_cons, ih mappedRest]

/-- Mapping over two lists, one after the other. -/
theorem mapM_append_eq_ok {left right : List α} :
    (left ++ right).mapM apply = .ok results ↔
      ∃ first second, left.mapM apply = .ok first ∧ right.mapM apply = .ok second ∧
        results = first ++ second := by
  rw [List.mapM_append, bind_eq_ok]
  constructor
  · rintro ⟨first, mapped, ran⟩
    obtain ⟨second, mapped', done⟩ := bind_eq_ok.mp ran
    cases done
    exact ⟨first, second, mapped, mapped', rfl⟩
  · rintro ⟨first, second, mapped, mapped', rfl⟩
    exact ⟨first, mapped, bind_eq_ok.mpr ⟨second, mapped', rfl⟩⟩

theorem forall₂_replicate {related : α → β → Prop} {first : α} {second : β}
    (relates : related first second) (count : Nat) :
    List.Forall₂ related (List.replicate count first) (List.replicate count second) := by
  induction count with
  | zero => exact .nil
  | succ count ih => exact .cons relates ih

/-- Mapping something that returns nothing but its argument. -/
theorem mapM_identity {apply : α → Except ε α}
    (identity : ∀ {item result}, apply item = .ok result → result = item)
    {items results : List α} (mapped : items.mapM apply = .ok results) : results = items := by
  induction items generalizing results with
  | nil =>
    cases mapped
    rfl
  | cons item rest ih =>
    rw [List.mapM_cons] at mapped
    obtain ⟨first, applied, ran⟩ := bind_eq_ok.mp mapped
    obtain ⟨more, mappedRest, done⟩ := bind_eq_ok.mp ran
    cases done
    rw [identity applied, ih mappedRest]

end ProofScript
