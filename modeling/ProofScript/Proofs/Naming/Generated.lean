import ProofScript.Signature.Canonical

/-!
# Generated names

Canonical names are a letter followed by a number in decimal notation. The letter tells parameters,
other variables and type variables apart, and the number is read off the name again, so no two
names that are given out are the same. None of them is a constant.
-/
namespace ProofScript

/-- Whether `name` is one that a parameter or another variable of a term can be given. -/
def Generated (name : String) : Prop :=
  ∃ number : Nat, name = "p" ++ toString number ∨ name = "v" ++ toString number

theorem toString_injective {m n : Nat} (same : toString m = toString n) : m = n := by
  rw [Nat.toString_eq_repr, Nat.toString_eq_repr] at same
  have digits : Nat.toDigits 10 m = Nat.toDigits 10 n := by
    rw [← Nat.toList_repr, ← Nat.toList_repr, same]
  rw [← Nat.ofDigitChars_ten_toDigits (n := m), digits, Nat.ofDigitChars_ten_toDigits]

theorem numbered_injective (stem : String) {m n : Nat}
    (same : stem ++ toString m = stem ++ toString n) : m = n := by
  have characters := congrArg String.toList same
  rw [String.toList_append, String.toList_append, List.append_cancel_left_eq] at characters
  exact toString_injective (String.toList_inj.mp characters)

theorem param_ne_variable (m n : Nat) : "p" ++ toString m ≠ "v" ++ toString n := by
  intro same
  have characters := congrArg String.toList same
  rw [String.toList_append, String.toList_append] at characters
  -- the letters differ
  have first := congrArg List.head? characters
  exact absurd first (by simp)

theorem isTypeConstant_numbered (n : Nat) : isTypeConstant ("t" ++ toString n) = false := by
  have characters : ("t" ++ toString n).toList = 't' :: (toString n).toList := by
    rw [String.toList_append]
    rfl
  rw [isTypeConstant, Bool.or_eq_false_iff]
  constructor
  · -- the constants begin with a capital
    rw [List.contains_eq_mem, decide_eq_false_iff_not]
    intro member
    simp only [typeConstants, List.mem_cons, List.not_mem_nil, or_false] at member
    rcases member with same | same | same | same <;>
      · have first := congrArg (fun name : String => name.toList.head?) same
        simp at first
  · rw [beginsWithCapital, characters]
    exact (by decide : Text.isCapital 't' = false)

/-- Whether `name` is a `p` or a `v` followed by digits. All generated names are. -/
def looksGenerated (name : String) : Bool :=
  match name.toList with
  | letter :: digits => (letter == 'p' || letter == 'v') && digits.all Char.isDigit
  | [] => false

theorem Generated.looksGenerated {name : String} (generated : Generated name) :
    looksGenerated name = true := by
  obtain ⟨number, same⟩ := generated
  have digits : ∀ digit ∈ Nat.toDigits 10 number, digit.isDigit = true := fun _ member =>
    Nat.isDigit_of_mem_toDigits (by decide) (by decide) member
  rcases same with rfl | rfl <;>
    simpa [ProofScript.looksGenerated, String.toList_append] using digits

theorem not_generated_of_spelling {name : String} (spelled : looksGenerated name = false) :
    ¬ Generated name := by
  intro generated
  rw [generated.looksGenerated] at spelled
  cases spelled

end ProofScript
