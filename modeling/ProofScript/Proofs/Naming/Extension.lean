import Mathlib.Tactic.Tauto
import ProofScript.Proofs.Naming.Links

/-!
# What a term adds to the scope

Walking a term gives names to its free variables and to the binders of its lambdas. The former stay
known after the term, also if they were first met inside of a lambda, and the latter do not, whatever
they hid. Nothing that was known before is changed.

`Extension` says this of any part of the walk, with the names that it adds written out. One part
after another and going into a lambda keep it, so it holds of terms by induction
(`exists_extension`).
-/
namespace ProofScript

namespace Term

mutual

/-- The names that occur free in a term as variables. The head of an application is none. -/
def freeVariables : Term → List String
  | .var name => [name]
  | .const _ => []
  | .app _ args => freeVariablesArgs args
  | .lambda param body => (freeVariables body).filter (· ≠ param)

def freeVariablesArgs : List Term → List String
  | [] => []
  | arg :: args => freeVariables arg ++ freeVariablesArgs args

end

mutual

/-- The binders of the lambdas in a term, one for each. -/
def binders : Term → List String
  | .var _ => []
  | .const _ => []
  | .app _ args => bindersArgs args
  | .lambda param body => param :: binders body

def bindersArgs : List Term → List String
  | [] => []
  | arg :: args => binders arg ++ bindersArgs args

end

end Term

theorem Renaming.lookup_eq_some_iff_mem {entries : Renaming}
    (distinct : (entries.map Prod.fst).Nodup) {name given : String} :
    entries.lookup name = some given ↔ (name, given) ∈ entries := by
  refine ⟨mem_of_lookup_eq_some, fun member => ?_⟩
  induction entries with
  | nil => cases member
  | cons entry entries ih =>
    rw [List.map_cons, List.nodup_cons] at distinct
    rw [lookup_cons]
    rcases List.mem_cons.mp member with rfl | later
    · rw [if_pos rfl]
    · have differs : name ≠ entry.1 := by
        rintro rfl
        exact distinct.1 (List.mem_map.mpr ⟨_, later, rfl⟩)
      rw [if_neg differs, ih distinct.2 later]

/-! ### Parts of the walk -/

/-- A part of the walk inside of the lambdas `bound`, from `before` to `after`, that meets the free
variables `free`, names `added` of them, and gives `binders` to the binders of lambdas. -/
structure Extension (bound : Renaming) (before : Naming) (free binders : List String)
    (added : Renaming) (after : Naming) : Prop where
  scope : after.scope = added ++ before.scope
  fresh : after.fresh = before.fresh + (binders.length + added.length)
  distinct : (added.map Prod.fst).Nodup
  names : ∀ name, name ∈ added.map Prod.fst ↔
    name ∈ free ∧ name ∉ (bound ++ before.scope).map Prod.fst
  given : (added.map Prod.snd ++ binders).Perm
    ((List.range' before.fresh (binders.length + added.length)).map fun number =>
      "v" ++ toString number)

namespace Extension

variable {bound added added' : Renaming} {before between after : Naming}
  {free free' binders binders' : List String}

theorem nothing (bound : Renaming) (naming : Naming) : Extension bound naming [] [] [] naming where
  scope := rfl
  fresh := rfl
  distinct := List.nodup_nil
  names name := by simp
  given := .refl _

/-- A variable that is known already. -/
theorem known {name : String} (inside : name ∈ (bound ++ before.scope).map Prod.fst) :
    Extension bound before [name] [] [] before where
  scope := rfl
  fresh := rfl
  distinct := List.nodup_nil
  names other := by
    simp only [List.map_nil, List.not_mem_nil, List.mem_singleton, false_iff, not_and, not_not]
    rintro rfl
    exact inside
  given := .refl _

/-- A variable that is met for the first time. -/
theorem met {name : String} (outside : name ∉ (bound ++ before.scope).map Prod.fst) :
    Extension bound before [name] [] [(name, "v" ++ toString before.fresh)]
      ⟨(name, "v" ++ toString before.fresh) :: before.scope, before.fresh + 1⟩ where
  scope := rfl
  fresh := rfl
  distinct := List.nodup_singleton name
  names other := by
    simp only [List.map_cons, List.map_nil, List.mem_singleton, iff_self_and]
    rintro rfl
    exact outside
  given := .refl _

theorem append (first : Extension bound before free binders added between)
    (second : Extension bound between free' binders' added' after) :
    Extension bound before (free ++ free') (binders ++ binders') (added' ++ added)
      after where
  scope := by rw [second.scope, first.scope, List.append_assoc]
  fresh := by
    rw [second.fresh, first.fresh, List.length_append, List.length_append]
    omega
  distinct := by
    rw [List.map_append, List.nodup_append']
    refine ⟨second.distinct, first.distinct, ?_⟩
    intro name later earlier
    -- what is named by the first part is known to the second one
    have unknown := ((second.names name).mp later).2
    rw [first.scope] at unknown
    simp only [List.map_append, List.mem_append, not_or] at unknown
    exact unknown.2.1 earlier
  names name := by
    have earlier := first.names name
    have later := second.names name
    rw [first.scope] at later
    simp only [List.map_append, List.mem_append, not_or] at earlier later ⊢
    tauto
  given := by
    have count : (binders ++ binders').length + (added' ++ added).length =
        (binders.length + added.length) + (binders'.length + added'.length) := by
      rw [List.length_append, List.length_append]
      omega
    rw [count, ← List.range'_append_1, List.map_append, List.map_append, ← first.fresh]
    refine .trans ?_ (first.given.append second.given)
    -- the names that the parts gave to variables and to binders, sorted by parts
    rw [List.append_assoc, List.append_assoc]
    refine (List.perm_append_comm_assoc _ _ _).trans (.append_left _ ?_)
    exact List.perm_append_comm_assoc _ _ _

theorem lambda (param : String)
    (body : Extension ((param, "v" ++ toString before.fresh) :: bound) before.next.2 free
      binders added after) :
    Extension bound before (free.filter (· ≠ param))
      (("v" ++ toString before.fresh) :: binders) added after where
  scope := body.scope
  fresh := by
    rw [body.fresh, List.length_cons]
    simp only [Naming.next]
    omega
  distinct := body.distinct
  -- inside of the lambda its binder is known, outside of it is no free variable
  names name := by
    rw [body.names]
    simp [Naming.next, and_assoc]
  given := by
    have count : (("v" ++ toString before.fresh) :: binders).length + added.length =
        (binders.length + added.length) + 1 := by
      rw [List.length_cons]
      omega
    rw [count, List.range'_succ, List.map_cons]
    exact List.perm_middle.trans (body.given.cons _)

end Extension

/-! ### Terms -/

namespace Term

theorem exists_extension_var (name : String) (bound : Renaming) (naming : Naming) :
    ∃ added, Extension bound naming [name] [] added ((Term.var name).canonical bound naming).2 := by
  cases found : (bound ++ naming.scope).lookup name with
  | some given =>
    have entry := Renaming.mem_of_lookup_eq_some found
    rw [canonical_var_of_some found]
    exact ⟨[], .known (List.mem_map.mpr ⟨_, entry, rfl⟩)⟩
  | none =>
    rw [canonical_var_of_none found]
    exact ⟨_, .met (Renaming.lookup_eq_none_iff.mp found)⟩

theorem binders_canonical_var (name : String) (bound : Renaming) (naming : Naming) :
    ((Term.var name).canonical bound naming).1.binders = [] := by
  cases found : (bound ++ naming.scope).lookup name with
  | some given => rw [canonical_var_of_some found, binders]
  | none => rw [canonical_var_of_none found, binders]

mutual

theorem exists_extension : (term : Term) → (bound : Renaming) → (naming : Naming) →
    ∃ added, Extension bound naming term.freeVariables (term.canonical bound naming).1.binders
      added (term.canonical bound naming).2
  | .const _, bound, naming => ⟨[], .nothing bound naming⟩
  | .var name, bound, naming => by
    rw [binders_canonical_var]
    exact exists_extension_var name bound naming
  | .app _ args, bound, naming => exists_extension_args args bound naming
  | .lambda param body, bound, naming => by
    obtain ⟨added, inside⟩ := exists_extension body _ naming.next.2
    exact ⟨added, inside.lambda param⟩

theorem exists_extension_args : (args : List Term) → (bound : Renaming) → (naming : Naming) →
    ∃ added, Extension bound naming (freeVariablesArgs args)
      (bindersArgs (canonicalArgs bound args naming).1) added (canonicalArgs bound args naming).2
  | [], bound, naming => ⟨[], .nothing bound naming⟩
  | arg :: args, bound, naming => by
    obtain ⟨added, first⟩ := exists_extension arg bound naming
    obtain ⟨added', rest⟩ := exists_extension_args args bound (arg.canonical bound naming).2
    exact ⟨added' ++ added, first.append rest⟩

end

mutual

/-- Every lambda of a term stays one. -/
theorem length_binders_canonical : (term : Term) → (bound : Renaming) → (naming : Naming) →
    (term.canonical bound naming).1.binders.length = term.binders.length
  | .const _, _, _ => rfl
  | .var name, bound, naming => by rw [binders_canonical_var, binders]
  | .app _ args, bound, naming => length_bindersArgs_canonicalArgs args bound naming
  | .lambda _ body, _, naming =>
    congrArg (· + 1) (length_binders_canonical body _ naming.next.2)

theorem length_bindersArgs_canonicalArgs : (args : List Term) → (bound : Renaming) →
    (naming : Naming) →
    (bindersArgs (canonicalArgs bound args naming).1).length = (bindersArgs args).length
  | [], _, _ => rfl
  | arg :: args, bound, naming => by
    rw [canonicalArgs_cons, bindersArgs, bindersArgs, List.length_append, List.length_append,
      length_binders_canonical, length_bindersArgs_canonicalArgs]

end

end Term

namespace Extension

variable {bound added : Renaming} {before after : Naming} {free binders : List String}

theorem lookup_eq_none_of_known (part : Extension bound before free binders added after)
    {name : String} (known : (bound ++ before.scope).lookup name ≠ none) :
    added.lookup name = none := by
  rw [Renaming.lookup_eq_none_iff, part.names]
  exact fun both => known (Renaming.lookup_eq_none_iff.mpr both.2)

/-- What is known after a part of the walk: what was known before, and what was added. -/
theorem lookup_after (part : Extension bound before free binders added after) (name : String) :
    (bound ++ after.scope).lookup name =
      ((bound ++ before.scope).lookup name).or (added.lookup name) := by
  rw [part.scope, List.lookup_append, List.lookup_append, List.lookup_append]
  by_cases known : (bound ++ before.scope).lookup name = none
  · rw [List.lookup_append, Option.or_eq_none_iff] at known
    rw [known.1, known.2, Option.none_or, Option.none_or, Option.or_none, Option.none_or]
  · rw [part.lookup_eq_none_of_known known, Option.none_or, Option.or_none]

theorem isSome_lookup_after (part : Extension bound before free binders added after)
    (name : String) :
    ((bound ++ after.scope).lookup name).isSome ↔
      ((bound ++ before.scope).lookup name).isSome ∨ name ∈ free := by
  rw [part.lookup_after, Option.isSome_or, Bool.or_eq_true]
  by_cases known : (bound ++ before.scope).lookup name = none
  · have added : (added.lookup name).isSome ↔ name ∈ free := by
      rw [Option.isSome_iff_ne_none, Ne, Renaming.lookup_eq_none_iff, not_not, part.names,
        and_iff_left (Renaming.lookup_eq_none_iff.mp known)]
    rw [added]
  · have before := Option.isSome_iff_ne_none.mpr known
    simp only [before, true_or]

/-- The entries that are added are the ones for names that were not known. -/
theorem mem_added_iff (part : Extension bound before free binders added after)
    {name given : String} :
    (name, given) ∈ added ↔ (bound ++ before.scope).lookup name = none ∧
      (bound ++ after.scope).lookup name = some given := by
  rw [part.lookup_after, ← Renaming.lookup_eq_some_iff_mem part.distinct]
  constructor
  · intro found
    have unknown : (bound ++ before.scope).lookup name = none := by
      by_contra known
      rw [part.lookup_eq_none_of_known known] at found
      cases found
    rw [unknown]
    exact ⟨rfl, found⟩
  · rintro ⟨unknown, found⟩
    rw [unknown] at found
    exact found

theorem nodup_given (part : Extension bound before free binders added after) :
    (added.map Prod.snd ++ binders).Nodup :=
  part.given.nodup_iff.mpr
    (List.Nodup.map (fun _ _ => numbered_injective "v") (List.nodup_range' 1))

theorem mem_given_iff (part : Extension bound before free binders added after) {name : String} :
    name ∈ added.map Prod.snd ++ binders ↔
      ∃ number, before.fresh ≤ number ∧ number < after.fresh ∧ name = "v" ++ toString number := by
  rw [part.given.mem_iff, part.fresh]
  simp only [List.mem_map, List.mem_range'_1, and_assoc, eq_comm]

end Extension

end ProofScript
