import ProofScript.Proofs.Naming.Extension

/-!
# One scope for the whole walk

The walk that gives out names keeps the binders of the lambdas around it apart from the free
variables met so far. It can be done with one scope as well: a lambda overwrites what its binder
hides, and puts it back when the body is done. This is not the same by itself, as the body changes
the scope too. It is because the body can meet every name for the first time but the binder.

## Main result

`canonicalInPlace_extends_scope`: both walks give out the same names and know the same names
afterwards, which are those known before, as they were, and the free variables of the term. What is
given to new names and to binders is numbered from where the count stood, each number is used once,
and none is left out.
-/
namespace ProofScript

theorem Renaming.lookup_filter_ne (entries : Renaming) (name other : String) :
    List.lookup other (entries.filter (·.1 ≠ name)) =
      if other = name then none else entries.lookup other := by
  by_cases asked : other = name
  · rw [if_pos asked, asked, lookup_eq_none_iff]
    simp
  · rw [if_neg asked]
    induction entries with
    | nil => rfl
    | cons entry entries ih =>
      rw [List.filter_cons, lookup_cons]
      by_cases same : entry.1 = name
      · rw [if_neg (by simpa using same), ih, if_neg (same ▸ asked)]
      · rw [if_pos (by simpa using same), lookup_cons, ih]

namespace Naming

/-- The naming with `given` in place of what `name` was given, or with nothing in place of it. -/
def overwrite (naming : Naming) (name : String) (given : Option String) : Naming :=
  { naming with
    scope := (given.map fun given => (name, given)).toList ++
      naming.scope.filter (·.1 ≠ name) }

theorem lookup_overwrite (naming : Naming) (name other : String) (given : Option String) :
    (naming.overwrite name given).scope.lookup other =
      if other = name then given else naming.scope.lookup other := by
  have rest := Renaming.lookup_filter_ne naming.scope name other
  cases given with
  | none => exact rest
  | some given =>
    rw [overwrite, Option.map_some, Option.toList_some, List.singleton_append,
      Renaming.lookup_cons, rest]
    by_cases asked : other = name
    · rw [if_pos asked, if_pos asked]
    · rw [if_neg asked, if_neg asked, if_neg asked]

end Naming

namespace Term

mutual

/-- The term with canonical names, all of which are kept in one scope. -/
def canonicalInPlace : Term → Naming → Term × Naming
  | .const name, naming => (.const name, naming)
  | .var name, naming =>
    match naming.scope.lookup name with
    | some given => (.var given, naming)
    | none =>
      let (given, naming) := naming.meet name
      (.var given, naming)
  | .app head args, naming =>
    let given := (naming.scope.lookup head).getD head
    let (args, naming) := canonicalArgsInPlace args naming
    (.app given args, naming)
  | .lambda param body, naming =>
    let hidden := naming.scope.lookup param
    let (given, naming) := naming.next
    let (body, naming) := canonicalInPlace body (naming.overwrite param (some given))
    (.lambda given body, naming.overwrite param hidden)

def canonicalArgsInPlace : List Term → Naming → List Term × Naming
  | [], naming => ([], naming)
  | arg :: args, naming =>
    let (arg, naming) := canonicalInPlace arg naming
    let (args, naming) := canonicalArgsInPlace args naming
    (arg :: args, naming)

end

theorem canonicalInPlace_app (head : String) (args : List Term) (naming : Naming) :
    canonicalInPlace (.app head args) naming =
      (.app ((naming.scope.lookup head).getD head) (canonicalArgsInPlace args naming).1,
        (canonicalArgsInPlace args naming).2) := rfl

theorem canonicalInPlace_lambda (param : String) (body : Term) (naming : Naming) :
    canonicalInPlace (.lambda param body) naming =
      (.lambda naming.next.1
          (canonicalInPlace body (naming.next.2.overwrite param (some naming.next.1))).1,
        (canonicalInPlace body (naming.next.2.overwrite param (some naming.next.1))).2.overwrite
          param (naming.scope.lookup param)) := rfl

theorem canonicalArgsInPlace_cons (arg : Term) (args : List Term) (naming : Naming) :
    canonicalArgsInPlace (arg :: args) naming =
      ((canonicalInPlace arg naming).1 ::
          (canonicalArgsInPlace args (canonicalInPlace arg naming).2).1,
        (canonicalArgsInPlace args (canonicalInPlace arg naming).2).2) := rfl

end Term

/-- One scope that knows what the binders `bound` and the scope of `apart` know together. -/
structure Naming.Merges (whole : Naming) (bound : Renaming) (apart : Naming) : Prop where
  fresh : whole.fresh = apart.fresh
  lookup : ∀ name, whole.scope.lookup name = (bound ++ apart.scope).lookup name

namespace Naming.Merges

theorem refl (naming : Naming) : naming.Merges [] naming where
  fresh := rfl
  lookup _ := rfl

variable {whole apart : Naming} {bound : Renaming}

theorem meet (merges : whole.Merges bound apart) (name : String) :
    ((Term.var name).canonicalInPlace whole).1 = ((Term.var name).canonical bound apart).1 ∧
      ((Term.var name).canonicalInPlace whole).2.Merges bound
        ((Term.var name).canonical bound apart).2 := by
  rw [Term.canonicalInPlace, merges.lookup]
  cases found : (bound ++ apart.scope).lookup name with
  | some given =>
    rw [Term.canonical_var_of_some found]
    exact ⟨rfl, merges⟩
  | none =>
    rw [Term.canonical_var_of_none found]
    refine ⟨by simp only [Naming.meet, Naming.next, merges.fresh],
      congrArg (· + 1) merges.fresh, fun other => ?_⟩
    -- the new name comes first in the one scope, and after the binders in the other
    have unbound : bound.lookup name = none := by
      rw [List.lookup_append, Option.or_eq_none_iff] at found
      exact found.1
    have known := merges.lookup other
    simp only [Naming.meet, Naming.next, List.lookup_append, Renaming.lookup_cons] at known ⊢
    by_cases asked : other = name
    · rw [if_pos asked, if_pos asked, asked, unbound, merges.fresh, Option.none_or]
    · rw [if_neg asked, if_neg asked, known]

theorem bind (merges : whole.Merges bound apart) (param : String) :
    (whole.next.2.overwrite param (some whole.next.1)).Merges
      ((param, "v" ++ toString apart.fresh) :: bound) apart.next.2 where
  fresh := congrArg (· + 1) merges.fresh
  lookup name := by
    rw [Naming.lookup_overwrite, List.cons_append, Renaming.lookup_cons]
    simp only [Naming.next, merges.fresh, merges.lookup]

/-- After a lambda, what its binder has hidden is put back. The body has added nothing for the
binder, so there is nothing to be lost. -/
theorem leave {inner after : Naming} {param given : String} {free binders : List String}
    {added : Renaming} (inside : inner.Merges ((param, given) :: bound) after)
    (outside : whole.Merges bound apart)
    (lambda : Extension bound apart (free.filter (· ≠ param)) binders added after) :
    (inner.overwrite param (whole.scope.lookup param)).Merges bound after where
  fresh := inside.fresh
  lookup name := by
    rw [Naming.lookup_overwrite]
    by_cases asked : name = param
    · have unadded : added.lookup param = none := by
        rw [Renaming.lookup_eq_none_iff, lambda.names]
        simp
      rw [if_pos asked, asked, lambda.lookup_after, unadded, Option.or_none, outside.lookup]
    · rw [if_neg asked, inside.lookup, List.cons_append, Renaming.lookup_cons, if_neg asked]

end Naming.Merges

namespace Term

mutual

theorem canonicalInPlace_merges : (term : Term) → {whole apart : Naming} → {bound : Renaming} →
    whole.Merges bound apart →
    (term.canonicalInPlace whole).1 = (term.canonical bound apart).1 ∧
      (term.canonicalInPlace whole).2.Merges bound (term.canonical bound apart).2
  | .const _, _, _, _, merges => ⟨rfl, merges⟩
  | .var name, _, _, _, merges => merges.meet name
  | .app head args, _, _, _, merges => by
    have rest := canonicalArgsInPlace_merges args merges
    rw [canonicalInPlace_app, canonical_app, merges.lookup]
    exact ⟨congrArg (app _) rest.1, rest.2⟩
  | .lambda param body, whole, apart, bound, merges => by
    have inside := canonicalInPlace_merges body (merges.bind param)
    obtain ⟨added, extension⟩ := exists_extension (.lambda param body) bound apart
    refine ⟨?_, inside.2.leave merges extension⟩
    rw [canonicalInPlace_lambda, canonical_lambda, inside.1, Naming.next, merges.fresh]

theorem canonicalArgsInPlace_merges : (args : List Term) → {whole apart : Naming} →
    {bound : Renaming} → whole.Merges bound apart →
    (canonicalArgsInPlace args whole).1 = (canonicalArgs bound args apart).1 ∧
      (canonicalArgsInPlace args whole).2.Merges bound (canonicalArgs bound args apart).2
  | [], _, _, _, merges => ⟨rfl, merges⟩
  | arg :: args, _, _, _, merges => by
    have first := canonicalInPlace_merges arg merges
    have rest := canonicalArgsInPlace_merges args first.2
    rw [canonicalArgsInPlace_cons, canonicalArgs_cons]
    exact ⟨congrArg₂ List.cons first.1 rest.1, rest.2⟩

end

/-- The scope after a term, when all names are kept in one, is the one before with entries for the
free variables that it did not have. -/
theorem canonicalInPlace_extends_scope {term output : Term} {before after : Naming}
    (walked : term.canonicalInPlace before = (output, after)) :
    -- the walk with the binders apart comes to the same
    (term.canonical [] before).1 = output ∧
      (term.canonical [] before).2.fresh = after.fresh ∧
      (∀ name, (term.canonical [] before).2.scope.lookup name = after.scope.lookup name) ∧
      ∃ added : Renaming,
        (∀ name given, before.scope.lookup name = some given →
          after.scope.lookup name = some given) ∧
        (∀ name, (after.scope.lookup name).isSome ↔
          (before.scope.lookup name).isSome ∨ name ∈ term.freeVariables) ∧
        (added.map Prod.fst).Nodup ∧
        (∀ name given, (name, given) ∈ added ↔
          before.scope.lookup name = none ∧ after.scope.lookup name = some given) ∧
        after.fresh = before.fresh + (term.binders.length + added.length) ∧
        (added.map Prod.snd ++ output.binders).Nodup ∧
        (∀ name, name ∈ added.map Prod.snd ++ output.binders ↔
          ∃ number, before.fresh ≤ number ∧ number < after.fresh ∧
            name = "v" ++ toString number) := by
  obtain ⟨added, part⟩ := exists_extension term [] before
  obtain ⟨same, fresh, known⟩ := canonicalInPlace_merges term (Naming.Merges.refl before)
  simp only [walked] at same fresh known
  -- no binder is around the term
  have start : ∀ name, ([] ++ before.scope).lookup name = before.scope.lookup name := fun _ => rfl
  refine ⟨same.symm, fresh.symm, fun name => (known name).symm, added, ?_, ?_, part.distinct, ?_,
    ?_, ?_, ?_⟩
  · intro name given found
    rw [known, part.lookup_after, start, found, Option.some_or]
  · intro name
    rw [known, part.isSome_lookup_after, start]
  · intro name given
    rw [known, part.mem_added_iff, start]
  · rw [fresh, part.fresh, length_binders_canonical]
  · rw [same]
    exact part.nodup_given
  · intro name
    rw [same, fresh, part.mem_given_iff]

/-- Three lambdas, two of which hide what is in scope, and two free variables, one of which is met
inside of a lambda and is hidden by the next one. -/
theorem canonicalInPlace_extends_scope_hidden :
    let term : Term := .app "f" [.lambda "x" (.app "g" [.var "x", .var "y"]),
      .lambda "y" (.lambda "x" (.var "y")), .var "x", .var "z", .var "y"]
    let output : Term := .app "f" [.lambda "v5" (.app "g" [.var "v5", .var "v6"]),
      .lambda "v7" (.lambda "v8" (.var "v7")), .var "p0", .var "v9", .var "v6"]
    let before : Naming := ⟨[("x", "p0")], 5⟩
    let after : Naming := ⟨[("z", "v9"), ("y", "v6"), ("x", "p0")], 10⟩
    term.canonicalInPlace before = (output, after) ∧
      ∃ added : Renaming,
        (∀ name given, (name, given) ∈ added ↔
          before.scope.lookup name = none ∧ after.scope.lookup name = some given) ∧
        after.fresh = before.fresh + (3 + added.length) ∧
        (added.map Prod.snd ++ ["v5", "v7", "v8"]).Nodup := by
  intro term output before after
  have walked : term.canonicalInPlace before = (output, after) := by decide +kernel +revert
  obtain ⟨-, -, -, added, -, -, -, entries, count, distinct, -⟩ :=
    canonicalInPlace_extends_scope walked
  exact ⟨walked, added, entries, count, distinct⟩

end Term

end ProofScript
