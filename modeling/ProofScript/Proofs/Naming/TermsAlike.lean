import ProofScript.Proofs.Naming.Links

/-!
# Renamed terms and their canonical forms

Renamed terms have the same canonical form: the walks over both of them stay linked, and the names
that correspond are given the same name.

For the converse, the names that correspond are read off the canonical form. A head that is not in
scope keeps its spelling, so this works if such a head is never taken for a name that was given out,
that is, if it is not spelled like one.
-/
namespace ProofScript

/-- Both walks have come out with the same, and are linked by what `known` says to correspond. -/
def SameSteps {α : Type} (index : Nat) (bound : Links) (known : Pairs) (walk walk' : α × Naming) :
    Prop :=
  walk.1 = walk'.1 ∧ ∃ links : Links, links.pairs = known ∧ Linked index bound links walk.2 walk'.2

/-! ### Renamed terms -/

variable {index : Nat} {bound known : Links} {naming naming' : Naming} {name name' : String}

namespace Linked

theorem lookup_paired (linked : Linked index bound known naming naming')
    (paired : Paired (bound.pairs ++ known.pairs) name name') :
    ∃ given, (bound.left ++ naming.scope).lookup name = some given ∧
      (bound.right ++ naming'.scope).lookup name' = some given := by
  rw [linked.left_scope, linked.right_scope]
  exact Links.lookup_of_paired (Linked.pairs_scope ▸ paired)

theorem unpaired_iff (linked : Linked index bound known naming naming') :
    Unpaired (bound.pairs ++ known.pairs) name name' ↔
      (bound.left ++ naming.scope).lookup name = none ∧
        (bound.right ++ naming'.scope).lookup name' = none := by
  rw [linked.left_scope, linked.right_scope, Linked.pairs_scope]
  exact Links.unpaired_iff

theorem paired_of_lookup (linked : Linked index bound known naming naming') {given : String}
    (first : (bound.left ++ naming.scope).lookup name = some given)
    (second : (bound.right ++ naming'.scope).lookup name' = some given) :
    Paired (bound.pairs ++ known.pairs) name name' := by
  rw [linked.left_scope] at first
  rw [linked.right_scope] at second
  rw [Linked.pairs_scope]
  exact Links.paired_of_lookup linked.distinct first second

theorem head_eq (linked : Linked index bound known naming naming')
    (heads : Paired (bound.pairs ++ known.pairs) name name' ∨
      Unpaired (bound.pairs ++ known.pairs) name name' ∧ name = name') :
    ((bound.left ++ naming.scope).lookup name).getD name =
      ((bound.right ++ naming'.scope).lookup name').getD name' := by
  rcases heads with paired | ⟨unpaired, same⟩
  · obtain ⟨given, first, second⟩ := linked.lookup_paired paired
    rw [first, second]
    rfl
  · obtain ⟨first, second⟩ := linked.unpaired_iff.mp unpaired
    rw [first, second]
    exact same

end Linked

namespace Term

mutual

/-- Renamed terms get the same canonical form. -/
theorem Renamed.sameSteps : (term : Term) → {term' : Term} → {bound known : Links} →
    {known' : Pairs} → {naming naming' : Naming} → Linked index bound known naming naming' →
    term.Renamed bound.pairs known.pairs term' known' →
    SameSteps index bound known' (term.canonical bound.left naming)
      (term'.canonical bound.right naming')
  | .const name, term', bound, known, known', naming, naming', linked, renamed => by
    cases renamed
    exact ⟨rfl, known, rfl, linked⟩
  | .var name, term', bound, known, known', naming, naming', linked, renamed => by
    cases renamed with
    | inScope paired =>
      obtain ⟨given, first, second⟩ := linked.lookup_paired paired
      rw [canonical_var_of_some first, canonical_var_of_some second]
      exact ⟨rfl, known, rfl, linked⟩
    | met unpaired =>
      obtain ⟨first, second⟩ := linked.unpaired_iff.mp unpaired
      rw [canonical_var_of_none first, canonical_var_of_none second]
      exact ⟨by rw [linked.count], _, rfl, linked.meet _ _⟩
  | .app head args, term', bound, known, known', naming, naming', linked, renamed => by
    cases renamed with
    | app heads renamedArgs =>
      obtain ⟨same, links, pairs, after⟩ := RenamedArgs.sameSteps args linked renamedArgs
      rw [canonical_app, canonical_app, linked.head_eq heads, same]
      exact ⟨rfl, links, pairs, after⟩
  | .lambda param body, term', bound, known, known', naming, naming', linked, renamed => by
    cases renamed with
    | lambda renamedBody =>
      -- only the binder is dropped after the body: free variables met in it stay linked
      obtain ⟨same, links, pairs, after⟩ :=
        Renamed.sameSteps body (linked.bind param _) renamedBody
      rw [canonical_lambda, canonical_lambda, ← linked.count]
      exact ⟨congrArg (Term.lambda _) same, links, pairs, after.leave⟩

theorem RenamedArgs.sameSteps : (args : List Term) → {args' : List Term} →
    {bound known : Links} → {known' : Pairs} → {naming naming' : Naming} →
    Linked index bound known naming naming' →
    RenamedArgs bound.pairs known.pairs args args' known' →
    SameSteps index bound known' (canonicalArgs bound.left args naming)
      (canonicalArgs bound.right args' naming')
  | [], args', bound, known, known', naming, naming', linked, renamed => by
    cases renamed
    exact ⟨rfl, known, rfl, linked⟩
  | arg :: args, args', bound, known, known', naming, naming', linked, renamed => by
    cases renamed with
    | cons renamedArg renamedArgs =>
      obtain ⟨same, links, rfl, between⟩ := Renamed.sameSteps arg linked renamedArg
      obtain ⟨more, links', pairs, after⟩ := RenamedArgs.sameSteps args between renamedArgs
      rw [canonicalArgs_cons, canonicalArgs_cons, same, more]
      exact ⟨rfl, links', pairs, after⟩

end

end Term

/-! ### Terms with the same canonical form -/

/-- No head is spelled like a generated name unless it is in scope. -/
def Apart (sites : List HeadSite) : Prop :=
  ∀ site ∈ sites, ¬ site.InScope → ¬ Generated site.head

theorem apart_of_spelling {sites : List HeadSite}
    (spelled : ∀ site ∈ sites, ¬ site.InScope → looksGenerated site.head = false) :
    Apart sites :=
  fun site member outside => not_generated_of_spelling (spelled site member outside)

theorem Apart.append_iff {sites more : List HeadSite} :
    Apart (sites ++ more) ↔ Apart sites ∧ Apart more :=
  List.forall_mem_append

theorem Apart.head {place : List Nat} {head : String} {scope : Scope} {bound : Renaming}
    {sites : List HeadSite} (apart : Apart (⟨place, head, scope⟩ :: sites))
    (follows : scope.Follows bound naming) (outside : (bound ++ naming.scope).lookup head = none) :
    ¬ Generated head :=
  apart _ List.mem_cons_self (follows.lookup_eq_none_iff.mp outside)

theorem Apart.tail {site : HeadSite} {sites : List HeadSite} (apart : Apart (site :: sites)) :
    Apart sites :=
  (List.forall_mem_cons.mp apart).2

/-- Heads that get the same canonical name correspond. -/
theorem Linked.heads_of_eq (linked : Linked index bound known naming naming')
    (apart : (bound.left ++ naming.scope).lookup name = none → ¬ Generated name)
    (apart' : (bound.right ++ naming'.scope).lookup name' = none → ¬ Generated name')
    (same : ((bound.left ++ naming.scope).lookup name).getD name =
      ((bound.right ++ naming'.scope).lookup name').getD name') :
    Paired (bound.pairs ++ known.pairs) name name' ∨
      Unpaired (bound.pairs ++ known.pairs) name name' ∧ name = name' := by
  cases first : (bound.left ++ naming.scope).lookup name with
  | none =>
    cases second : (bound.right ++ naming'.scope).lookup name' with
    | none =>
      rw [first, second] at same
      exact .inr ⟨linked.unpaired_iff.mpr ⟨first, second⟩, same⟩
    | some given =>
      -- a kept spelling would be one that was given out on the other side
      rw [first, second, Option.getD_none, Option.getD_some] at same
      rw [linked.right_scope] at second
      exact absurd (same ▸ linked.generated (Links.mem_of_lookup second)) (apart first)
  | some given =>
    cases second : (bound.right ++ naming'.scope).lookup name' with
    | none =>
      rw [first, second, Option.getD_none, Option.getD_some] at same
      rw [linked.left_scope] at first
      exact absurd (same ▸ linked.generated (Links.mem_of_lookup first)) (apart' second)
    | some given' =>
      rw [first, second, Option.getD_some, Option.getD_some] at same
      exact .inl (linked.paired_of_lookup first (same ▸ second))

/-- Variables that get the same canonical name correspond. -/
theorem Linked.variables_of_eq (linked : Linked index bound known naming naming')
    (same : ((Term.var name).canonical bound.left naming).1 =
      ((Term.var name').canonical bound.right naming').1) :
    ∃ known', (Term.var name).Renamed bound.pairs known.pairs (.var name') known' := by
  cases first : (bound.left ++ naming.scope).lookup name with
  | none =>
    cases second : (bound.right ++ naming'.scope).lookup name' with
    | none => exact ⟨_, .met (linked.unpaired_iff.mpr ⟨first, second⟩)⟩
    | some given =>
      -- the name given out just now is not in use on the other side
      rw [Term.canonical_var_of_none first, Term.canonical_var_of_some second,
        Term.var.injEq] at same
      rw [linked.right_scope] at second
      exact absurd (same ▸ Links.mem_of_lookup second) linked.next_unused
  | some given =>
    cases second : (bound.right ++ naming'.scope).lookup name' with
    | none =>
      rw [Term.canonical_var_of_some first, Term.canonical_var_of_none second, Term.var.injEq,
        ← linked.count] at same
      rw [linked.left_scope] at first
      exact absurd (same ▸ Links.mem_of_lookup first) linked.next_unused
    | some given' =>
      rw [Term.canonical_var_of_some first, Term.canonical_var_of_some second,
        Term.var.injEq] at same
      exact ⟨_, .inScope (linked.paired_of_lookup first (same ▸ second))⟩

namespace Term

theorem canonical_var_form (bound : Renaming) (name : String) (naming : Naming) :
    ∃ given, (canonical bound (.var name) naming).1 = .var given := by
  cases found : (bound ++ naming.scope).lookup name with
  | some given => exact ⟨given, by rw [canonical_var_of_some found]⟩
  | none => exact ⟨_, by rw [canonical_var_of_none found]⟩

variable {bound : Renaming} {term : Term}

/-! Canonical names leave the form of a term as it is. -/

theorem eq_const_of_canonical (form : (term.canonical bound naming).1 = .const name) :
    term = .const name := by
  cases term with
  | const other => exact form
  | var other =>
    obtain ⟨given, same⟩ := canonical_var_form bound other naming
    rw [same] at form
    cases form
  | app => cases form
  | lambda => cases form

theorem eq_var_of_canonical {given : String} (form : (term.canonical bound naming).1 = .var given) :
    ∃ name, term = .var name := by
  cases term with
  | var name => exact ⟨name, rfl⟩
  | const => cases form
  | app => cases form
  | lambda => cases form

theorem eq_app_of_canonical {given : String} {images : List Term}
    (form : (term.canonical bound naming).1 = .app given images) :
    ∃ head args, term = .app head args := by
  cases term with
  | app head args => exact ⟨head, args, rfl⟩
  | var other =>
    obtain ⟨given, same⟩ := canonical_var_form bound other naming
    rw [same] at form
    cases form
  | const => cases form
  | lambda => cases form

theorem eq_lambda_of_canonical {given : String} {image : Term}
    (form : (term.canonical bound naming).1 = .lambda given image) :
    ∃ param body, term = .lambda param body := by
  cases term with
  | lambda param body => exact ⟨param, body, rfl⟩
  | var other =>
    obtain ⟨given, same⟩ := canonical_var_form bound other naming
    rw [same] at form
    cases form
  | const => cases form
  | app => cases form

end Term

namespace Term

mutual

/-- Terms that get the same canonical form are renamed. -/
theorem Renamed.of_canonical (place : List Nat) : (term : Term) → {term' : Term} →
    {bound known : Links} → {naming naming' : Naming} → {scope scope' : Scope} →
    Linked index bound known naming naming' → scope.Follows bound.left naming →
    scope'.Follows bound.right naming' → Apart (term.headSites place scope).1 →
    Apart (term'.headSites place scope').1 →
    (term.canonical bound.left naming).1 = (term'.canonical bound.right naming').1 →
    ∃ known', term.Renamed bound.pairs known.pairs term' known'
  | .const name, term', bound, known, naming, naming', scope, scope', linked, follows, follows',
      apart, apart', same => by
    rw [eq_const_of_canonical same.symm]
    exact ⟨_, .const name⟩
  | .var name, term', bound, known, naming, naming', scope, scope', linked, follows, follows',
      apart, apart', same => by
    obtain ⟨given, form⟩ := canonical_var_form bound.left name naming
    obtain ⟨name', rfl⟩ := eq_var_of_canonical (same.symm.trans form)
    exact linked.variables_of_eq same
  | .app head args, term', bound, known, naming, naming', scope, scope', linked, follows, follows',
      apart, apart', same => by
    obtain ⟨head', args', rfl⟩ := eq_app_of_canonical same.symm
    rw [canonical_app, canonical_app, Term.app.injEq] at same
    rw [headSites_app] at apart apart'
    -- the head is looked up before the arguments are walked, so in the scope before them
    have heads := linked.heads_of_eq (apart.head follows) (apart'.head follows') same.1
    obtain ⟨known', renamed⟩ :=
      RenamedArgs.of_canonical place 0 args linked follows follows' apart.tail apart'.tail same.2
    exact ⟨known', .app heads renamed⟩
  | .lambda param body, term', bound, known, naming, naming', scope, scope', linked, follows,
      follows', apart, apart', same => by
    obtain ⟨param', body', rfl⟩ := eq_lambda_of_canonical same.symm
    rw [canonical_lambda, canonical_lambda, Term.lambda.injEq, ← linked.count] at same
    have second := follows'.bind param'
    rw [← linked.count] at second
    obtain ⟨known', renamed⟩ := Renamed.of_canonical (0 :: place) body (linked.bind param param')
      (follows.bind param) second apart apart' same.2
    exact ⟨known', .lambda renamed⟩

theorem RenamedArgs.of_canonical (place : List Nat) (number : Nat) : (args : List Term) →
    {args' : List Term} → {bound known : Links} → {naming naming' : Naming} →
    {scope scope' : Scope} → Linked index bound known naming naming' →
    scope.Follows bound.left naming → scope'.Follows bound.right naming' →
    Apart (headSitesArgs place number scope args).1 →
    Apart (headSitesArgs place number scope' args').1 →
    (canonicalArgs bound.left args naming).1 = (canonicalArgs bound.right args' naming').1 →
    ∃ known', RenamedArgs bound.pairs known.pairs args args' known'
  | [], [], _, _, _, _, _, _, _, _, _, _, _, _ => ⟨_, .nil⟩
  | arg :: args, arg' :: args', bound, known, naming, naming', scope, scope', linked, follows,
      follows', apart, apart', same => by
    rw [headSitesArgs_cons, Apart.append_iff] at apart apart'
    rw [canonicalArgs_cons, canonicalArgs_cons, List.cons.injEq] at same
    obtain ⟨between, renamed⟩ := Renamed.of_canonical (number :: place) arg linked follows follows'
      apart.1 apart'.1 same.1
    -- being renamed links the walks again, which the other arguments start from
    obtain ⟨-, links, rfl, linked⟩ := Renamed.sameSteps arg linked renamed
    obtain ⟨known', renamedArgs⟩ := RenamedArgs.of_canonical place (number + 1) args linked
      (follows.term (number :: place) arg) (follows'.term (number :: place) arg') apart.2 apart'.2
      same.2
    exact ⟨known', .cons renamed renamedArgs⟩

end

end Term

end ProofScript
