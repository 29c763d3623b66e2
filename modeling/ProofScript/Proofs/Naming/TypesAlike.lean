import ProofScript.Proofs.Naming.TermsAlike

/-!
# Renamed types and their canonical forms

Type variables are given names in the order in which they are met, once for the whole signature. So
there is a link for each of them, and the links are a bijection between the type variables of one
signature and those of the other.
-/
namespace ProofScript

variable {index : Nat} {name name' : String}

/-! ### Type variables -/

/-- The names that some link takes to each other. -/
def Links.Related (links : Links) (name name' : String) : Prop :=
  ∃ link ∈ links, link.left = name ∧ link.right = name'

/-- Whether `related` holds of the names in all links. -/
def Links.Within (links : Links) (related : String → String → Prop) : Prop :=
  ∀ link ∈ links, related link.left link.right

/-- Both walks have met the same type variables, up to names. -/
structure LinkedTypes (types : Links) (entries entries' : Renaming) : Prop where
  left : entries = types.left
  right : entries' = types.right
  numbered : types.map Link.given = (List.range types.length).map fun number =>
    "t" ++ toString number
  leftDistinct : (types.map Link.left).Nodup
  rightDistinct : (types.map Link.right).Nodup

namespace LinkedTypes

variable {types : Links} {entries entries' : Renaming}

theorem empty : LinkedTypes [] [] [] :=
  ⟨rfl, rfl, rfl, List.nodup_nil, List.nodup_nil⟩

theorem distinct (linked : LinkedTypes types entries entries') :
    (types.map Link.given).Nodup := by
  rw [linked.numbered]
  exact List.nodup_range.map fun _ _ same => numbered_injective "t" same

theorem biUnique (linked : LinkedTypes types entries entries') :
    Relator.BiUnique types.Related := by
  constructor
  · rintro name other name' ⟨link, member, rfl, rfl⟩ ⟨link', member', rfl, same⟩
    rw [List.inj_on_of_nodup_map linked.rightDistinct member' member same]
  · rintro name name' other ⟨link, member, rfl, rfl⟩ ⟨link', member', same, rfl⟩
    rw [List.inj_on_of_nodup_map linked.leftDistinct member' member same]

theorem length_left (linked : LinkedTypes types entries entries') :
    entries.length = types.length := by
  rw [linked.left, Links.left, List.length_map]

theorem length_right (linked : LinkedTypes types entries entries') :
    entries'.length = types.length := by
  rw [linked.right, Links.right, List.length_map]

theorem next_unused (linked : LinkedTypes types entries entries') :
    "t" ++ toString types.length ∉ types.map Link.given := by
  rw [linked.numbered]
  intro member
  obtain ⟨number, below, same⟩ := List.mem_map.mp member
  have equal := numbered_injective "t" same
  have bound := List.mem_range.mp below
  omega

theorem isTypeConstant_given (linked : LinkedTypes types entries entries') {given : String}
    (member : given ∈ types.map Link.given) : isTypeConstant given = false := by
  rw [linked.numbered] at member
  obtain ⟨number, -, rfl⟩ := List.mem_map.mp member
  exact isTypeConstant_numbered number

/-- Names that were given the same name are in the same link. -/
theorem related_of_lookup (linked : LinkedTypes types entries entries') {given : String}
    (first : entries.lookup name = some given) (second : entries'.lookup name' = some given) :
    types.Related name name' := by
  rw [linked.left] at first
  rw [linked.right] at second
  obtain ⟨link, member, same⟩ := List.mem_map.mp (Renaming.mem_of_lookup_eq_some first)
  obtain ⟨link', member', same'⟩ := List.mem_map.mp (Renaming.mem_of_lookup_eq_some second)
  rw [Prod.mk.injEq] at same same'
  have equal : link = link' :=
    List.inj_on_of_nodup_map linked.distinct member member' (same.2.trans same'.2.symm)
  exact ⟨link, member, same.1, equal ▸ same'.1⟩

/-- Two type variables that neither walk has met are given the next name. -/
theorem extend (linked : LinkedTypes types entries entries')
    (first : entries.lookup name = none) (second : entries'.lookup name' = none) :
    LinkedTypes (types ++ [⟨name, name', "t" ++ toString types.length⟩])
      (entries ++ [(name, "t" ++ toString entries.length)])
      (entries' ++ [(name', "t" ++ toString entries'.length)]) where
  left := by
    rw [linked.length_left, linked.left, Links.left, Links.left, List.map_append]
    rfl
  right := by
    rw [linked.length_right, linked.right, Links.right, Links.right, List.map_append]
    rfl
  numbered := by
    rw [List.map_append, linked.numbered, List.length_append, List.length_singleton,
      List.range_succ, List.map_append]
    rfl
  leftDistinct := by
    rw [linked.left, Renaming.lookup_eq_none_iff, Links.left, List.map_map] at first
    rw [List.map_append, List.map_singleton, List.nodup_append_comm, List.singleton_append]
    exact List.nodup_cons.mpr ⟨first, linked.leftDistinct⟩
  rightDistinct := by
    rw [linked.right, Renaming.lookup_eq_none_iff, Links.right, List.map_map] at second
    rw [List.map_append, List.map_singleton, List.nodup_append_comm, List.singleton_append]
    exact List.nodup_cons.mpr ⟨second, linked.rightDistinct⟩

end LinkedTypes

/-- Both walks over signatures are at the same point, up to names. -/
structure SignatureLinked (index : Nat) (types known : Links) (naming naming' : SignatureNaming) :
    Prop where
  types : LinkedTypes types naming.types naming'.types
  terms : Linked index [] known naming.terms naming'.terms

namespace SignatureLinked

variable {types known : Links} {naming naming' : SignatureNaming}

theorem empty : SignatureLinked 0 [] [] .empty .empty :=
  ⟨LinkedTypes.empty, Linked.empty⟩

theorem declare (linked : SignatureLinked index types known naming naming') (name name' : String) :
    SignatureLinked (index + 1) types (⟨name, name', "p" ++ toString index⟩ :: known)
      (naming.declare name ("p" ++ toString index))
      (naming'.declare name' ("p" ++ toString index)) :=
  ⟨linked.types, linked.terms.declare name name'⟩

theorem typeName_of_some {given : String} (found : naming.types.lookup name = some given) :
    naming.typeName name = (given, naming) := by
  rw [SignatureNaming.typeName, found]

theorem typeName_of_none (found : naming.types.lookup name = none) :
    naming.typeName name =
      ("t" ++ toString naming.types.length,
        { naming with
          types := naming.types ++ [(name, "t" ++ toString naming.types.length)] }) := by
  rw [SignatureNaming.typeName, found]

/-- Both walks meet a type variable that is new to them. -/
theorem extend (linked : SignatureLinked index types known naming naming')
    (first : naming.types.lookup name = none) (second : naming'.types.lookup name' = none) :
    (naming.typeName name).1 = (naming'.typeName name').1 ∧
      SignatureLinked index (types ++ [⟨name, name', "t" ++ toString types.length⟩]) known
        (naming.typeName name).2 (naming'.typeName name').2 := by
  rw [typeName_of_none first, typeName_of_none second]
  refine ⟨?_, linked.types.extend first second, linked.terms⟩
  rw [linked.types.length_left, linked.types.length_right]

/-- Type variables that correspond get the same canonical name. -/
theorem typeName_eq {related : String → String → Prop} (unique : Relator.BiUnique related)
    (linked : SignatureLinked index types known naming naming')
    (inside : types.Within related) (named : related name name') :
    (naming.typeName name).1 = (naming'.typeName name').1 ∧
      ∃ types' : Links, types'.Within related ∧
        SignatureLinked index types' known (naming.typeName name).2 (naming'.typeName name').2 := by
  -- a link has the one name if and only if it has the other, since `related` is a bijection
  have same : naming.types.lookup name = naming'.types.lookup name' := by
    rw [linked.types.left, linked.types.right]
    refine Links.lookup_eq_of_iff fun link member => ⟨?_, ?_⟩
    · rintro rfl
      exact unique.2 named (inside link member)
    · rintro rfl
      exact unique.1 named (inside link member)
  cases found : naming'.types.lookup name' with
  | some given =>
    rw [typeName_of_some (same.trans found), typeName_of_some found]
    exact ⟨rfl, types, inside, linked⟩
  | none =>
    obtain ⟨equal, after⟩ := linked.extend (same.trans found) found
    refine ⟨equal, _, ?_, after⟩
    intro link member
    rcases List.mem_append.mp member with earlier | last
    · exact inside link earlier
    · rw [List.mem_singleton.mp last]
      exact named

/-- Type variables that get the same canonical name correspond. -/
theorem related_of_typeName (linked : SignatureLinked index types known naming naming')
    (same : (naming.typeName name).1 = (naming'.typeName name').1) :
    ∃ types' : Links, types ⊆ types' ∧ types'.Related name name' ∧
      SignatureLinked index types' known (naming.typeName name).2 (naming'.typeName name').2 := by
  cases first : naming.types.lookup name with
  | none =>
    cases second : naming'.types.lookup name' with
    | none =>
      obtain ⟨-, after⟩ := linked.extend first second
      exact ⟨_, List.subset_append_left _ _, ⟨_, List.mem_concat_self, rfl, rfl⟩, after⟩
    | some given =>
      -- the number of links is larger than all the numbers in them
      rw [typeName_of_none first, typeName_of_some second, linked.types.length_left] at same
      rw [linked.types.right] at second
      have used : "t" ++ toString types.length = given := same
      exact absurd (used ▸ Links.mem_of_lookup second) linked.types.next_unused
  | some given =>
    cases second : naming'.types.lookup name' with
    | none =>
      rw [typeName_of_some first, typeName_of_none second, linked.types.length_right] at same
      rw [linked.types.left] at first
      have used : given = "t" ++ toString types.length := same
      exact absurd (used ▸ Links.mem_of_lookup first) linked.types.next_unused
    | some given' =>
      rw [typeName_of_some first, typeName_of_some second] at same ⊢
      have equal : given = given' := same
      exact ⟨types, fun _ member => member,
        linked.types.related_of_lookup first (equal ▸ second), linked⟩

/-- A type variable does not get the name of a constant. -/
private theorem isTypeConstant_typeName
    (known : ∀ given, naming.types.lookup name = some given → isTypeConstant given = false) :
    isTypeConstant (naming.typeName name).1 = false := by
  cases found : naming.types.lookup name with
  | some given =>
    rw [typeName_of_some found]
    exact known given found
  | none =>
    rw [typeName_of_none found]
    exact isTypeConstant_numbered _

theorem isTypeConstant_left (linked : SignatureLinked index types known naming naming')
    (name : String) : isTypeConstant (naming.typeName name).1 = false := by
  refine isTypeConstant_typeName fun given found => ?_
  rw [linked.types.left] at found
  exact linked.types.isTypeConstant_given (Links.mem_of_lookup found)

theorem isTypeConstant_right (linked : SignatureLinked index types known naming naming')
    (name : String) : isTypeConstant (naming'.typeName name).1 = false := by
  refine isTypeConstant_typeName fun given found => ?_
  rw [linked.types.right] at found
  exact linked.types.isTypeConstant_given (Links.mem_of_lookup found)

/-- Heads of types that get the same canonical name correspond. -/
theorem renamed_of_headName (linked : SignatureLinked index types known naming naming')
    (same : (Ty.headName name naming).1 = (Ty.headName name' naming').1) :
    ∃ types' : Links, types ⊆ types' ∧
      (∀ related, types'.Within related → Ty.RenamedHead related name name') ∧
      SignatureLinked index types' known (Ty.headName name naming).2
        (Ty.headName name' naming').2 := by
  unfold Ty.headName at same ⊢
  cases first : isTypeConstant name <;> cases second : isTypeConstant name' <;>
    simp only [first, second, if_true, Bool.false_eq_true, if_false] at same ⊢
  · obtain ⟨types', more, ⟨link, member, rfl, rfl⟩, after⟩ := linked.related_of_typeName same
    exact ⟨types', more, fun related inside => .inr ⟨first, second, inside link member⟩, after⟩
  -- a variable against a constant: no generated name is a constant
  · have variableName := linked.isTypeConstant_left name
    rw [same, second] at variableName
    cases variableName
  · have variableName := linked.isTypeConstant_right name'
    rw [← same, first] at variableName
    cases variableName
  · exact ⟨types, fun _ member => member, fun _ _ => .inl ⟨first, same⟩, linked⟩

end SignatureLinked

/-- Both walks have come out with the same, and are linked by what `related` and `known` say to
correspond. -/
def SameSignatureSteps {α : Type} (index : Nat) (related : String → String → Prop) (known : Pairs)
    (walk walk' : α × SignatureNaming) : Prop :=
  walk.1 = walk'.1 ∧ ∃ types links : Links, types.Within related ∧
    links.pairs = known ∧ SignatureLinked index types links walk.2 walk'.2

namespace Ty

variable {related : String → String → Prop}

theorem RenamedHead.headName_eq (unique : Relator.BiUnique related) {types known : Links}
    {naming naming' : SignatureNaming} (linked : SignatureLinked index types known naming naming')
    (inside : types.Within related) (heads : RenamedHead related name name') :
    SameSignatureSteps index related known.pairs (headName name naming)
      (headName name' naming') := by
  unfold headName
  rcases heads with ⟨constant, rfl⟩ | ⟨first, second, named⟩
  · rw [if_pos constant, if_pos constant]
    exact ⟨rfl, types, known, inside, rfl, linked⟩
  · rw [first, second]
    obtain ⟨same, types', inside', after⟩ := linked.typeName_eq unique inside named
    exact ⟨same, types', known, inside', rfl, after⟩

mutual

/-- Renamed types get the same canonical form. -/
theorem Renamed.sameSteps (unique : Relator.BiUnique related) : (type : Ty) → {type' : Ty} →
    {types known : Links} → {known' : Pairs} → {naming naming' : SignatureNaming} →
    SignatureLinked index types known naming naming' →
    types.Within related →
    type.Renamed related known.pairs type' known' →
    SameSignatureSteps index related known' (type.canonical naming) (type'.canonical naming')
  | .const name, type', types, known, known', naming, naming', linked, inside, renamed => by
    cases renamed
    exact ⟨rfl, types, known, inside, rfl, linked⟩
  | .var name, type', types, known, known', naming, naming', linked, inside, renamed => by
    cases renamed with
    | var named =>
      obtain ⟨same, types', inside', after⟩ := linked.typeName_eq unique inside named
      exact ⟨congrArg Ty.var same, types', known, inside', rfl, after⟩
  | .app head args, type', types, known, known', naming, naming', linked, inside, renamed => by
    cases renamed with
    | app heads renamedArgs =>
      obtain ⟨same, types', links, inside', pairs, between⟩ :=
        heads.headName_eq unique linked inside
      rw [← pairs] at renamedArgs
      obtain ⟨more, types'', links', inside'', pairs', after⟩ :=
        RenamedArgs.sameSteps unique args between inside' renamedArgs
      rw [canonical_app, canonical_app, same, more]
      exact ⟨rfl, types'', links', inside'', pairs', after⟩
  | .eq left right, type', types, known, known', naming, naming', linked, inside, renamed => by
    cases renamed with
    | eq renamedLeft renamedRight =>
      obtain ⟨same, links, rfl, between⟩ := renamedLeft.sameSteps left linked.terms
      obtain ⟨more, links', pairs, after⟩ := renamedRight.sameSteps right between
      exact ⟨congrArg₂ Ty.eq same more, types, links', inside, pairs, linked.types, after⟩
  | .arrow source target, type', types, known, known', naming, naming', linked, inside,
      renamed => by
    cases renamed with
    | arrow renamedSource renamedTarget =>
      obtain ⟨same, types', links, inside', rfl, between⟩ :=
        Renamed.sameSteps unique source linked inside renamedSource
      obtain ⟨more, types'', links', inside'', pairs, after⟩ :=
        Renamed.sameSteps unique target between inside' renamedTarget
      exact ⟨congrArg₂ Ty.arrow same more, types'', links', inside'', pairs, after⟩

theorem RenamedArgs.sameSteps (unique : Relator.BiUnique related) : (args : List Ty) →
    {args' : List Ty} → {types known : Links} → {known' : Pairs} →
    {naming naming' : SignatureNaming} → SignatureLinked index types known naming naming' →
    types.Within related →
    RenamedArgs related known.pairs args args' known' →
    SameSignatureSteps index related known' (canonicalArgs args naming)
      (canonicalArgs args' naming')
  | [], args', types, known, known', naming, naming', linked, inside, renamed => by
    cases renamed
    exact ⟨rfl, types, known, inside, rfl, linked⟩
  | arg :: args, args', types, known, known', naming, naming', linked, inside, renamed => by
    cases renamed with
    | cons renamedArg renamedArgs =>
      obtain ⟨same, types', links, inside', rfl, between⟩ :=
        Renamed.sameSteps unique arg linked inside renamedArg
      obtain ⟨more, types'', links', inside'', pairs, after⟩ :=
        RenamedArgs.sameSteps unique args between inside' renamedArgs
      exact ⟨congrArg₂ List.cons same more, types'', links', inside'', pairs, after⟩

end

/-! Canonical names leave the form of a type as it is. -/

variable {type : Ty} {naming : SignatureNaming}

theorem eq_const_of_canonical (form : (type.canonical naming).1 = .const name) :
    type = .const name := by
  cases type <;> cases form
  rfl

theorem eq_var_of_canonical {given : String} (form : (type.canonical naming).1 = .var given) :
    ∃ name, type = .var name := by
  cases type <;> cases form
  exact ⟨_, rfl⟩

theorem eq_app_of_canonical {given : String} {images : List Ty}
    (form : (type.canonical naming).1 = .app given images) :
    ∃ head args, type = .app head args := by
  cases type <;> cases form
  exact ⟨_, _, rfl⟩

theorem eq_eq_of_canonical {left right : Term}
    (form : (type.canonical naming).1 = .eq left right) : ∃ left right, type = .eq left right := by
  cases type <;> cases form
  exact ⟨_, _, rfl⟩

theorem eq_arrow_of_canonical {source target : Ty}
    (form : (type.canonical naming).1 = .arrow source target) :
    ∃ source target, type = .arrow source target := by
  cases type <;> cases form
  exact ⟨_, _, rfl⟩

/-- Both walks over types are linked after them, and the types are renamed as soon as the type
variables met so far are related. -/
def RenamedSteps {α : Type} (index : Nat) (types : Links)
    (renamed : (String → String → Prop) → Pairs → Prop) (walk walk' : α × SignatureNaming) : Prop :=
  ∃ types' known' : Links, types ⊆ types' ∧
    (∀ related, types'.Within related → renamed related known'.pairs) ∧
    SignatureLinked index types' known' walk.2 walk'.2

mutual

/-- Types that get the same canonical form are renamed. -/
theorem Renamed.of_canonical (place : List Nat) : (type : Ty) → {type' : Ty} →
    {types known : Links} → {naming naming' : SignatureNaming} → {scope scope' : Scope} →
    SignatureLinked index types known naming naming' → scope.Follows [] naming.terms →
    scope'.Follows [] naming'.terms → Apart (type.headSites place scope).1 →
    Apart (type'.headSites place scope').1 →
    (type.canonical naming).1 = (type'.canonical naming').1 →
    RenamedSteps index types (fun related => type.Renamed related known.pairs type')
      (type.canonical naming) (type'.canonical naming')
  | .const name, type', types, known, naming, naming', scope, scope', linked, follows, follows',
      apart, apart', same => by
    rw [eq_const_of_canonical same.symm]
    exact ⟨types, known, fun _ member => member, fun _ _ => .const name, linked⟩
  | .var name, type', types, known, naming, naming', scope, scope', linked, follows, follows',
      apart, apart', same => by
    obtain ⟨name', rfl⟩ := eq_var_of_canonical same.symm
    obtain ⟨types', more, ⟨link, member, rfl, rfl⟩, after⟩ :=
      linked.related_of_typeName (Ty.var.inj same)
    exact ⟨types', known, more, fun related inside => .var (inside link member), after⟩
  | .app head args, type', types, known, naming, naming', scope, scope', linked, follows, follows',
      apart, apart', same => by
    obtain ⟨head', args', rfl⟩ := eq_app_of_canonical same.symm
    rw [canonical_app, canonical_app, Ty.app.injEq] at same
    obtain ⟨types', more, heads, between⟩ := linked.renamed_of_headName same.1
    rw [← terms_headName head] at follows
    rw [← terms_headName head'] at follows'
    obtain ⟨types'', known', more', renamed, after⟩ :=
      RenamedArgs.of_canonical place 0 args between follows follows' apart apart' same.2
    -- links are only added, so what relates all of them relates those of the head too
    refine ⟨types'', known', fun _ member => more' (more member), fun related inside => ?_, after⟩
    exact .app (heads related fun link member => inside link (more' member))
      (renamed related inside)
  | .eq left right, type', types, known, naming, naming', scope, scope', linked, follows, follows',
      apart, apart', same => by
    obtain ⟨left', right', rfl⟩ := eq_eq_of_canonical same.symm
    obtain ⟨leftSame, rightSame⟩ := Ty.eq.inj same
    rw [headSites, Apart.append_iff] at apart apart'
    obtain ⟨_, renamedLeft⟩ := Term.Renamed.of_canonical (0 :: place) left linked.terms follows
      follows' apart.1 apart'.1 leftSame
    obtain ⟨-, links, rfl, between⟩ := renamedLeft.sameSteps left linked.terms
    obtain ⟨_, renamedRight⟩ := Term.Renamed.of_canonical (1 :: place) right between
      (follows.term (0 :: place) left) (follows'.term (0 :: place) left') apart.2 apart'.2 rightSame
    obtain ⟨-, links', rfl, after⟩ := renamedRight.sameSteps right between
    exact ⟨types, links', fun _ member => member, fun _ _ => .eq renamedLeft renamedRight,
      linked.types, after⟩
  | .arrow source target, type', types, known, naming, naming', scope, scope', linked, follows,
      follows', apart, apart', same => by
    obtain ⟨source', target', rfl⟩ := eq_arrow_of_canonical same.symm
    obtain ⟨sourceSame, targetSame⟩ := Ty.arrow.inj same
    rw [headSites, Apart.append_iff] at apart apart'
    obtain ⟨types', links, more, renamedSource, between⟩ :=
      Renamed.of_canonical (0 :: place) source linked follows follows' apart.1 apart'.1 sourceSame
    obtain ⟨types'', links', more', renamedTarget, after⟩ :=
      Renamed.of_canonical (1 :: place) target between (follows.type (0 :: place) source)
        (follows'.type (0 :: place) source') apart.2 apart'.2 targetSame
    refine ⟨types'', links', fun _ member => more' (more member), fun related inside => ?_, after⟩
    exact .arrow (renamedSource related fun link member => inside link (more' member))
      (renamedTarget related inside)

theorem RenamedArgs.of_canonical (place : List Nat) (number : Nat) : (args : List Ty) →
    {args' : List Ty} → {types known : Links} → {naming naming' : SignatureNaming} →
    {scope scope' : Scope} → SignatureLinked index types known naming naming' →
    scope.Follows [] naming.terms → scope'.Follows [] naming'.terms →
    Apart (headSitesArgs place number scope args).1 →
    Apart (headSitesArgs place number scope' args').1 →
    (canonicalArgs args naming).1 = (canonicalArgs args' naming').1 →
    RenamedSteps index types (fun related => RenamedArgs related known.pairs args args')
      (canonicalArgs args naming) (canonicalArgs args' naming')
  | [], [], types, known, _, _, _, _, linked, _, _, _, _, _ =>
    ⟨types, known, fun _ member => member, fun _ _ => .nil, linked⟩
  | arg :: args, arg' :: args', types, known, naming, naming', scope, scope', linked, follows,
      follows', apart, apart', same => by
    obtain ⟨argSame, argsSame⟩ := List.cons.inj same
    rw [headSitesArgs, Apart.append_iff] at apart apart'
    obtain ⟨types', links, more, renamedArg, between⟩ :=
      Renamed.of_canonical (number :: place) arg linked follows follows' apart.1 apart'.1 argSame
    obtain ⟨types'', links', more', renamedArgs, after⟩ :=
      RenamedArgs.of_canonical place (number + 1) args between (follows.type (number :: place) arg)
        (follows'.type (number :: place) arg') apart.2 apart'.2 argsSame
    refine ⟨types'', links', fun _ member => more' (more member), fun related inside => ?_, after⟩
    exact .cons (renamedArg related fun link member => inside link (more' member))
      (renamedArgs related inside)

end

end Ty

end ProofScript
