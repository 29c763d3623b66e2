import ProofScript.Proofs.Naming.TermsAlike

/-!
# What the names of a signature refer to

A name in a term refers to a parameter if the last declaration of it in scope is that of the
parameter and no lambda around it binds the name. `Signature.references` lists what all the names
refer to, in the order in which they are written.

Take two signatures that differ in nothing but the names of their parameters, and there only in
names that are not spelled like generated ones. Then they are alike if and only if the names in them
refer to the same parameters. This holds whatever the other names are: a head that is taken for a
generated name is taken for it in both of them.

## Main results

`Signature.alike_iff_references`
-/
namespace ProofScript

/-- The parameters in scope with their positions, the last one first. -/
abbrev Declarations := List (String × Nat)

/-- The position of the parameter that `name` refers to, if it refers to one. `binders` are those of
the lambdas around. -/
def referent (declared : Declarations) (binders : List String) (name : String) : Option Nat :=
  if name ∈ binders then none else declared.lookup name

namespace Term

mutual

/-- What the variables and heads of a term refer to. -/
def references (declared : Declarations) (binders : List String) : Term → List (Option Nat)
  | .const _ => []
  | .var name => [referent declared binders name]
  | .app head args => referent declared binders head :: referencesArgs declared binders args
  | .lambda param body => references declared (param :: binders) body

def referencesArgs (declared : Declarations) (binders : List String) :
    List Term → List (Option Nat)
  | [] => []
  | arg :: args => references declared binders arg ++ referencesArgs declared binders args

end

mutual

theorem length_references (declared declared' : Declarations) (binders : List String) :
    (term : Term) →
    (term.references declared binders).length = (term.references declared' binders).length
  | .const _ => rfl
  | .var _ => rfl
  | .app _ args => congrArg (· + 1) (length_referencesArgs declared declared' binders args)
  | .lambda param body => length_references declared declared' (param :: binders) body

theorem length_referencesArgs (declared declared' : Declarations) (binders : List String) :
    (args : List Term) →
    (referencesArgs declared binders args).length = (referencesArgs declared' binders args).length
  | [] => rfl
  | arg :: args => by
    rw [referencesArgs, referencesArgs, List.length_append, List.length_append,
      length_references declared declared' binders arg,
      length_referencesArgs declared declared' binders args]

end

end Term

namespace Ty

mutual

/-- What the names in the equations of a type refer to. -/
def references (declared : Declarations) : Ty → List (Option Nat)
  | .const _ => []
  | .var _ => []
  | .app _ args => referencesArgs declared args
  | .eq left right => left.references declared [] ++ right.references declared []
  | .arrow source target => references declared source ++ references declared target

def referencesArgs (declared : Declarations) : List Ty → List (Option Nat)
  | [] => []
  | arg :: args => references declared arg ++ referencesArgs declared args

end

mutual

theorem length_references (declared declared' : Declarations) : (type : Ty) →
    (type.references declared).length = (type.references declared').length
  | .const _ => rfl
  | .var _ => rfl
  | .app _ args => length_referencesArgs declared declared' args
  | .eq left right => by
    rw [references, references, List.length_append, List.length_append,
      left.length_references declared declared', right.length_references declared declared']
  | .arrow source target => by
    rw [references, references, List.length_append, List.length_append,
      length_references declared declared' source, length_references declared declared' target]

theorem length_referencesArgs (declared declared' : Declarations) : (args : List Ty) →
    (referencesArgs declared args).length = (referencesArgs declared' args).length
  | [] => rfl
  | arg :: args => by
    rw [referencesArgs, referencesArgs, List.length_append, List.length_append,
      length_references declared declared' arg, length_referencesArgs declared declared' args]

end

end Ty

namespace Signature

/-- What the names in the types of parameters and in the result behind them refer to, `index` other
parameters having come before. A parameter is in scope in its own type. -/
def referencesFrom (result : Ty) (index : Nat) (declared : Declarations) :
    List Param → List (Option Nat)
  | [] => result.references declared
  | param :: params =>
    param.type.references ((param.name, index) :: declared) ++
      referencesFrom result (index + 1) ((param.name, index) :: declared) params

/-- What the names in a signature refer to. -/
def references (signature : Signature) : List (Option Nat) :=
  referencesFrom signature.result 0 [] signature.params

end Signature

/-! ### Positions and canonical names -/

/-- The names that were given the canonical name of a parameter are those that refer to it. -/
def Declarations.AgreeWith (declared : Declarations) (scope : Renaming) : Prop :=
  ∀ name number, declared.lookup name = some number ↔
    scope.lookup name = some ("p" ++ toString number)

namespace Declarations.AgreeWith

variable {declared : Declarations} {scope bound : Renaming} {name : String}

theorem empty : Declarations.AgreeWith [] [] := by
  intro name number
  rw [List.lookup_nil, List.lookup_nil]
  constructor <;> intro found <;> cases found

theorem declare (agree : declared.AgreeWith scope) (name : String) (index : Nat) :
    Declarations.AgreeWith ((name, index) :: declared)
      ((name, "p" ++ toString index) :: scope) := by
  intro other number
  by_cases same : other = name
  · rw [same, List.lookup_cons_self, List.lookup_cons_self, Option.some.injEq, Option.some.injEq]
    exact ⟨fun equal => by rw [equal], fun equal => numbered_injective "p" equal⟩
  · rw [List.lookup_cons, List.lookup_cons, beq_eq_false_iff_ne.mpr same]
    exact agree other number

/-- A free variable is no parameter. -/
theorem meet (agree : declared.AgreeWith scope) (absent : scope.lookup name = none) (number : Nat) :
    declared.AgreeWith ((name, "v" ++ toString number) :: scope) := by
  intro other position
  by_cases same : other = name
  · rw [same, List.lookup_cons_self, agree, absent]
    constructor <;> intro found
    · cases found
    · exact absurd (Option.some.inj found).symm (param_ne_variable _ _)
  · rw [List.lookup_cons, beq_eq_false_iff_ne.mpr same]
    exact agree other position

/-- Binders are no parameters, and those that they shadow are not referred to. -/
theorem referent_eq_some_iff (agree : declared.AgreeWith scope)
    (binders : ∀ entry ∈ bound, ∃ number : Nat, entry.2 = "v" ++ toString number) {position : Nat} :
    referent declared (bound.map Prod.fst) name = some position ↔
      (bound ++ scope).lookup name = some ("p" ++ toString position) := by
  rw [referent, List.lookup_append]
  cases found : bound.lookup name with
  | none =>
    rw [if_neg (Renaming.lookup_eq_none_iff.mp found), Option.none_or]
    exact agree name position
  | some given =>
    have member := Renaming.mem_of_lookup_eq_some found
    obtain ⟨number, spelled⟩ := binders _ member
    rw [if_pos (List.mem_map_of_mem member), Option.some_or]
    constructor <;> intro same
    · cases same
    · exact absurd ((Option.some.inj same).symm.trans spelled) (param_ne_variable _ _)

end Declarations.AgreeWith

/-! ### Names that differ -/

/-- The link of a parameter, neither name of which is spelled like a generated one. -/
structure Link.Respelled (link : Link) : Prop where
  param : ∃ number : Nat, link.given = "p" ++ toString number
  left : ¬ Generated link.left
  right : ¬ Generated link.right

/-- Where only the names of parameters differ, a name that was given the name of a parameter on both
sides or on neither was given the same name. -/
theorem Links.lookup_eq_of_params {links : Links} {name : String}
    (distinct : (links.map Link.given).Nodup)
    (names : ∀ link ∈ links, link.left = link.right ∨ link.Respelled)
    (same : ∀ number : Nat, links.left.lookup name = some ("p" ++ toString number) ↔
      links.right.lookup name = some ("p" ++ toString number)) :
    links.left.lookup name = links.right.lookup name := by
  induction links with
  | nil => rfl
  | cons link links ih =>
    obtain ⟨unused, distinct⟩ := List.nodup_cons.mp distinct
    obtain ⟨first, names⟩ := List.forall_mem_cons.mp names
    rw [left, right, List.map_cons, List.map_cons, Renaming.lookup_cons, Renaming.lookup_cons]
      at same ⊢
    by_cases leftSame : name = link.left <;> by_cases rightSame : name = link.right
    · rw [if_pos leftSame, if_pos rightSame]
    -- one side only: the parameter of this link would have been given out before
    · obtain ⟨⟨number, given⟩, -⟩ :=
        first.resolve_left fun equal => rightSame (leftSame.trans equal)
      simp only [if_pos leftSame, if_neg rightSame, given] at same
      exact absurd (given ▸ mem_of_lookup ((same number).mp rfl)) unused
    · obtain ⟨⟨number, given⟩, -⟩ :=
        first.resolve_left fun equal => leftSame (rightSame.trans equal.symm)
      simp only [if_neg leftSame, if_pos rightSame, given] at same
      exact absurd (given ▸ mem_of_lookup ((same number).mpr rfl)) unused
    · simp only [if_neg leftSame, if_neg rightSame] at same ⊢
      exact ih distinct names same

/-! ### Terms -/

/-- Two walks over the same term, where only names of parameters may differ. -/
structure Aligned (index : Nat) (declared declared' : Declarations) (bound known : Links)
    (naming naming' : Naming) : Prop where
  linked : Linked index bound known naming naming'
  binders : ∀ link ∈ bound,
    link.left = link.right ∧ ∃ number : Nat, link.given = "v" ++ toString number
  names : ∀ link ∈ known, link.left = link.right ∨ link.Respelled
  left : declared.AgreeWith naming.scope
  right : declared'.AgreeWith naming'.scope

namespace Aligned

variable {index : Nat} {declared declared' : Declarations} {bound known : Links}
  {naming naming' : Naming} {name : String}

theorem bound_right (aligned : Aligned index declared declared' bound known naming naming') :
    bound.right = bound.left :=
  List.map_congr_left fun link member => by rw [(aligned.binders link member).1]

theorem variable_of_bound (aligned : Aligned index declared declared' bound known naming naming') :
    ∀ entry ∈ bound.left, ∃ number : Nat, entry.2 = "v" ++ toString number := by
  intro entry member
  obtain ⟨link, inside, rfl⟩ := List.mem_map.mp member
  exact (aligned.binders link inside).2

theorem names_scope (aligned : Aligned index declared declared' bound known naming naming') :
    ∀ link ∈ bound ++ known, link.left = link.right ∨ link.Respelled := by
  intro link member
  rcases List.mem_append.mp member with inside | outside
  · exact .inl (aligned.binders link inside).1
  · exact aligned.names link outside

theorem referent_left (aligned : Aligned index declared declared' bound known naming naming')
    (name : String) (number : Nat) :
    referent declared (bound.left.map Prod.fst) name = some number ↔
      (bound ++ known).left.lookup name = some ("p" ++ toString number) := by
  rw [← aligned.linked.left_scope]
  exact aligned.left.referent_eq_some_iff aligned.variable_of_bound

theorem referent_right (aligned : Aligned index declared declared' bound known naming naming')
    (name : String) (number : Nat) :
    referent declared' (bound.left.map Prod.fst) name = some number ↔
      (bound ++ known).right.lookup name = some ("p" ++ toString number) := by
  rw [← aligned.linked.right_scope, aligned.bound_right]
  exact aligned.right.referent_eq_some_iff aligned.variable_of_bound

/-- A name was given the same name on both sides if and only if it refers to the same. -/
theorem lookup_eq_iff (aligned : Aligned index declared declared' bound known naming naming') :
    (bound ++ known).left.lookup name = (bound ++ known).right.lookup name ↔
      referent declared (bound.left.map Prod.fst) name =
        referent declared' (bound.left.map Prod.fst) name := by
  constructor
  · intro same
    apply Option.ext
    intro number
    rw [aligned.referent_left, aligned.referent_right, same]
  · intro same
    refine Links.lookup_eq_of_params aligned.linked.distinct aligned.names_scope fun number => ?_
    rw [← aligned.referent_left, ← aligned.referent_right, same]

/-- Names that are spelled like generated ones belong to no parameter whose names differ. -/
theorem lookup_eq_of_generated
    (aligned : Aligned index declared declared' bound known naming naming')
    (generated : Generated name) :
    (bound ++ known).left.lookup name = (bound ++ known).right.lookup name := by
  refine Links.lookup_eq_of_iff fun link member => ?_
  rcases aligned.names_scope link member with same | ⟨-, first, second⟩
  · rw [same]
  · constructor <;> rintro rfl
    · exact absurd generated first
    · exact absurd generated second

theorem head_eq_iff (aligned : Aligned index declared declared' bound known naming naming') :
    ((bound.left ++ naming.scope).lookup name).getD name =
        ((bound.right ++ naming'.scope).lookup name).getD name ↔
      referent declared (bound.left.map Prod.fst) name =
        referent declared' (bound.left.map Prod.fst) name := by
  rw [← aligned.lookup_eq_iff, aligned.linked.left_scope, aligned.linked.right_scope]
  refine ⟨fun same => ?_, fun same => by rw [same]⟩
  by_cases generated : Generated name
  · exact aligned.lookup_eq_of_generated generated
  -- any other spelling is kept on both sides or on neither
  cases first : (bound ++ known).left.lookup name with
  | none =>
    cases second : (bound ++ known).right.lookup name with
    | none => rfl
    | some given =>
      rw [first, second, Option.getD_none, Option.getD_some] at same
      exact absurd (same ▸ aligned.linked.generated (Links.mem_of_lookup second)) generated
  | some given =>
    cases second : (bound ++ known).right.lookup name with
    | none =>
      rw [first, second, Option.getD_none, Option.getD_some] at same
      exact absurd (same ▸ aligned.linked.generated (Links.mem_of_lookup first)) generated
    | some given' =>
      rw [first, second, Option.getD_some, Option.getD_some] at same
      rw [same]

theorem variable_eq_iff (aligned : Aligned index declared declared' bound known naming naming') :
    ((Term.var name).canonical bound.left naming).1 =
        ((Term.var name).canonical bound.right naming').1 ↔
      referent declared (bound.left.map Prod.fst) name =
        referent declared' (bound.left.map Prod.fst) name := by
  rw [← aligned.lookup_eq_iff, ← aligned.linked.left_scope, ← aligned.linked.right_scope]
  constructor
  · intro same
    obtain ⟨known', renamed⟩ := aligned.linked.variables_of_eq same
    cases renamed with
    | inScope paired =>
      obtain ⟨given, first, second⟩ := aligned.linked.lookup_paired paired
      rw [first, second]
    | met unpaired =>
      obtain ⟨first, second⟩ := aligned.linked.unpaired_iff.mp unpaired
      rw [first, second]
  · intro same
    cases second : (bound.right ++ naming'.scope).lookup name with
    | none =>
      rw [Term.canonical_var_of_none (same.trans second), Term.canonical_var_of_none second,
        aligned.linked.count]
    | some given =>
      rw [Term.canonical_var_of_some (same.trans second), Term.canonical_var_of_some second]

/-- A variable that both walks meet for the first time. -/
theorem meet (aligned : Aligned index declared declared' bound known naming naming')
    (first : (bound.left ++ naming.scope).lookup name = none)
    (second : (bound.right ++ naming'.scope).lookup name = none) :
    Aligned index declared declared' bound (⟨name, name, "v" ++ toString naming.fresh⟩ :: known)
      ⟨(name, "v" ++ toString naming.fresh) :: naming.scope, naming.fresh + 1⟩
      ⟨(name, "v" ++ toString naming'.fresh) :: naming'.scope, naming'.fresh + 1⟩ where
  linked := aligned.linked.meet name name
  binders := aligned.binders
  names := List.forall_mem_cons.mpr ⟨.inl rfl, aligned.names⟩
  left := by
    rw [List.lookup_append, Option.or_eq_none_iff] at first
    exact aligned.left.meet first.2 _
  right := by
    rw [List.lookup_append, Option.or_eq_none_iff] at second
    exact aligned.right.meet second.2 _

theorem bind (aligned : Aligned index declared declared' bound known naming naming')
    (name : String) :
    Aligned index declared declared' (⟨name, name, "v" ++ toString naming.fresh⟩ :: bound) known
      naming.next.2 naming'.next.2 where
  linked := aligned.linked.bind name name
  binders := List.forall_mem_cons.mpr ⟨⟨rfl, _, rfl⟩, aligned.binders⟩
  names := aligned.names
  left := aligned.left
  right := aligned.right

theorem leave {link : Link}
    (aligned : Aligned index declared declared' (link :: bound) known naming naming') :
    Aligned index declared declared' bound known naming naming' where
  linked := aligned.linked.leave
  binders := (List.forall_mem_cons.mp aligned.binders).2
  names := aligned.names
  left := aligned.left
  right := aligned.right

end Aligned

/-- Both walks come out with the same if and only if the references are the same, and then `aligned`
holds after them. -/
def AlignedSteps {α σ : Type} (refer refer' : List (Option Nat)) (aligned : σ → σ → Prop)
    (walk walk' : α × σ) : Prop :=
  (walk.1 = walk'.1 ↔ refer = refer') ∧ (walk.1 = walk'.1 → aligned walk.2 walk'.2)

/-- One walk after the other. -/
theorem AlignedSteps.both {α β σ τ : Type} {refer refer' more more' : List (Option Nat)}
    {between : σ → σ → Prop} {after : τ → τ → Prop} {walk walk' : α × σ} {next next' : β × τ}
    (steps : AlignedSteps refer refer' between walk walk')
    (length : refer.length = refer'.length)
    (others : between walk.2 walk'.2 → AlignedSteps more more' after next next') :
    (walk.1 = walk'.1 ∧ next.1 = next'.1 ↔ refer ++ more = refer' ++ more') ∧
      (walk.1 = walk'.1 ∧ next.1 = next'.1 → after next.2 next'.2) := by
  obtain ⟨same, aligned⟩ := steps
  refine ⟨⟨?_, fun equal => ?_⟩, fun both => (others (aligned both.1)).2 both.2⟩
  · rintro ⟨first, second⟩
    rw [same.mp first, (others (aligned first)).1.mp second]
  · obtain ⟨first, second⟩ := List.append_inj equal length
    exact ⟨same.mpr first, (others (aligned (same.mpr first))).1.mpr second⟩

/-- Two walks that are aligned by some links. -/
def AlignedWalks (index : Nat) (declared declared' : Declarations) (bound : Links)
    (naming naming' : Naming) : Prop :=
  ∃ known, Aligned index declared declared' bound known naming naming'

namespace AlignedWalks

variable {index : Nat} {declared declared' : Declarations}

mutual

theorem term : (term : Term) → {bound : Links} → {naming naming' : Naming} →
    AlignedWalks index declared declared' bound naming naming' →
    AlignedSteps (term.references declared (bound.left.map Prod.fst))
      (term.references declared' (bound.left.map Prod.fst))
      (AlignedWalks index declared declared' bound)
      (term.canonical bound.left naming) (term.canonical bound.right naming')
  | .const name, bound, naming, naming', walks => ⟨iff_of_true rfl rfl, fun _ => walks⟩
  | .var name, bound, naming, naming', ⟨known, aligned⟩ => by
    refine ⟨?_, fun same => ?_⟩
    · rw [aligned.variable_eq_iff, Term.references, Term.references, List.cons.injEq,
        and_iff_left rfl]
    · rw [aligned.variable_eq_iff, ← aligned.lookup_eq_iff, ← aligned.linked.left_scope,
        ← aligned.linked.right_scope] at same
      -- both walks know the variable, or both of them meet it now
      cases second : (bound.right ++ naming'.scope).lookup name with
      | none =>
        have first := same.trans second
        rw [Term.canonical_var_of_none first, Term.canonical_var_of_none second]
        exact ⟨_, aligned.meet first second⟩
      | some given =>
        rw [Term.canonical_var_of_some (same.trans second), Term.canonical_var_of_some second]
        exact ⟨known, aligned⟩
  | .app head args, bound, naming, naming', ⟨known, aligned⟩ => by
    obtain ⟨refer, after⟩ := AlignedWalks.args args ⟨known, aligned⟩
    rw [Term.canonical_app, Term.canonical_app]
    refine ⟨?_, fun same => after (Term.app.inj same).2⟩
    rw [Term.app.injEq, aligned.head_eq_iff, refer, Term.references, Term.references,
      List.cons.injEq]
  | .lambda param body, bound, naming, naming', ⟨known, aligned⟩ => by
    -- both walks give the same name to the binder, which is the same in both of them
    obtain ⟨refer, after⟩ := AlignedWalks.term body ⟨known, aligned.bind param⟩
    rw [Term.canonical_lambda, Term.canonical_lambda, ← aligned.linked.count]
    refine ⟨?_, fun same => ?_⟩
    · rw [Term.lambda.injEq, and_iff_right rfl]
      exact refer
    · obtain ⟨known', inside⟩ := after (Term.lambda.inj same).2
      exact ⟨known', inside.leave⟩

theorem args : (args : List Term) → {bound : Links} → {naming naming' : Naming} →
    AlignedWalks index declared declared' bound naming naming' →
    AlignedSteps (Term.referencesArgs declared (bound.left.map Prod.fst) args)
      (Term.referencesArgs declared' (bound.left.map Prod.fst) args)
      (AlignedWalks index declared declared' bound)
      (Term.canonicalArgs bound.left args naming) (Term.canonicalArgs bound.right args naming')
  | [], bound, naming, naming', walks => ⟨iff_of_true rfl rfl, fun _ => walks⟩
  | arg :: args, bound, naming, naming', walks => by
    obtain ⟨refer, after⟩ := (AlignedWalks.term arg walks).both
      (Term.length_references declared declared' _ arg) (AlignedWalks.args args)
    rw [Term.canonicalArgs_cons, Term.canonicalArgs_cons]
    refine ⟨?_, fun same => after (List.cons.inj same)⟩
    rw [List.cons.injEq]
    exact refer

end

end AlignedWalks

/-! ### Types -/

/-- Two walks over types that have met the same type variables. -/
structure SignatureAligned (index : Nat) (declared declared' : Declarations)
    (naming naming' : SignatureNaming) : Prop where
  types : naming.types = naming'.types
  terms : AlignedWalks index declared declared' [] naming.terms naming'.terms

namespace SignatureAligned

variable {index : Nat} {declared declared' : Declarations} {naming naming' : SignatureNaming}

theorem typeName (aligned : SignatureAligned index declared declared' naming naming')
    (name : String) :
    (naming.typeName name).1 = (naming'.typeName name).1 ∧
      SignatureAligned index declared declared' (naming.typeName name).2
        (naming'.typeName name).2 := by
  obtain ⟨types, terms⟩ := naming
  obtain ⟨types', terms'⟩ := naming'
  obtain rfl : types = types' := aligned.types
  unfold SignatureNaming.typeName
  dsimp only
  split <;> exact ⟨rfl, rfl, aligned.terms⟩

theorem headName (aligned : SignatureAligned index declared declared' naming naming')
    (head : String) :
    (Ty.headName head naming).1 = (Ty.headName head naming').1 ∧
      SignatureAligned index declared declared' (Ty.headName head naming).2
        (Ty.headName head naming').2 := by
  unfold Ty.headName
  split
  · exact ⟨rfl, aligned⟩
  · exact aligned.typeName head

mutual

theorem type : (type : Ty) → {naming naming' : SignatureNaming} →
    SignatureAligned index declared declared' naming naming' →
    AlignedSteps (type.references declared) (type.references declared')
      (SignatureAligned index declared declared') (type.canonical naming) (type.canonical naming')
  | .const name, naming, naming', aligned => ⟨iff_of_true rfl rfl, fun _ => aligned⟩
  | .var name, naming, naming', aligned => by
    obtain ⟨same, after⟩ := aligned.typeName name
    exact ⟨iff_of_true (congrArg Ty.var same) rfl, fun _ => after⟩
  | .app head args, naming, naming', aligned => by
    obtain ⟨same, between⟩ := aligned.headName head
    obtain ⟨refer, after⟩ := SignatureAligned.args args between
    rw [Ty.canonical_app, Ty.canonical_app]
    refine ⟨?_, fun equal => after (Ty.app.inj equal).2⟩
    rw [Ty.app.injEq, and_iff_right same]
    exact refer
  | .eq left right, naming, naming', aligned => by
    obtain ⟨refer, after⟩ := (aligned.terms.term left).both
      (Term.length_references declared declared' _ left) (AlignedWalks.term right)
    refine ⟨(Iff.of_eq (Ty.eq.injEq _ _ _ _)).trans refer, fun same => ?_⟩
    exact ⟨aligned.types, after (Ty.eq.inj same)⟩
  | .arrow source target, naming, naming', aligned => by
    obtain ⟨refer, after⟩ := (SignatureAligned.type source aligned).both
      (Ty.length_references declared declared' source) (SignatureAligned.type target)
    refine ⟨(Iff.of_eq (Ty.arrow.injEq _ _ _ _)).trans refer, fun same => ?_⟩
    exact after (Ty.arrow.inj same)

theorem args : (args : List Ty) → {naming naming' : SignatureNaming} →
    SignatureAligned index declared declared' naming naming' →
    AlignedSteps (Ty.referencesArgs declared args) (Ty.referencesArgs declared' args)
      (SignatureAligned index declared declared') (Ty.canonicalArgs args naming)
      (Ty.canonicalArgs args naming')
  | [], naming, naming', aligned => ⟨iff_of_true rfl rfl, fun _ => aligned⟩
  | arg :: args, naming, naming', aligned => by
    obtain ⟨refer, after⟩ := (SignatureAligned.type arg aligned).both
      (Ty.length_references declared declared' arg) (SignatureAligned.args args)
    refine ⟨(Iff.of_eq (List.cons.injEq _ _ _ _)).trans refer, fun same => ?_⟩
    exact after (List.cons.inj same)

end

end SignatureAligned

/-! ### Signatures -/

/-- The parameters differ in their names only, and there only if neither name is spelled like a
generated one. -/
structure Param.Respelled (param param' : Param) : Prop where
  type : param.type = param'.type
  name : param.name = param'.name ∨ ¬ Generated param.name ∧ ¬ Generated param'.name

namespace SignatureAligned

variable {index : Nat} {declared declared' : Declarations} {naming naming' : SignatureNaming}

theorem empty : SignatureAligned 0 [] [] .empty .empty where
  types := rfl
  terms :=
    ⟨[], Linked.empty, List.forall_mem_nil _, List.forall_mem_nil _, Declarations.AgreeWith.empty,
      Declarations.AgreeWith.empty⟩

theorem declare (aligned : SignatureAligned index declared declared' naming naming')
    {param param' : Param} (respelled : param.Respelled param') :
    SignatureAligned (index + 1) ((param.name, index) :: declared)
      ((param'.name, index) :: declared') (naming.declare param.name ("p" ++ toString index))
      (naming'.declare param'.name ("p" ++ toString index)) := by
  obtain ⟨known, terms⟩ := aligned.terms
  refine ⟨aligned.types, _, terms.linked.declare param.name param'.name, terms.binders, ?_,
    terms.left.declare param.name index, terms.right.declare param'.name index⟩
  refine List.forall_mem_cons.mpr ⟨?_, terms.names⟩
  exact respelled.name.imp_right fun spelled => ⟨⟨index, rfl⟩, spelled.1, spelled.2⟩

/-- The parameters and what stands behind them. -/
theorem params (result : Ty) {params params' : List Param}
    (respelled : List.Forall₂ Param.Respelled params params')
    (aligned : SignatureAligned index declared declared' naming naming') :
    ((Signature.canonicalParams index params naming).1 =
          (Signature.canonicalParams index params' naming').1 ∧
        (result.canonical (Signature.canonicalParams index params naming).2).1 =
          (result.canonical (Signature.canonicalParams index params' naming').2).1) ↔
      Signature.referencesFrom result index declared params =
        Signature.referencesFrom result index declared' params' := by
  induction respelled generalizing index declared declared' naming naming' with
  | nil => exact (and_iff_right rfl).trans (aligned.type result).1
  | @cons param param' params params' first others ih =>
    -- a parameter is in scope in its own type, so it is declared first
    obtain ⟨refer, after⟩ := (aligned.declare first).type param.type
    have length := param.type.length_references ((param.name, index) :: declared)
      ((param'.name, index) :: declared')
    rw [Signature.referencesFrom, Signature.referencesFrom, ← first.type]
    rw [Signature.canonicalParams, Signature.canonicalParams, ← first.type]
    constructor
    · rintro ⟨paramsSame, resultSame⟩
      obtain ⟨paramSame, othersSame⟩ := List.cons.inj paramsSame
      have typeSame := (Param.mk.inj paramSame).2
      rw [refer.mp typeSame, (ih (after typeSame)).mp ⟨othersSame, resultSame⟩]
    · intro same
      obtain ⟨typeSame, othersSame⟩ := List.append_inj same length
      obtain ⟨paramsSame, resultSame⟩ := (ih (after (refer.mpr typeSame))).mpr othersSame
      refine ⟨congrArg₂ List.cons ?_ paramsSame, resultSame⟩
      exact congrArg (Param.mk _) (refer.mpr typeSame)

end SignatureAligned

/-- Signatures that differ in the names of parameters only are alike if and only if their names
refer to the same parameters. -/
theorem Signature.alike_iff_references {signature other : Signature}
    (params : List.Forall₂ Param.Respelled signature.params other.params)
    (result : signature.result = other.result) :
    signature.alike other = true ↔ signature.references = other.references := by
  rw [alike_iff, references, references, ← result,
    ← SignatureAligned.empty.params signature.result params]
  rw [canonical, canonical, ← result]
  exact Iff.of_eq (Signature.mk.injEq _ _ _ _)

end ProofScript
