import ProofScript.Proofs.Naming.Generated

/-!
# What is in scope at the heads of a signature

A name is in scope at a place of a signature if it is a parameter declared there or before, the
binder of a lambda around the place, or a free variable met before in a walk from left to right. A
head that is met does not come into scope by that. A parameter is in scope in its own type.

`Signature.headSites` lists the heads of all applications of terms in the order of the walk, each
with its place and with what is in scope there. The walk knows nothing of canonical names; that it
keeps step with the one that gives them out is `Scope.Follows` and the lemmas about it.
-/
namespace ProofScript

/-- What is in scope. The binders of lambdas and the free variables are counted in the order in
which they are met, and each of them comes with its number. -/
structure Scope where
  /-- The parameters declared so far, the last one first. -/
  params : List String
  /-- The binders of the lambdas around, the innermost first. -/
  binders : List (String × Nat)
  /-- The free variables met so far, the last one first. -/
  free : List (String × Nat)
  /-- The number of binders and free variables met so far. -/
  count : Nat
deriving DecidableEq

namespace Scope

def empty : Scope := ⟨[], [], [], 0⟩

/-- The names in scope. -/
def names (scope : Scope) : List String :=
  scope.params ++ (scope.binders.map Prod.fst ++ scope.free.map Prod.fst)

def declare (scope : Scope) (name : String) : Scope :=
  { scope with params := name :: scope.params }

/-- Goes into a lambda. -/
def bind (scope : Scope) (name : String) : Scope :=
  { scope with binders := (name, scope.count) :: scope.binders, count := scope.count + 1 }

/-- Leaves the lambdas that are not around in `outer`. -/
def leave (scope outer : Scope) : Scope :=
  { scope with binders := outer.binders }

/-- Meets a variable, which is a free one if it is not in scope. -/
def meet (scope : Scope) (name : String) : Scope :=
  if name ∈ scope.names then scope
  else { scope with free := (name, scope.count) :: scope.free, count := scope.count + 1 }

/-- The canonical names of the parameters declared so far. -/
def paramNames (scope : Scope) : List String :=
  (List.range scope.params.length).map fun index => "p" ++ toString index

/-- The canonical names of binders or free variables. -/
def variableNames (entries : List (String × Nat)) : List String :=
  entries.map fun entry => "v" ++ toString entry.2

/-- The canonical names of what is in scope. -/
def given (scope : Scope) : List String :=
  scope.paramNames ++ (variableNames scope.binders ++ variableNames scope.free)

end Scope

/-- The head of an application of a term: where it stands, as the numbers of the branches to take
from the last one to the first, its name, and what is in scope there. -/
structure HeadSite where
  place : List Nat
  head : String
  scope : Scope
deriving DecidableEq

namespace HeadSite

def InScope (site : HeadSite) : Prop :=
  site.head ∈ site.scope.names

instance (site : HeadSite) : Decidable site.InScope :=
  inferInstanceAs (Decidable (site.head ∈ site.scope.names))

end HeadSite

namespace Term

mutual

/-- The heads of a term, and what is in scope after it. -/
def headSites (place : List Nat) (scope : Scope) : Term → List HeadSite × Scope
  | .const _ => ([], scope)
  | .var name => ([], scope.meet name)
  | .app head args =>
    let (sites, after) := headSitesArgs place 0 scope args
    (⟨place, head, scope⟩ :: sites, after)
  | .lambda param body =>
    let (sites, after) := headSites (0 :: place) (scope.bind param) body
    (sites, after.leave scope)

/-- The heads of arguments, the first of which has the number `index`. -/
def headSitesArgs (place : List Nat) (index : Nat) (scope : Scope) :
    List Term → List HeadSite × Scope
  | [] => ([], scope)
  | arg :: args =>
    let (sites, scope) := headSites (index :: place) scope arg
    let (more, scope) := headSitesArgs place (index + 1) scope args
    (sites ++ more, scope)

end

end Term

namespace Ty

mutual

/-- The heads in the equations of a type, and what is in scope after it. -/
def headSites (place : List Nat) (scope : Scope) : Ty → List HeadSite × Scope
  | .const _ => ([], scope)
  | .var _ => ([], scope)
  | .app _ args => headSitesArgs place 0 scope args
  | .eq left right =>
    let (sites, scope) := left.headSites (0 :: place) scope
    let (more, scope) := right.headSites (1 :: place) scope
    (sites ++ more, scope)
  | .arrow source target =>
    let (sites, scope) := headSites (0 :: place) scope source
    let (more, scope) := headSites (1 :: place) scope target
    (sites ++ more, scope)

def headSitesArgs (place : List Nat) (index : Nat) (scope : Scope) :
    List Ty → List HeadSite × Scope
  | [] => ([], scope)
  | arg :: args =>
    let (sites, scope) := headSites (index :: place) scope arg
    let (more, scope) := headSitesArgs place (index + 1) scope args
    (sites ++ more, scope)

end

end Ty

namespace Signature

/-- The heads in the types of parameters, the first of which has the number `index`. -/
def headSitesParams (index : Nat) (scope : Scope) : List Param → List HeadSite × Scope
  | [] => ([], scope)
  | param :: params =>
    let (sites, scope) := param.type.headSites [index] (scope.declare param.name)
    let (more, scope) := headSitesParams (index + 1) scope params
    (sites ++ more, scope)

/-- All heads of a signature. -/
def headSites (signature : Signature) : List HeadSite :=
  let (sites, scope) := headSitesParams 0 .empty signature.params
  sites ++ (signature.result.headSites [signature.params.length] scope).1

end Signature

/-! ### The walk that gives out names -/

namespace Renaming

theorem lookup_eq_none_iff {entries : Renaming} {name : String} :
    entries.lookup name = none ↔ name ∉ entries.map Prod.fst := by
  rw [List.lookup_eq_none_iff]
  simp only [List.mem_map, not_exists, not_and]
  constructor
  · intro absent entry member same
    have differs := absent entry member
    simp [same] at differs
  · intro absent entry member
    simpa using fun same => absent entry member same.symm

theorem mem_of_lookup_eq_some {entries : Renaming} {name given : String}
    (found : entries.lookup name = some given) : (name, given) ∈ entries := by
  obtain ⟨before, after, rfl, -⟩ := List.lookup_eq_some_iff.mp found
  simp

end Renaming

namespace Term

theorem canonical_app (bound : Renaming) (head : String) (args : List Term) (naming : Naming) :
    canonical bound (.app head args) naming =
      (.app (((bound ++ naming.scope).lookup head).getD head) (canonicalArgs bound args naming).1,
        (canonicalArgs bound args naming).2) := rfl

theorem canonical_lambda (bound : Renaming) (param : String) (body : Term) (naming : Naming) :
    canonical bound (.lambda param body) naming =
      (.lambda ("v" ++ toString naming.fresh)
          (canonical ((param, "v" ++ toString naming.fresh) :: bound) body naming.next.2).1,
        (canonical ((param, "v" ++ toString naming.fresh) :: bound) body naming.next.2).2) := rfl

theorem canonicalArgs_cons (bound : Renaming) (arg : Term) (args : List Term) (naming : Naming) :
    canonicalArgs bound (arg :: args) naming =
      ((canonical bound arg naming).1 ::
          (canonicalArgs bound args (canonical bound arg naming).2).1,
        (canonicalArgs bound args (canonical bound arg naming).2).2) := rfl

theorem canonical_var_of_some {bound : Renaming} {naming : Naming} {name given : String}
    (found : (bound ++ naming.scope).lookup name = some given) :
    canonical bound (.var name) naming = (.var given, naming) := by
  rw [canonical, found]

theorem canonical_var_of_none {bound : Renaming} {naming : Naming} {name : String}
    (found : (bound ++ naming.scope).lookup name = none) :
    canonical bound (.var name) naming =
      (.var ("v" ++ toString naming.fresh),
        ⟨(name, "v" ++ toString naming.fresh) :: naming.scope, naming.fresh + 1⟩) := by
  rw [canonical, found]
  rfl

theorem headSites_app (place : List Nat) (scope : Scope) (head : String) (args : List Term) :
    headSites place scope (.app head args) =
      (⟨place, head, scope⟩ :: (headSitesArgs place 0 scope args).1,
        (headSitesArgs place 0 scope args).2) := rfl

theorem headSites_lambda (place : List Nat) (scope : Scope) (param : String) (body : Term) :
    headSites place scope (.lambda param body) =
      ((headSites (0 :: place) (scope.bind param) body).1,
        (headSites (0 :: place) (scope.bind param) body).2.leave scope) := rfl

theorem headSitesArgs_cons (place : List Nat) (index : Nat) (scope : Scope) (arg : Term)
    (args : List Term) :
    headSitesArgs place index scope (arg :: args) =
      ((headSites (index :: place) scope arg).1 ++
          (headSitesArgs place (index + 1) (headSites (index :: place) scope arg).2 args).1,
        (headSitesArgs place (index + 1) (headSites (index :: place) scope arg).2 args).2) := rfl

end Term

namespace Ty

/-- The canonical name of the head of a type. -/
def headName (head : String) (naming : SignatureNaming) : String × SignatureNaming :=
  if isTypeConstant head then (head, naming) else naming.typeName head

theorem canonical_app (head : String) (args : List Ty) (naming : SignatureNaming) :
    canonical (.app head args) naming =
      (.app (headName head naming).1 (canonicalArgs args (headName head naming).2).1,
        (canonicalArgs args (headName head naming).2).2) := rfl

/-- Giving a name to a type variable has nothing to do with terms. -/
theorem terms_typeName (naming : SignatureNaming) (name : String) :
    (naming.typeName name).2.terms = naming.terms := by
  unfold SignatureNaming.typeName
  split <;> rfl

theorem terms_headName (head : String) (naming : SignatureNaming) :
    (headName head naming).2.terms = naming.terms := by
  unfold headName
  split
  · rfl
  · exact terms_typeName naming head

end Ty

namespace Signature

theorem length_canonicalParams (params : List Param) (index : Nat) (naming : SignatureNaming) :
    (canonicalParams index params naming).1.length = params.length := by
  induction params generalizing index naming with
  | nil => rfl
  | cons param params ih => exact congrArg (· + 1) (ih _ _)

theorem alike_iff {signature other : Signature} :
    signature.alike other = true ↔ signature.canonical = other.canonical := by
  rw [alike, decide_eq_true_eq]

end Signature

namespace Scope

/-- The walk over scopes keeps step with the one that gives out names: the same binders are around,
the same other names are known under names given to what is in scope, and as many of them have been
counted. -/
structure Follows (scope : Scope) (bound : Renaming) (naming : Naming) : Prop where
  binders : bound = scope.binders.map fun entry => (entry.1, "v" ++ toString entry.2)
  known : ∀ name, name ∈ naming.scope.map Prod.fst ↔
    name ∈ scope.params ∨ name ∈ scope.free.map Prod.fst
  knownGiven : ∀ entry ∈ naming.scope,
    entry.2 ∈ scope.paramNames ∨ entry.2 ∈ variableNames scope.free
  count : naming.fresh = scope.count
  counted : ∀ entry ∈ scope.binders ++ scope.free, entry.2 < scope.count

variable {scope : Scope} {bound : Renaming} {naming : Naming}

theorem Follows.lookup_eq_none_iff (follows : scope.Follows bound naming) {name : String} :
    (bound ++ naming.scope).lookup name = none ↔ name ∉ scope.names := by
  have binders : bound.map Prod.fst = scope.binders.map Prod.fst := by
    rw [follows.binders, List.map_map]
    rfl
  rw [Renaming.lookup_eq_none_iff, List.map_append, List.mem_append, binders, follows.known, names,
    List.mem_append, List.mem_append]
  exact not_congr or_left_comm

theorem Follows.mem_names (follows : scope.Follows bound naming) {name given : String}
    (found : (bound ++ naming.scope).lookup name = some given) : name ∈ scope.names := by
  apply Decidable.byContradiction
  intro absent
  rw [follows.lookup_eq_none_iff.mpr absent] at found
  cases found

/-- A name in scope is known under a canonical name of something in scope. -/
theorem Follows.mem_given (follows : scope.Follows bound naming) {name given : String}
    (found : (bound ++ naming.scope).lookup name = some given) : given ∈ scope.given := by
  rw [Scope.given, List.mem_append, List.mem_append]
  rcases List.mem_append.mp (Renaming.mem_of_lookup_eq_some found) with inside | outside
  · rw [follows.binders] at inside
    obtain ⟨entry, member, same⟩ := List.mem_map.mp inside
    exact .inr (.inl (List.mem_map.mpr ⟨entry, member, congrArg Prod.snd same⟩))
  · exact (follows.knownGiven _ outside).imp_right .inr

/-- The next name to be given out is not in use yet. -/
theorem Follows.next_not_mem_given (follows : scope.Follows bound naming) :
    "v" ++ toString scope.count ∉ scope.given := by
  -- a parameter has another letter, and what was counted has a smaller number
  have unused : ∀ entries, (∀ entry ∈ entries, entry.2 < scope.count) →
      "v" ++ toString scope.count ∉ variableNames entries := by
    intro entries counted member
    obtain ⟨entry, inside, same⟩ := List.mem_map.mp member
    have below := counted entry inside
    have equal := numbered_injective "v" same
    omega
  rw [Scope.given, List.mem_append, List.mem_append]
  rintro (param | binder | free)
  · obtain ⟨index, -, same⟩ := List.mem_map.mp param
    exact param_ne_variable _ _ same
  · exact unused _ (fun _ member => follows.counted _ (List.mem_append_left _ member)) binder
  · exact unused _ (fun _ member => follows.counted _ (List.mem_append_right _ member)) free

theorem Follows.empty : empty.Follows [] SignatureNaming.empty.terms where
  binders := rfl
  known name := by simp [Scope.empty, SignatureNaming.empty]
  knownGiven entry member := by cases member
  count := rfl
  counted entry member := by cases member

theorem Follows.declare {naming : SignatureNaming} (follows : scope.Follows bound naming.terms)
    (name : String) :
    (scope.declare name).Follows bound
      (naming.declare name ("p" ++ toString scope.params.length)).terms where
  binders := follows.binders
  known other := by
    simp only [Scope.declare, SignatureNaming.declare, List.map_cons, List.mem_cons, follows.known,
      or_assoc]
  knownGiven entry member := by
    simp only [paramNames, Scope.declare, List.length_cons, List.range_succ, List.map_append,
      List.map_cons, List.map_nil, List.mem_append]
    rcases List.mem_cons.mp member with rfl | earlier
    · exact .inl (.inr (List.mem_singleton.mpr rfl))
    · exact (follows.knownGiven entry earlier).imp_left .inl
  count := follows.count
  counted := follows.counted

theorem Follows.bind (follows : scope.Follows bound naming) (name : String) :
    (scope.bind name).Follows ((name, "v" ++ toString naming.fresh) :: bound) naming.next.2 where
  binders := by rw [Scope.bind, List.map_cons, follows.binders, follows.count]
  known := follows.known
  knownGiven := follows.knownGiven
  count := congrArg (· + 1) follows.count
  counted entry member := by
    rcases List.mem_cons.mp member with rfl | earlier
    · exact Nat.lt_succ_self _
    · exact Nat.lt_succ_of_lt (follows.counted entry earlier)

theorem Follows.leave {inner : Scope} {param : String} {bound' : Renaming}
    (follows : inner.Follows bound' naming) (around : inner.binders = (scope.bind param).binders)
    {before : Naming} (outside : scope.Follows bound before) :
    (inner.leave scope).Follows bound naming where
  binders := outside.binders
  known := follows.known
  knownGiven := follows.knownGiven
  count := follows.count
  counted entry member := by
    -- the binders outside are among those inside
    apply follows.counted entry
    rw [around]
    exact List.mem_cons_of_mem _ member

theorem Follows.meet (follows : scope.Follows bound naming) (name : String) :
    (scope.meet name).Follows bound ((Term.var name).canonical bound naming).2 := by
  cases found : (bound ++ naming.scope).lookup name with
  | some given =>
    rw [Term.canonical_var_of_some found, Scope.meet, if_pos (follows.mem_names found)]
    exact follows
  | none =>
    -- both walks take the variable for a free one and count it
    rw [Term.canonical_var_of_none found, Scope.meet,
      if_neg (follows.lookup_eq_none_iff.mp found)]
    refine ⟨follows.binders, fun other => ?_, fun entry member => ?_,
      congrArg (· + 1) follows.count, fun entry member => ?_⟩
    · simp only [List.map_cons, List.mem_cons, follows.known]
      exact or_left_comm
    · simp only [variableNames, List.map_cons, List.mem_cons]
      rcases List.mem_cons.mp member with rfl | earlier
      · exact .inr (.inl (by rw [follows.count]))
      · exact (follows.knownGiven entry earlier).imp_right .inr
    · have earlier : entry = (name, scope.count) ∨ entry ∈ scope.binders ++ scope.free := by
        simpa [or_left_comm] using member
      rcases earlier with rfl | earlier
      · exact Nat.lt_succ_self _
      · exact Nat.lt_succ_of_lt (follows.counted entry earlier)

mutual

/-- A term leaves the parameters and the binders around it as they are. -/
theorem outside_headSites (place : List Nat) : (term : Term) → (scope : Scope) →
    (term.headSites place scope).2.params = scope.params ∧
      (term.headSites place scope).2.binders = scope.binders
  | .const _, _ => ⟨rfl, rfl⟩
  | .var name, scope => by
    rw [Term.headSites, Scope.meet]
    split <;> exact ⟨rfl, rfl⟩
  | .app _ args, scope => outside_headSitesArgs place 0 args scope
  | .lambda param body, scope => ⟨(outside_headSites (0 :: place) body (scope.bind param)).1, rfl⟩

theorem outside_headSitesArgs (place : List Nat) (index : Nat) : (args : List Term) →
    (scope : Scope) →
    (Term.headSitesArgs place index scope args).2.params = scope.params ∧
      (Term.headSitesArgs place index scope args).2.binders = scope.binders
  | [], _ => ⟨rfl, rfl⟩
  | arg :: args, scope => by
    have first := outside_headSites (index :: place) arg scope
    have rest := outside_headSitesArgs place (index + 1) args
      (arg.headSites (index :: place) scope).2
    exact ⟨rest.1.trans first.1, rest.2.trans first.2⟩

end

mutual

theorem Follows.term (place : List Nat) : (term : Term) → {scope : Scope} → {bound : Renaming} →
    {naming : Naming} → scope.Follows bound naming →
    (term.headSites place scope).2.Follows bound (term.canonical bound naming).2
  | .const _, _, _, _, follows => follows
  | .var name, _, _, _, follows => follows.meet name
  | .app _ args, _, _, _, follows => Follows.args place 0 args follows
  -- the binders come back, while the free variables met in the body stay known
  | .lambda param body, _, _, _, follows =>
    (Follows.term (0 :: place) body (follows.bind param)).leave
      (outside_headSites (0 :: place) body _).2 follows

theorem Follows.args (place : List Nat) (index : Nat) : (args : List Term) → {scope : Scope} →
    {bound : Renaming} → {naming : Naming} → scope.Follows bound naming →
    (Term.headSitesArgs place index scope args).2.Follows bound
      (Term.canonicalArgs bound args naming).2
  | [], _, _, _, follows => follows
  | arg :: args, _, _, _, follows =>
    Follows.args place (index + 1) args (Follows.term (index :: place) arg follows)

end

/-! ### Types -/

mutual

theorem params_headSitesType (place : List Nat) : (type : Ty) → (scope : Scope) →
    (type.headSites place scope).2.params = scope.params
  | .const _, _ => rfl
  | .var _, _ => rfl
  | .app _ args, scope => params_headSitesTypes place 0 args scope
  | .eq left right, scope =>
    (outside_headSites (1 :: place) right _).1.trans (outside_headSites (0 :: place) left scope).1
  | .arrow source target, scope =>
    (params_headSitesType (1 :: place) target _).trans
      (params_headSitesType (0 :: place) source scope)

theorem params_headSitesTypes (place : List Nat) (index : Nat) : (args : List Ty) →
    (scope : Scope) → (Ty.headSitesArgs place index scope args).2.params = scope.params
  | [], _ => rfl
  | arg :: args, scope =>
    (params_headSitesTypes place (index + 1) args _).trans
      (params_headSitesType (index :: place) arg scope)

end

mutual

theorem Follows.type (place : List Nat) : (type : Ty) → {scope : Scope} →
    {naming : SignatureNaming} → scope.Follows [] naming.terms →
    (type.headSites place scope).2.Follows [] (type.canonical naming).2.terms
  | .const _, _, _, follows => follows
  | .var name, scope, naming, follows => by
    have same : ((Ty.var name).canonical naming).2.terms = naming.terms :=
      Ty.terms_typeName naming name
    rw [same]
    exact follows
  | .app head args, scope, naming, follows => by
    rw [Ty.canonical_app]
    refine Follows.types place 0 args ?_
    rw [Ty.terms_headName]
    exact follows
  | .eq left right, _, _, follows =>
    Follows.term (1 :: place) right (Follows.term (0 :: place) left follows)
  | .arrow source target, _, _, follows =>
    Follows.type (1 :: place) target (Follows.type (0 :: place) source follows)

theorem Follows.types (place : List Nat) (index : Nat) : (args : List Ty) → {scope : Scope} →
    {naming : SignatureNaming} → scope.Follows [] naming.terms →
    (Ty.headSitesArgs place index scope args).2.Follows [] (Ty.canonicalArgs args naming).2.terms
  | [], _, _, follows => follows
  | arg :: args, _, _, follows =>
    Follows.types place (index + 1) args (Follows.type (index :: place) arg follows)

end

/-- The parameters to come are numbered from those that are declared. -/
theorem Follows.params : (params : List Param) → {scope : Scope} → {naming : SignatureNaming} →
    scope.Follows [] naming.terms →
    (Signature.headSitesParams scope.params.length scope params).2.Follows []
      (Signature.canonicalParams scope.params.length params naming).2.terms
  | [], _, _, follows => follows
  | param :: params, scope, naming, follows => by
    have next := Follows.type [scope.params.length] param.type (follows.declare param.name)
    have rest := Follows.params params next
    -- the type declares nothing, so the next parameter has the next number
    rw [params_headSitesType [scope.params.length] param.type (scope.declare param.name)] at rest
    exact rest

end Scope

end ProofScript
