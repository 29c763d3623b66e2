import Mathlib.Data.List.Forall2
import ProofScript.Proofs.Naming.Scope
import ProofScript.Proofs.Reading

/-!
# Heads under canonical names

A head that is in scope gets the canonical name of what it stands for, and a head that is not keeps
its spelling. Since nothing keeps the two apart, a head that is spelled like a canonical name can be
captured: it then stands for a parameter, a binder or a free variable in the canonical form. This
happens precisely if its spelling is the canonical name of something that is in scope there.

The canonical form is walked once more by `headSites` to find out what is in scope in it. That walk
goes through the scopes of the first one, with the names replaced (`Scope.renamed`).
-/
namespace ProofScript

namespace Scope

/-- The scope with the names that it has in the canonical form. -/
def renamed (scope : Scope) : Scope where
  params := scope.paramNames.reverse
  binders := scope.binders.map fun entry => ("v" ++ toString entry.2, entry.2)
  free := scope.free.map fun entry => ("v" ++ toString entry.2, entry.2)
  count := scope.count

theorem mem_names_renamed (scope : Scope) (name : String) :
    name ∈ scope.renamed.names ↔ name ∈ scope.given := by
  have numbered : ∀ entries : List (String × Nat),
      (entries.map fun entry => ("v" ++ toString entry.2, entry.2)).map Prod.fst =
        variableNames entries := by
    intro entries
    rw [List.map_map]
    rfl
  rw [names, given, renamed, numbered, numbered, List.mem_append, List.mem_append,
    List.mem_append, List.mem_append, List.mem_reverse]

theorem renamed_declare (scope : Scope) (name : String) :
    (scope.declare name).renamed = scope.renamed.declare ("p" ++ toString scope.params.length) := by
  simp [renamed, declare, paramNames, List.range_succ]

theorem renamed_leave (scope outer : Scope) :
    (scope.leave outer).renamed = scope.renamed.leave outer.renamed := rfl

end Scope

namespace HeadSite

/-- What canonical names make of a head: it stays at its place, the scope there is renamed, it keeps
its spelling if it was not in scope, and it is in scope if it was. -/
structure Becomes (site image : HeadSite) : Prop where
  place : image.place = site.place
  scope : image.scope = site.scope.renamed
  kept : ¬ site.InScope → image.head = site.head
  inScope : site.InScope → image.InScope

variable {site image : HeadSite}

/-- A head is captured if and only if it is spelled like something given out to what is in scope. -/
theorem Becomes.captured_iff (becomes : site.Becomes image) (outside : ¬ site.InScope) :
    image.InScope ↔ site.head ∈ site.scope.given := by
  rw [InScope, becomes.kept outside, becomes.scope, Scope.mem_names_renamed]

end HeadSite

/-- The heads found by one walk, and the scope after it, become those of another. -/
def HeadsBecome (walk image : List HeadSite × Scope) : Prop :=
  List.Forall₂ HeadSite.Becomes walk.1 image.1 ∧ image.2 = walk.2.renamed

namespace Scope

variable {scope : Scope} {bound : Renaming} {naming : Naming}

theorem Follows.becomes (follows : scope.Follows bound naming) (place : List Nat) (head : String) :
    HeadSite.Becomes ⟨place, head, scope⟩
      ⟨place, ((bound ++ naming.scope).lookup head).getD head, scope.renamed⟩ where
  place := rfl
  scope := rfl
  kept outside := by
    rw [follows.lookup_eq_none_iff.mpr outside]
    rfl
  inScope inside := by
    cases found : (bound ++ naming.scope).lookup head with
    | none => exact absurd inside (follows.lookup_eq_none_iff.mp found)
    | some given => exact (mem_names_renamed scope given).mpr (follows.mem_given found)

/-- The canonical form of a variable is in scope in it if the variable is, and is a new free
variable otherwise. -/
theorem Follows.meet_becomes (follows : scope.Follows bound naming) (place : List Nat)
    (name : String) :
    HeadsBecome ((Term.var name).headSites place scope)
      (((Term.var name).canonical bound naming).1.headSites place scope.renamed) := by
  cases found : (bound ++ naming.scope).lookup name with
  | some given =>
    have inside := (mem_names_renamed scope given).mpr (follows.mem_given found)
    rw [Term.canonical_var_of_some found, Term.headSites, Scope.meet,
      if_pos (follows.mem_names found), Term.headSites, Scope.meet, if_pos inside]
    exact ⟨.nil, rfl⟩
  | none =>
    have absent : "v" ++ toString scope.count ∉ scope.renamed.names := by
      rw [mem_names_renamed]
      exact follows.next_not_mem_given
    rw [Term.canonical_var_of_none found, Term.headSites, Scope.meet,
      if_neg (follows.lookup_eq_none_iff.mp found), Term.headSites, follows.count, Scope.meet,
      if_neg absent]
    exact ⟨.nil, rfl⟩

mutual

theorem Follows.term_becomes (place : List Nat) : (term : Term) → {scope : Scope} →
    {bound : Renaming} → {naming : Naming} → scope.Follows bound naming →
    HeadsBecome (term.headSites place scope)
      ((term.canonical bound naming).1.headSites place scope.renamed)
  | .const _, _, _, _, _ => ⟨.nil, rfl⟩
  | .var name, _, _, _, follows => follows.meet_becomes place name
  | .app head args, scope, bound, naming, follows => by
    obtain ⟨sites, after⟩ := Follows.args_becomes place 0 args follows
    exact ⟨.cons (follows.becomes place head) sites, after⟩
  | .lambda param body, scope, bound, naming, follows => by
    obtain ⟨sites, after⟩ := Follows.term_becomes (0 :: place) body (follows.bind param)
    -- the binder is renamed to the name that carries its number
    have binds : (scope.bind param).renamed =
        scope.renamed.bind ("v" ++ toString naming.fresh) := by
      rw [follows.count]
      rfl
    rw [binds] at sites after
    rw [Term.canonical_lambda, Term.headSites_lambda, Term.headSites_lambda]
    exact ⟨sites, by rw [after, renamed_leave]⟩

theorem Follows.args_becomes (place : List Nat) (index : Nat) : (args : List Term) →
    {scope : Scope} → {bound : Renaming} → {naming : Naming} → scope.Follows bound naming →
    HeadsBecome (Term.headSitesArgs place index scope args)
      (Term.headSitesArgs place index scope.renamed (Term.canonicalArgs bound args naming).1)
  | [], _, _, _, _ => ⟨.nil, rfl⟩
  | arg :: args, scope, bound, naming, follows => by
    obtain ⟨sites, after⟩ := Follows.term_becomes (index :: place) arg follows
    obtain ⟨more, last⟩ :=
      Follows.args_becomes place (index + 1) args (Follows.term (index :: place) arg follows)
    -- the canonical form of the rest is walked from the renamed scope after the first argument
    rw [Term.canonicalArgs_cons, Term.headSitesArgs_cons, Term.headSitesArgs_cons, after]
    exact ⟨List.rel_append sites more, last⟩

end

/-! ### Types and signatures -/

mutual

theorem Follows.type_becomes (place : List Nat) : (type : Ty) → {scope : Scope} →
    {naming : SignatureNaming} → scope.Follows [] naming.terms →
    HeadsBecome (type.headSites place scope)
      ((type.canonical naming).1.headSites place scope.renamed)
  | .const _, _, _, _ => ⟨.nil, rfl⟩
  | .var _, _, _, _ => ⟨.nil, rfl⟩
  | .app head args, scope, naming, follows => by
    have named : scope.Follows [] (Ty.headName head naming).2.terms := by
      rw [Ty.terms_headName]
      exact follows
    exact Follows.types_becomes place 0 args named
  | .eq left right, scope, naming, follows => by
    obtain ⟨sites, after⟩ := Follows.term_becomes (0 :: place) left follows
    obtain ⟨more, last⟩ :=
      Follows.term_becomes (1 :: place) right (Follows.term (0 :: place) left follows)
    rw [← after] at more last
    exact ⟨List.rel_append sites more, last⟩
  | .arrow source target, scope, naming, follows => by
    obtain ⟨sites, after⟩ := Follows.type_becomes (0 :: place) source follows
    obtain ⟨more, last⟩ :=
      Follows.type_becomes (1 :: place) target (Follows.type (0 :: place) source follows)
    rw [← after] at more last
    exact ⟨List.rel_append sites more, last⟩

theorem Follows.types_becomes (place : List Nat) (index : Nat) : (args : List Ty) →
    {scope : Scope} → {naming : SignatureNaming} → scope.Follows [] naming.terms →
    HeadsBecome (Ty.headSitesArgs place index scope args)
      (Ty.headSitesArgs place index scope.renamed (Ty.canonicalArgs args naming).1)
  | [], _, _, _ => ⟨.nil, rfl⟩
  | arg :: args, scope, naming, follows => by
    obtain ⟨sites, after⟩ := Follows.type_becomes (index :: place) arg follows
    obtain ⟨more, last⟩ :=
      Follows.types_becomes place (index + 1) args (Follows.type (index :: place) arg follows)
    rw [← after] at more last
    exact ⟨List.rel_append sites more, last⟩

end

theorem Follows.params_becomes : (params : List Param) → {scope : Scope} →
    {naming : SignatureNaming} → scope.Follows [] naming.terms →
    HeadsBecome (Signature.headSitesParams scope.params.length scope params)
      (Signature.headSitesParams scope.params.length scope.renamed
        (Signature.canonicalParams scope.params.length params naming).1)
  | [], _, _, _ => ⟨.nil, rfl⟩
  | param :: params, scope, naming, follows => by
    have declared := follows.declare param.name
    obtain ⟨sites, after⟩ := Follows.type_becomes [scope.params.length] param.type declared
    have next := Follows.type [scope.params.length] param.type declared
    have rest := Follows.params_becomes params next
    rw [params_headSitesType [scope.params.length] param.type (scope.declare param.name), ← after,
      renamed_declare] at rest
    rw [renamed_declare] at sites
    exact ⟨List.rel_append sites rest.1, rest.2⟩

end Scope

namespace Signature

/-- What becomes of all heads of a signature. -/
theorem headSites_become (signature : Signature) :
    List.Forall₂ HeadSite.Becomes signature.headSites signature.canonical.headSites := by
  obtain ⟨sites, after⟩ :=
    Scope.Follows.params_becomes signature.params Scope.Follows.empty
  obtain ⟨more, -⟩ := Scope.Follows.type_becomes [signature.params.length] signature.result
    (Scope.Follows.params signature.params Scope.Follows.empty)
  have length : signature.canonical.params.length = signature.params.length :=
    length_canonicalParams signature.params 0 .empty
  rw [headSites, headSites, length]
  rw [← after] at more
  exact List.rel_append sites more

/-- Heads that become the same heads stand at the same places, and one that is not in scope is
captured if its twin is in scope. -/
private theorem twins_of_become {sites twins images : List HeadSite}
    (left : List.Forall₂ HeadSite.Becomes sites images)
    (right : List.Forall₂ HeadSite.Becomes twins images) :
    List.Forall₂
      (fun site twin => twin.place = site.place ∧
        (¬ site.InScope → twin.InScope → site.head ∈ site.scope.given)) sites twins := by
  -- what a twin in scope becomes is in scope, and it is what the head becomes as well
  induction left generalizing twins with
  | nil =>
    cases right
    exact .nil
  | cons becomes _ ih =>
    obtain _ | ⟨becomes', right⟩ := right
    refine .cons ⟨becomes'.place.symm.trans becomes.place, fun outside inside => ?_⟩ (ih right)
    exact (becomes.captured_iff outside).mp (becomes'.inScope inside)

/-- A head that is not in scope keeps its spelling, and it comes into scope precisely if that is the
canonical name of something in scope. Nothing else makes two signatures alike of which one applies
an unknown function where the other applies something in scope. -/
theorem canonical_captures_iff (signature : Signature) :
    List.Forall₂
        (fun site image => image.place = site.place ∧
          (¬ site.InScope → image.head = site.head ∧
            (image.InScope ↔ site.head ∈ site.scope.given)))
        signature.headSites signature.canonical.headSites ∧
      ∀ other : Signature, signature.alike other = true →
        List.Forall₂
          (fun site twin => twin.place = site.place ∧
            (¬ site.InScope → twin.InScope → site.head ∈ site.scope.given))
          signature.headSites other.headSites := by
  constructor
  · refine signature.headSites_become.imp fun site image becomes => ⟨becomes.place, ?_⟩
    exact fun outside => ⟨becomes.kept outside, becomes.captured_iff outside⟩
  · intro other same
    have right := other.headSites_become
    rw [← alike_iff.mp same] at right
    exact twins_of_become signature.headSites_become right

/-- A signature that declares `function` and a number, and applies `head` to the number. -/
def applying (function head : String) : Signature :=
  ⟨[⟨function, .arrow (.const "Nat") (.const "Nat")⟩, ⟨"n", .const "Nat"⟩],
    .eq (.app head [.var "n"]) (.var "n")⟩

theorem canonical_captures_iff_p0 :
    (applying "g" "p0").alike (applying "f" "f") = true ∧
      List.Forall₂
        (fun site twin => twin.place = site.place ∧
          (¬ site.InScope → twin.InScope → site.head ∈ site.scope.given))
        (applying "g" "p0").headSites (applying "f" "f").headSites := by
  have same : (applying "g" "p0").alike (applying "f" "f") = true := by decide +kernel
  exact ⟨same, (canonical_captures_iff _).2 _ same⟩

/-- A parameter is applied in the first signature and an unknown function `p0` at the same place in
the second, where it is captured by the canonical name of the parameter `g`. -/
theorem alike_captures_unknown :
    Signature.parse "(f : Nat -> Nat) -> (n : Nat) -> f n = n" = .ok (applying "f" "f") ∧
      Signature.parse "(g : Nat -> Nat) -> (n : Nat) -> p0 n = n" = .ok (applying "g" "p0") ∧
      (applying "f" "f").alike (applying "g" "p0") = true ∧
      (∃ site, (applying "f" "f").headSites = [site] ∧ site.InScope) ∧
      (∃ site, (applying "g" "p0").headSites = [site] ∧ ¬ site.InScope) ∧
      ∃ site, (applying "g" "p0").canonical.headSites = [site] ∧ site.InScope := by
  refine ⟨Signature.parse_ofList _ (by decide +kernel),
    Signature.parse_ofList _ (by decide +kernel), by decide +kernel,
    ⟨_, rfl, ?_⟩, ⟨_, rfl, ?_⟩, ⟨_, rfl, ?_⟩⟩
  all_goals decide +kernel

end Signature

end ProofScript
