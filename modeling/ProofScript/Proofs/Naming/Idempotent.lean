import ProofScript.Proofs.Naming.TypesAlike

/-!
# Canonical names are canonical already

A signature that has canonical names keeps them when it is given canonical names once more. The walk
over the signature and the walk over its canonical form are linked as those over two signatures are,
and each link is settled: the second walk meets the name that the first one gave out, and gives out
that name again.

A head that kept its spelling may be spelled like a name that was given out, so that the second walk
takes it for something in scope where the first one did not. That makes no difference, since the
second walk replaces no name by another one.

## Main result

`Signature.canonical_idempotent`: this holds of all signatures, whatever their names are.
-/
namespace ProofScript

/-- The second walk meets the names that the first one gives out. -/
def Links.Settled (links : Links) : Prop :=
  ∀ link ∈ links, link.right = link.given

namespace Links

variable {links : Links} {name given : String}

theorem map_fst_right (links : Links) : links.right.map Prod.fst = links.map Link.right := by
  simp [right, Function.comp_def]

/-- The second walk replaces no name by another one. -/
theorem Settled.eq_of_lookup (settled : links.Settled)
    (found : links.right.lookup name = some given) : given = name := by
  obtain ⟨link, member, same⟩ := List.mem_map.mp (Renaming.mem_of_lookup_eq_some found)
  have fixed := settled link member
  simp only [Prod.mk.injEq] at same
  rw [← same.1, ← same.2, fixed]

/-- The names that the second walk knows are those that the first one has given out. -/
theorem Settled.lookup_eq_none_iff (settled : links.Settled) :
    links.right.lookup name = none ↔ name ∉ links.map Link.given := by
  have same : links.map Link.right = links.map Link.given := List.map_congr_left settled
  rw [Renaming.lookup_eq_none_iff, map_fst_right, same]

theorem Settled.lookup_of_given (settled : links.Settled) (member : given ∈ links.map Link.given) :
    links.right.lookup given = some given := by
  cases found : links.right.lookup given with
  | some other => rw [settled.eq_of_lookup found]
  | none => exact absurd member (settled.lookup_eq_none_iff.mp found)

/-- Whether a head is in scope in the second walk or not, it stays as it is. -/
theorem Settled.getD_lookup (settled : links.Settled) (name : String) :
    (links.right.lookup name).getD name = name := by
  cases found : links.right.lookup name with
  | some given => exact settled.eq_of_lookup found
  | none => rfl

theorem Settled.cons (settled : links.Settled) (name given : String) :
    Links.Settled (⟨name, given, given⟩ :: links) :=
  List.forall_mem_cons.mpr ⟨rfl, settled⟩

end Links

variable {index : Nat}

/-! ### Terms -/

/-- The second walk over terms has come out with what the first one came out with, and all names
that were given out are settled. -/
def SettledSteps {α : Type} (index : Nat) (bound : Links) (walk again : α × Naming) : Prop :=
  again.1 = walk.1 ∧
    ∃ known : Links, (bound ++ known).Settled ∧ Linked index bound known walk.2 again.2

namespace Term

theorem var_settledSteps {bound known : Links} {naming naming' : Naming}
    (linked : Linked index bound known naming naming') (settled : (bound ++ known).Settled)
    (name : String) :
    SettledSteps index bound ((Term.var name).canonical bound.left naming)
      (((Term.var name).canonical bound.left naming).1.canonical bound.right naming') := by
  have second := linked.right_scope
  cases found : (bound.left ++ naming.scope).lookup name with
  | some given =>
    -- a name that was given out is known to the second walk
    have member : given ∈ (bound ++ known).map Link.given := by
      rw [linked.left_scope] at found
      exact Links.mem_of_lookup found
    have again : (bound.right ++ naming'.scope).lookup given = some given := by
      rw [second]
      exact settled.lookup_of_given member
    rw [canonical_var_of_some found, canonical_var_of_some again]
    exact ⟨rfl, known, settled, linked⟩
  | none =>
    -- both walks take their variable for a new one, and have given out as many names before it
    have again : (bound.right ++ naming'.scope).lookup ("v" ++ toString naming.fresh) = none := by
      rw [second, settled.lookup_eq_none_iff]
      exact linked.next_unused
    rw [canonical_var_of_none found, canonical_var_of_none again]
    have met := linked.meet name ("v" ++ toString naming.fresh)
    refine ⟨by rw [linked.count], _, ?_, met⟩
    intro link member
    simp only [List.mem_append, List.mem_cons] at member
    rcases member with binder | rfl | earlier
    · exact settled link (List.mem_append_left _ binder)
    · rfl
    · exact settled link (List.mem_append_right _ earlier)

mutual

theorem settledSteps : (term : Term) → {bound known : Links} → {naming naming' : Naming} →
    Linked index bound known naming naming' → (bound ++ known).Settled →
    SettledSteps index bound (term.canonical bound.left naming)
      ((term.canonical bound.left naming).1.canonical bound.right naming')
  | .const _, _, known, _, _, linked, settled => ⟨rfl, known, settled, linked⟩
  | .var name, _, _, _, _, linked, settled => var_settledSteps linked settled name
  | .app head args, bound, known, naming, naming', linked, settled => by
    obtain ⟨same, known', settled', after⟩ := settledSteps_args args linked settled
    -- this holds of any head, also of one that only the second walk finds in scope
    have heads : ∀ name, ((bound.right ++ naming'.scope).lookup name).getD name = name := by
      rw [linked.right_scope]
      exact settled.getD_lookup
    rw [canonical_app, canonical_app, heads, same]
    exact ⟨rfl, known', settled', after⟩
  | .lambda param body, bound, known, naming, naming', linked, settled => by
    -- the binder of the canonical form has the next name already, and is given it again
    have bind := linked.bind param ("v" ++ toString naming.fresh)
    have inside := settled.cons param ("v" ++ toString naming.fresh)
    obtain ⟨same, known', settled', after⟩ := settledSteps body bind inside
    rw [canonical_lambda, canonical_lambda, ← linked.count]
    -- only the binder is dropped after the body, free variables met in it stay linked
    exact ⟨congrArg (Term.lambda _) same, known', (List.forall_mem_cons.mp settled').2,
      after.leave⟩

theorem settledSteps_args : (args : List Term) → {bound known : Links} →
    {naming naming' : Naming} → Linked index bound known naming naming' →
    (bound ++ known).Settled →
    SettledSteps index bound (canonicalArgs bound.left args naming)
      (canonicalArgs bound.right (canonicalArgs bound.left args naming).1 naming')
  | [], _, known, _, _, linked, settled => ⟨rfl, known, settled, linked⟩
  | arg :: args, bound, known, naming, naming', linked, settled => by
    obtain ⟨same, _, between, afterArg⟩ := settledSteps arg linked settled
    obtain ⟨more, known', settled', after⟩ := settledSteps_args args afterArg between
    rw [canonicalArgs_cons, canonicalArgs_cons, same, more]
    exact ⟨rfl, known', settled', after⟩

end

end Term

/-! ### Types and parameters -/

/-- The second walk over a signature has come out with what the first one came out with, and all
names that were given out are settled. -/
def SettledSignatureSteps {α : Type} (index : Nat) (walk again : α × SignatureNaming) : Prop :=
  again.1 = walk.1 ∧ ∃ types known : Links, types.Settled ∧ known.Settled ∧
    SignatureLinked index types known walk.2 again.2

namespace Ty

variable {types known : Links} {naming naming' : SignatureNaming}

theorem typeName_settledSteps (linked : SignatureLinked index types known naming naming')
    (typesSettled : types.Settled) (settled : known.Settled) (name : String) :
    SettledSignatureSteps index (naming.typeName name)
      (naming'.typeName (naming.typeName name).1) := by
  have second := linked.types.right
  cases found : naming.types.lookup name with
  | some given =>
    have member : given ∈ types.map Link.given := by
      rw [linked.types.left] at found
      exact Links.mem_of_lookup found
    have again : naming'.types.lookup given = some given := by
      rw [second]
      exact typesSettled.lookup_of_given member
    rw [SignatureLinked.typeName_of_some found, SignatureLinked.typeName_of_some again]
    exact ⟨rfl, types, known, typesSettled, settled, linked⟩
  | none =>
    -- as many type variables have been met by both walks, so the next number is the same
    have length := linked.types.length_left
    have again : naming'.types.lookup ("t" ++ toString naming.types.length) = none := by
      rw [second, typesSettled.lookup_eq_none_iff, length]
      exact linked.types.next_unused
    obtain ⟨same, after⟩ := linked.extend found again
    have given : (naming.typeName name).1 = "t" ++ toString naming.types.length := by
      rw [SignatureLinked.typeName_of_none found]
    rw [given]
    refine ⟨same.symm, _, known, ?_, settled, after⟩
    intro link member
    rcases List.mem_append.mp member with earlier | last
    · exact typesSettled link earlier
    · rw [List.mem_singleton.mp last, length]

theorem headName_settledSteps (linked : SignatureLinked index types known naming naming')
    (typesSettled : types.Settled) (settled : known.Settled) (head : String) :
    SettledSignatureSteps index (headName head naming)
      (headName (headName head naming).1 naming') := by
  cases constant : isTypeConstant head with
  | true =>
    simp only [headName, constant, if_true]
    exact ⟨rfl, types, known, typesSettled, settled, linked⟩
  | false =>
    -- the name of a variable is no constant, so that the second walk has a variable there too
    have variableName := linked.isTypeConstant_left head
    simp only [headName, constant, variableName, Bool.false_eq_true, if_false]
    exact typeName_settledSteps linked typesSettled settled head

mutual

theorem settledSteps : (type : Ty) → {types known : Links} → {naming naming' : SignatureNaming} →
    SignatureLinked index types known naming naming' → types.Settled → known.Settled →
    SettledSignatureSteps index (type.canonical naming)
      ((type.canonical naming).1.canonical naming')
  | .const _, types, known, _, _, linked, typesSettled, settled =>
    ⟨rfl, types, known, typesSettled, settled, linked⟩
  | .var name, _, _, _, _, linked, typesSettled, settled => by
    obtain ⟨same, after⟩ := typeName_settledSteps linked typesSettled settled name
    exact ⟨congrArg Ty.var same, after⟩
  | .app head args, _, _, _, _, linked, typesSettled, settled => by
    obtain ⟨same, _, _, typesBetween, between, afterHead⟩ :=
      headName_settledSteps linked typesSettled settled head
    obtain ⟨more, after⟩ := settledSteps_args args afterHead typesBetween between
    rw [canonical_app, canonical_app, same, more]
    exact ⟨rfl, after⟩
  | .eq left right, types, _, _, _, linked, typesSettled, settled => by
    obtain ⟨same, _, between, afterLeft⟩ := left.settledSteps linked.terms settled
    obtain ⟨more, known', settled', after⟩ := right.settledSteps afterLeft between
    exact ⟨congrArg₂ Ty.eq same more, types, known', typesSettled, settled', linked.types, after⟩
  | .arrow source target, _, _, _, _, linked, typesSettled, settled => by
    obtain ⟨same, _, _, typesBetween, between, afterSource⟩ :=
      settledSteps source linked typesSettled settled
    obtain ⟨more, after⟩ := settledSteps target afterSource typesBetween between
    exact ⟨congrArg₂ Ty.arrow same more, after⟩

theorem settledSteps_args : (args : List Ty) → {types known : Links} →
    {naming naming' : SignatureNaming} → SignatureLinked index types known naming naming' →
    types.Settled → known.Settled →
    SettledSignatureSteps index (canonicalArgs args naming)
      (canonicalArgs (canonicalArgs args naming).1 naming')
  | [], types, known, _, _, linked, typesSettled, settled =>
    ⟨rfl, types, known, typesSettled, settled, linked⟩
  | arg :: args, _, _, _, _, linked, typesSettled, settled => by
    obtain ⟨same, _, _, typesBetween, between, afterArg⟩ :=
      settledSteps arg linked typesSettled settled
    obtain ⟨more, after⟩ := settledSteps_args args afterArg typesBetween between
    exact ⟨congrArg₂ List.cons same more, after⟩

end

end Ty

namespace Signature

theorem settledSteps_params : (params : List Param) → {index : Nat} → {types known : Links} →
    {naming naming' : SignatureNaming} → SignatureLinked index types known naming naming' →
    types.Settled → known.Settled →
    ∃ index', SettledSignatureSteps index' (canonicalParams index params naming)
      (canonicalParams index (canonicalParams index params naming).1 naming')
  | [], index, types, known, _, _, linked, typesSettled, settled =>
    ⟨index, rfl, types, known, typesSettled, settled, linked⟩
  | param :: params, index, _, known, _, _, linked, typesSettled, settled => by
    -- the canonical form declares the name that the parameter was given
    have declared := linked.declare param.name ("p" ++ toString index)
    have inside := settled.cons param.name ("p" ++ toString index)
    obtain ⟨same, _, _, typesBetween, between, afterType⟩ :=
      param.type.settledSteps declared typesSettled inside
    obtain ⟨index', more, after⟩ := settledSteps_params params afterType typesBetween between
    exact ⟨index', congrArg₂ List.cons (congrArg (Param.mk _) same) more, after⟩

/-- Canonical names are given out once: the canonical form of a signature has canonical names. -/
theorem canonical_idempotent (signature : Signature) :
    signature.canonical.canonical = signature.canonical := by
  have none : ∀ link ∈ ([] : Links), link.right = link.given := List.forall_mem_nil _
  obtain ⟨_, params, _, _, typesSettled, settled, linked⟩ :=
    settledSteps_params signature.params SignatureLinked.empty none none
  obtain ⟨result, -⟩ := signature.result.settledSteps linked typesSettled settled
  exact congrArg₂ Signature.mk params result

/-- Spelled like canonical names, and a head `p0` that the canonical form takes for the parameter. -/
example :
    let signature : Signature := ⟨[⟨"v0", .app "t1" [.var "t0"]⟩, ⟨"v0", .var "t0"⟩],
      .eq (.app "p0" [.lambda "p1" (.var "v1"), .var "v0"]) (.var "p0")⟩
    signature.canonical.canonical = signature.canonical ∧
      signature.canonical.result =
        .eq (.app "p0" [.lambda "v0" (.var "v1"), .var "p1"]) (.var "v2") := by
  decide +kernel

end Signature

end ProofScript
