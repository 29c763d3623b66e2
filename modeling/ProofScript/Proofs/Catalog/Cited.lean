import ProofScript.Proofs.Catalog.Laws
import ProofScript.Proofs.Evaluation.Renamed
import ProofScript.Proofs.Naming.Alike
import ProofScript.Proofs.Naming.Capture

/-!
# Signatures that are alike to a law

A signature that has the canonical form of a law is a renaming of it. For this the heads of both
have to be kept apart from generated names: those of a law are builtins, and whatever the signature
applies and has not in scope is spelled the same in the law.

What holds of a law then holds of the signature, under every environment for its parameters.
-/
namespace ProofScript

namespace Ty

mutual

/-- Whether there is an equation in the type. -/
def hasEquation : Ty → Bool
  | .const _ => false
  | .var _ => false
  | .app _ args => anyEquation args
  | .eq _ _ => true
  | .arrow source target => hasEquation source || hasEquation target

def anyEquation : List Ty → Bool
  | [] => false
  | arg :: args => hasEquation arg || anyEquation args

end

variable {related : String → String → Prop}

mutual

/-- A type without equations brings no names into scope. -/
theorem Renamed.known_eq : (type' : Ty) → {type : Ty} → {known known' : Pairs} →
    type'.hasEquation = false → type.Renamed related known type' known' → known' = known
  | .const _, _, _, _, _, renamed => by
    cases renamed
    rfl
  | .var _, _, _, _, _, renamed => by
    cases renamed
    rfl
  | .app _ args', _, _, _, without, renamed => by
    cases renamed with
    | app _ renamedArgs => exact RenamedArgs.known_eq args' without renamedArgs
  | .arrow source' target', _, _, _, without, renamed => by
    rw [hasEquation, Bool.or_eq_false_iff] at without
    cases renamed with
    | arrow renamedSource renamedTarget =>
      exact (Renamed.known_eq target' without.2 renamedTarget).trans
        (Renamed.known_eq source' without.1 renamedSource)

theorem RenamedArgs.known_eq : (args' : List Ty) → {args : List Ty} → {known known' : Pairs} →
    anyEquation args' = false → RenamedArgs related known args args' known' → known' = known
  | [], _, _, _, _, renamed => by
    cases renamed
    rfl
  | arg' :: args', _, _, _, without, renamed => by
    rw [anyEquation, Bool.or_eq_false_iff] at without
    cases renamed with
    | cons renamedArg renamedArgs =>
      exact (RenamedArgs.known_eq args' without.2 renamedArgs).trans
        (Renamed.known_eq arg' without.1 renamedArg)

end

end Ty

namespace Signature

/-- The names in scope after parameters without equations are those of the parameters. -/
theorem RenamedParams.names_eq {related : String → String → Prop} :
    (params' : List Param) → {params : List Param} → {known known' : Pairs} →
    (∀ param ∈ params', param.type.hasEquation = false) →
    RenamedParams related known params params' known' →
    known'.map Prod.fst = (params.map Param.name).reverse ++ known.map Prod.fst ∧
      known'.map Prod.snd = (params'.map Param.name).reverse ++ known.map Prod.snd
  | [], _, _, _, _, renamed => by
    cases renamed
    exact ⟨rfl, rfl⟩
  | param' :: params', _, _, _, without, renamed => by
    rw [List.forall_mem_cons] at without
    cases renamed with
    | cons renamedType renamedParams =>
      obtain ⟨left, right⟩ := RenamedParams.names_eq params' without.2 renamedParams
      rw [renamedType.known_eq _ without.1] at left right
      rw [left, right]
      simp

/-- The heads of a signature are kept apart from generated names if those of one that it is alike to
are, and are not in scope. -/
theorem apart_of_alike {signature other : Signature} (same : signature.alike other = true)
    (heads : ∀ site ∈ other.headSites, ¬ site.InScope ∧ ¬ Generated site.head) :
    Apart signature.headSites := by
  have left := signature.headSites_become
  have right := other.headSites_become
  rw [← alike_iff.mp same] at right
  generalize signature.headSites = sites at left
  generalize other.headSites = twins at right heads
  generalize signature.canonical.headSites = images at left right
  -- over the heads of both signatures at once, which stand at the same places
  induction left generalizing twins with
  | nil => exact fun _ member => by cases member
  | @cons site image sites images becomes _ ih =>
    obtain _ | ⟨becomes', right⟩ := right
    rw [List.forall_mem_cons] at heads
    refine List.forall_mem_cons.mpr ⟨fun outside => ?_, ih _ heads.2 right⟩
    -- a head that is not in scope in either signature has kept its spelling in both
    rw [← becomes.kept outside, becomes'.kept heads.1.1]
    exact heads.1.2

end Signature

namespace Catalog

/-! ### What the laws have in common -/

theorem laws_foreign : ∀ law ∈ laws, ∀ param ∈ law.params, Builtin.ofName? param.name = none := by
  decide +kernel

theorem laws_hasEquation : ∀ law ∈ laws, ∀ param ∈ law.params, param.type.hasEquation = false := by
  decide +kernel

theorem laws_headSites : ∀ law ∈ laws, ∀ site ∈ law.signature.headSites,
    ¬ site.InScope ∧ looksGenerated site.head = false := by
  decide +kernel

theorem laws_direct : ∀ law ∈ laws, law = mapIdentity ∨
    law.left.isDirect = true ∧ law.right.isDirect = true ∧
      ∀ name ∈ law.left.occurrences ++ law.right.occurrences, name ∈ law.params.map Param.name := by
  decide +kernel

/-- A signature that is alike to a law is a renaming of it. -/
theorem renamed_of_alike {law : Law} (member : law ∈ laws) {signature : Signature}
    (same : signature.alike law.signature = true) : signature.Renamed law.signature := by
  have heads := laws_headSites law member
  have ungenerated : ∀ site ∈ law.signature.headSites, ¬ Generated site.head :=
    fun site inside => not_generated_of_spelling (heads site inside).2
  refine Signature.Renamed.of_alike ?_ (fun site inside _ => ungenerated site inside) same
  exact Signature.apart_of_alike same fun site inside =>
    ⟨(heads site inside).1, ungenerated site inside⟩

end Catalog

/-- The environment binds the parameters of a signature and nothing else. -/
def Env.Binds (env : Env) (params : List Param) : Prop :=
  ∀ name, (env.find? name).isSome = true ↔ ∃ param ∈ params, param.name = name

/-- If both terms have values that are known, the values are the same. -/
def SameValues (env : Env) (left right : Term) : Prop :=
  ∀ limit v w, evaluate limit env left = .ok v → evaluate limit env right = .ok w →
    v.isUnknown = false → w.isUnknown = false → v = w

namespace Law

variable {law : Law} {known known' known'' : Pairs} {env : Env} {left right : Term}

/-- The sides of an equation that is renamed to those of a law without lambdas. -/
theorem sameValues_of_direct (holds : law.Holds)
    (foreign : ∀ param ∈ law.params, Builtin.ofName? param.name = none)
    (directLeft : law.left.isDirect = true) (directRight : law.right.isDirect = true)
    (inScope : ∀ name ∈ law.left.occurrences ++ law.right.occurrences, name ∈ known.map Prod.snd)
    (names : known.map Prod.snd = (law.params.map Param.name).reverse)
    (agree : known.Agree env (known.transport env))
    (renamedLeft : left.Renamed [] known law.left known')
    (renamedRight : right.Renamed [] known' law.right known'') : SameValues env left right := by
  intro limit v w leftValue rightValue leftKnown rightKnown
  rw [List.forall_mem_append] at inScope
  obtain ⟨same, leftEq⟩ := renamedLeft.term_eq agree law.left directLeft inScope.1
  rw [same] at renamedRight
  obtain ⟨-, rightEq⟩ := renamedRight.term_eq agree law.right directRight inScope.2
  -- what is bound now are the parameters of the law
  have foreignEnv : (known.transport env).Foreign := by
    intro name bound
    have member : name ∈ known.map Prod.snd := by
      apply Decidable.byContradiction
      intro absent
      rw [agree.right absent] at bound
      cases bound
    rw [names, List.mem_reverse] at member
    obtain ⟨param, inside, rfl⟩ := List.mem_map.mp member
    exact foreign param inside
  rw [evaluate, leftEq] at leftValue
  rw [evaluate, rightEq] at rightValue
  -- the values are what the sides of the law stand for without bounds
  apply Value.reading_injective
  exact holds _ _ _ _ (Evaluation.term_ideal foreignEnv law.left directLeft leftValue leftKnown)
    (Evaluation.term_ideal foreignEnv law.right directRight rightValue rightKnown)

/-- A lambda that returns its argument returns nothing else. -/
theorem application_identity {limit : Nat} {param : String} {item result : Value}
    (returned : (Evaluation.application limit (.lambda param (.var param) env) item :
      Except EvaluationError Value) = .ok result) : result = item := by
  cases limit with
  | zero => cases returned
  | succ limit =>
    cases returned
    rw [Evaluation.variableValue, Env.find?_insert, if_pos rfl]

/-- Mapping the identity over a variable returns the value of the variable. -/
theorem sameValues_map (unbound : env.find? "map" = none) (param name : String) :
    SameValues env (.app "map" [.lambda param (.var param), .var name]) (.var name) := by
  intro limit v w leftValue rightValue leftKnown rightKnown
  obtain ⟨args, evaluated, called⟩ := bind_eq_ok.mp leftValue
  cases evaluated
  cases rightValue
  rw [unbound] at called
  obtain ⟨-, builtin, found, ran⟩ := Evaluation.applyNamed_ok called leftKnown
  have mapped : builtin = .map := Option.some.inj (found.symm.trans (Builtin.ofName?_name .map))
  rw [mapped] at ran
  obtain ⟨items, read, ran⟩ := bind_eq_ok.mp ran
  obtain ⟨results, applied, done⟩ := bind_eq_ok.mp ran
  cases done
  rw [mapM_identity application_identity applied]
  exact (Value.reading_injective (expectList_ok read)).symm

/-- What is renamed to a variable in scope is a variable that corresponds to it. -/
theorem eq_var_of_renamed {term : Term} {name' : String} (inScope : name' ∈ known.map Prod.snd)
    (renamed : term.Renamed [] known (.var name') known') :
    ∃ name, term = .var name ∧ Paired known name name' ∧ known' = known := by
  cases renamed with
  | inScope paired => exact ⟨_, rfl, paired, rfl⟩
  | met unpaired => exact absurd inScope unpaired.2

/-- What is renamed to the identity is the identity. -/
theorem eq_identity_of_renamed {term : Term} {param' : String}
    (renamed : term.Renamed [] known (.lambda param' (.var param')) known') :
    ∃ param, term = .lambda param (.var param) ∧ known' = known := by
  cases renamed with
  | lambda renamedBody =>
    cases renamedBody with
    | inScope paired =>
      cases paired with
      | here => exact ⟨_, rfl, rfl⟩
      | there _ differs _ => exact absurd rfl differs
    | met unpaired => exact absurd List.mem_cons_self unpaired.2

theorem sameValues_of_mapIdentity (names : known.map Prod.snd = ["xs"])
    (agree : known.Agree env (known.transport env))
    (renamedLeft : left.Renamed [] known Catalog.mapIdentity.left known')
    (renamedRight : right.Renamed [] known' Catalog.mapIdentity.right known'') :
    SameValues env left right := by
  have inScope : "xs" ∈ known.map Prod.snd := names ▸ List.mem_cons_self
  have outside : "map" ∉ known.map Prod.snd := by
    rw [names]
    decide
  cases renamedLeft with
  | app heads renamedArgs =>
    obtain _ | ⟨renamedLambda, renamedRest⟩ := renamedArgs
    obtain ⟨param, rfl, rfl⟩ := eq_identity_of_renamed renamedLambda
    obtain _ | ⟨renamedItems, ⟨⟩⟩ := renamedRest
    obtain ⟨name, rfl, paired, rfl⟩ := eq_var_of_renamed inScope renamedItems
    obtain ⟨name', rfl, paired', -⟩ := eq_var_of_renamed inScope renamedRight
    rw [paired'.left_unique paired]
    -- `map` is no parameter of the law, so what is renamed to it is `map` and has no value
    rcases heads with paired | ⟨unpaired, rfl⟩
    · exact absurd paired.mem_right outside
    · exact sameValues_map (agree.left unpaired.1) param name

/-- An equation that is alike to a law has sides with the same value, whatever the values of the
parameters are. -/
theorem sameValues_of_alike (member : law ∈ Catalog.laws) {signature : Signature}
    (same : signature.alike law.signature = true) :
    ∃ left right, signature.result = .eq left right ∧
      ∀ env : Env, env.Binds signature.params → SameValues env left right := by
  obtain ⟨related, -, known, known'', renamedParams, renamedResult⟩ :=
    Catalog.renamed_of_alike member same
  obtain ⟨leftNames, rightNames⟩ :=
    renamedParams.names_eq law.params (Catalog.laws_hasEquation law member)
  obtain ⟨params, result⟩ := signature
  cases renamedResult with
  | @eq _ known' _ left _ right _ renamedLeft renamedRight =>
    refine ⟨left, right, rfl, fun env binds => ?_⟩
    have agree : known.Agree env (known.transport env) := by
      refine Pairs.agree_transport fun name => ?_
      rw [binds name, leftNames]
      simp
    rw [List.map_nil, List.append_nil] at rightNames
    -- a lambda holds names of its own, so the law with a lambda is treated on its own
    rcases Catalog.laws_direct law member with rfl | ⟨directLeft, directRight, inScope⟩
    · exact sameValues_of_mapIdentity rightNames agree renamedLeft renamedRight
    · refine sameValues_of_direct (Catalog.laws_hold law member) (Catalog.laws_foreign law member)
        directLeft directRight (fun name inside => ?_) rightNames agree renamedLeft renamedRight
      rw [rightNames, List.mem_reverse]
      exact inScope name inside

end Law

end ProofScript
