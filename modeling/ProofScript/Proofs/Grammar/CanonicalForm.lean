import ProofScript.Proofs.Grammar.PrintedSignature
import ProofScript.Proofs.Naming.TypesAlike

/-!
# Canonical forms can be written down

Canonical names are names of variables, of terms and of types, and nothing else of a signature is
changed by giving them out. So the canonical form of a well-formed signature is well formed.

Its parameters are all printed with their names, since none of these looks like a positional one.
What is printed for it is therefore read as the canonical form itself, also if the signature has
parameters that look positional.

## Main results

`Signature.WellFormed.canonical`: canonical forms are well formed.

`Signature.parse_render_canonical`: the canonical form of what was read is read from its own text.
-/
namespace ProofScript

/-! ### Generated names -/

theorem Generated.isName {name : String} (generated : Generated name) : IsName name := by
  have param : IsName "p" := ⟨by decide, by decide⟩
  have variableName : IsName "v" := ⟨by decide, by decide⟩
  obtain ⟨number, rfl | rfl⟩ := generated
  · exact param.numbered number
  · exact variableName.numbered number

theorem Generated.isTermConstant {name : String} (generated : Generated name) :
    isTermConstant name = false := by
  obtain ⟨number, rfl | rfl⟩ := generated
  · exact isTermConstant_numbered (by decide) (by decide +kernel) number
  · exact isTermConstant_numbered (by decide) (by decide +kernel) number

theorem generated_param (number : Nat) : Generated ("p" ++ toString number) :=
  ⟨number, .inl rfl⟩

theorem generated_variable (number : Nat) : Generated ("v" ++ toString number) :=
  ⟨number, .inr rfl⟩

/-- A name in scope is replaced by a generated one. -/
theorem Scope.Follows.generated {scope : Scope} {bound : Renaming} {naming : Naming}
    (follows : scope.Follows bound naming) {name given : String}
    (found : (bound ++ naming.scope).lookup name = some given) : Generated given := by
  have numbered : ∀ entries : List (String × Nat), given ∈ variableNames entries →
      Generated given := by
    intro entries member
    obtain ⟨entry, -, rfl⟩ := List.mem_map.mp member
    exact generated_variable entry.2
  have member := follows.mem_given found
  simp only [Scope.given, List.mem_append] at member
  rcases member with param | binder | free
  · obtain ⟨index, -, rfl⟩ := List.mem_map.mp param
    exact generated_param index
  · exact numbered _ binder
  · exact numbered _ free

/-! ### Terms -/

namespace Term

theorem canonicalArgs_ne_nil {args : List Term} (several : args ≠ []) (bound : Renaming)
    (naming : Naming) : (canonicalArgs bound args naming).1 ≠ [] := by
  obtain ⟨arg, others, rfl⟩ := List.exists_cons_of_ne_nil several
  simp [canonicalArgs_cons]

/-- What a head is replaced by is a name, and so is a head that is not replaced. -/
theorem isName_head {scope : Scope} {bound : Renaming} {naming : Naming}
    (follows : scope.Follows bound naming) {head : String} (isName : IsName head) :
    IsName (((bound ++ naming.scope).lookup head).getD head) := by
  cases found : (bound ++ naming.scope).lookup head with
  | some given => exact (follows.generated found).isName
  | none => exact isName

theorem wellFormed_canonical_var {scope : Scope} {bound : Renaming} {naming : Naming}
    (follows : scope.Follows bound naming) (name : String) :
    ((Term.var name).canonical bound naming).1.WellFormed := by
  cases found : (bound ++ naming.scope).lookup name with
  | some given =>
    have generated := follows.generated found
    rw [canonical_var_of_some found]
    exact ⟨generated.isName, generated.isTermConstant⟩
  | none =>
    have generated := generated_variable naming.fresh
    rw [canonical_var_of_none found]
    exact ⟨generated.isName, generated.isTermConstant⟩

mutual

theorem wellFormed_canonical : (term : Term) → {scope : Scope} → {bound : Renaming} →
    {naming : Naming} → scope.Follows bound naming → term.WellFormed →
    (term.canonical bound naming).1.WellFormed
  | .const _, _, _, _, _, wellFormed => wellFormed
  | .var name, _, _, _, follows, _ => wellFormed_canonical_var follows name
  | .app head args, scope, bound, naming, follows, wellFormed => by
    obtain ⟨isName, several, inside⟩ := wellFormed
    have arguments := wellFormed_canonicalArgs args follows inside
    exact ⟨isName_head follows isName, canonicalArgs_ne_nil several bound naming, arguments⟩
  | .lambda param body, scope, bound, naming, follows, wellFormed => by
    obtain ⟨-, -, inside⟩ := wellFormed
    -- what the binder was called before does not matter
    have generated := generated_variable naming.fresh
    have bodies := wellFormed_canonical body (follows.bind param) inside
    exact ⟨generated.isName, generated.isTermConstant, bodies⟩

theorem wellFormed_canonicalArgs : (args : List Term) → {scope : Scope} → {bound : Renaming} →
    {naming : Naming} → scope.Follows bound naming → WellFormedArgs args →
    WellFormedArgs (canonicalArgs bound args naming).1
  | [], _, _, _, _, _ => trivial
  | arg :: args, _, _, _, follows, wellFormed => by
    have first := wellFormed_canonical arg follows wellFormed.1
    -- the others are walked with what is in scope after the first one
    have after := follows.term [] arg
    exact ⟨first, wellFormed_canonicalArgs args after wellFormed.2⟩

end

end Term

/-! ### Types -/

/-- The names given to type variables so far are numbered ones. -/
def SignatureNaming.TypesNumbered (naming : SignatureNaming) : Prop :=
  ∀ entry ∈ naming.types, ∃ number : Nat, entry.2 = "t" ++ toString number

namespace Ty

variable {naming : SignatureNaming} {scope : Scope}

theorem typeName_numbered (numbered : naming.TypesNumbered) (name : String) :
    (∃ number : Nat, (naming.typeName name).1 = "t" ++ toString number) ∧
      (naming.typeName name).2.TypesNumbered := by
  cases found : naming.types.lookup name with
  | some given =>
    rw [SignatureLinked.typeName_of_some found]
    exact ⟨numbered _ (Renaming.mem_of_lookup_eq_some found), numbered⟩
  | none =>
    rw [SignatureLinked.typeName_of_none found]
    refine ⟨⟨_, rfl⟩, ?_⟩
    intro entry member
    rcases List.mem_append.mp member with earlier | last
    · exact numbered entry earlier
    · exact ⟨_, congrArg Prod.snd (List.mem_singleton.mp last)⟩

theorem isName_numbered (number : Nat) : IsName ("t" ++ toString number) :=
  IsName.numbered ⟨by decide, by decide⟩ number

theorem headName_numbered (numbered : naming.TypesNumbered) {head : String}
    (isName : IsName head) :
    IsName (headName head naming).1 ∧ (headName head naming).2.TypesNumbered := by
  unfold headName
  split
  · exact ⟨isName, numbered⟩
  · obtain ⟨⟨number, spelled⟩, after⟩ := typeName_numbered numbered head
    rw [spelled]
    exact ⟨isName_numbered number, after⟩

theorem canonicalArgs_ne_nil {args : List Ty} (several : args ≠ []) (naming : SignatureNaming) :
    (canonicalArgs args naming).1 ≠ [] := by
  obtain ⟨arg, others, rfl⟩ := List.exists_cons_of_ne_nil several
  simp [canonicalArgs]

mutual

theorem wellFormed_canonical : (type : Ty) → {scope : Scope} → {naming : SignatureNaming} →
    scope.Follows [] naming.terms → naming.TypesNumbered → type.WellFormed →
    (type.canonical naming).1.WellFormed ∧ (type.canonical naming).2.TypesNumbered
  | .const _, _, _, _, numbered, wellFormed => ⟨wellFormed, numbered⟩
  | .var name, _, _, _, numbered, _ => by
    obtain ⟨⟨number, spelled⟩, after⟩ := typeName_numbered numbered name
    have isVariable : WellFormed (.var ("t" ++ toString number)) :=
      ⟨isName_numbered number, isTypeConstant_numbered number⟩
    rw [← spelled] at isVariable
    exact ⟨isVariable, after⟩
  | .app head args, scope, naming, follows, numbered, wellFormed => by
    obtain ⟨isName, several, inside⟩ := wellFormed
    obtain ⟨isHead, afterHead⟩ := headName_numbered numbered isName
    -- naming the head of a type leaves the names of terms as they are
    rw [← terms_headName head] at follows
    obtain ⟨arguments, after⟩ := wellFormed_canonicalArgs args follows afterHead inside
    exact ⟨⟨isHead, canonicalArgs_ne_nil several _, arguments⟩, after⟩
  | .eq left right, _, _, follows, numbered, wellFormed => by
    have leftForm := left.wellFormed_canonical follows wellFormed.1
    have rightForm := right.wellFormed_canonical (follows.term [] left) wellFormed.2
    exact ⟨⟨leftForm, rightForm⟩, numbered⟩
  | .arrow source target, _, _, follows, numbered, wellFormed => by
    obtain ⟨sourceForm, between⟩ := wellFormed_canonical source follows numbered wellFormed.1
    obtain ⟨targetForm, after⟩ :=
      wellFormed_canonical target (follows.type [] source) between wellFormed.2
    exact ⟨⟨sourceForm, targetForm⟩, after⟩

theorem wellFormed_canonicalArgs : (args : List Ty) → {scope : Scope} →
    {naming : SignatureNaming} → scope.Follows [] naming.terms → naming.TypesNumbered →
    WellFormedArgs args →
    WellFormedArgs (canonicalArgs args naming).1 ∧ (canonicalArgs args naming).2.TypesNumbered
  | [], _, _, _, numbered, _ => ⟨trivial, numbered⟩
  | arg :: args, _, _, follows, numbered, wellFormed => by
    obtain ⟨first, between⟩ := wellFormed_canonical arg follows numbered wellFormed.1
    obtain ⟨others, after⟩ :=
      wellFormed_canonicalArgs args (follows.type [] arg) between wellFormed.2
    exact ⟨⟨first, others⟩, after⟩

end

end Ty

/-! ### Signatures -/

namespace Signature

/-- The parameters of a canonical form are numbered in their order. -/
theorem map_name_canonicalParams (params : List Param) (index : Nat) (naming : SignatureNaming) :
    (canonicalParams index params naming).1.map Param.name =
      (List.range' index params.length).map fun number => "p" ++ toString number := by
  induction params generalizing index naming with
  | nil => rfl
  | cons param params ih =>
    rw [List.length_cons, List.range'_succ, List.map_cons, ← ih]
    rfl

theorem nodup_canonicalParams (params : List Param) (index : Nat) (naming : SignatureNaming) :
    ((canonicalParams index params naming).1.map Param.name).Nodup := by
  rw [map_name_canonicalParams]
  have numbers : (List.range' index params.length).Nodup := List.nodup_range' 1
  exact numbers.map fun _ _ same => numbered_injective "p" same

/-- No parameter of a canonical form looks positional. -/
theorem named_canonicalParams {params : List Param} {index : Nat} {naming : SignatureNaming}
    {param : Param} (member : param ∈ (canonicalParams index params naming).1) :
    param.isAnonymous = false := by
  have among := List.mem_map_of_mem (f := Param.name) member
  rw [map_name_canonicalParams] at among
  obtain ⟨number, -, spelled⟩ := List.mem_map.mp among
  -- the names of parameters without names begin with an underscore
  rw [Param.isAnonymous, ← spelled, String.toList_append]
  rfl

theorem wellFormed_canonicalParams : (params : List Param) → {scope : Scope} →
    {naming : SignatureNaming} → scope.Follows [] naming.terms → naming.TypesNumbered →
    (∀ param ∈ params, param.WellFormed) →
    (∀ param ∈ (canonicalParams scope.params.length params naming).1, param.WellFormed) ∧
      (canonicalParams scope.params.length params naming).2.TypesNumbered
  | [], _, _, _, numbered, _ => ⟨List.forall_mem_nil _, numbered⟩
  | param :: params, scope, naming, follows, numbered, wellFormed => by
    rw [List.forall_mem_cons] at wellFormed
    have declared := follows.declare param.name
    have generated := generated_param scope.params.length
    obtain ⟨type, between⟩ :=
      param.type.wellFormed_canonical declared numbered wellFormed.1.type
    have rest := wellFormed_canonicalParams params
      (declared.type [scope.params.length] param.type) between wellFormed.2
    -- the type declares nothing, so the next parameter has the next number
    rw [Scope.params_headSitesType] at rest
    exact ⟨List.forall_mem_cons.mpr ⟨⟨generated.isName, generated.isTermConstant, type⟩, rest.1⟩,
      rest.2⟩

theorem WellFormed.canonical {signature : Signature} (wellFormed : signature.WellFormed) :
    signature.canonical.WellFormed := by
  have none : SignatureNaming.empty.TypesNumbered := List.forall_mem_nil _
  obtain ⟨params, numbered⟩ :=
    wellFormed_canonicalParams signature.params Scope.Follows.empty none wellFormed.params
  have follows := Scope.Follows.params signature.params Scope.Follows.empty
  have result := signature.result.wellFormed_canonical follows numbered wellFormed.result
  refine ⟨params, nodup_canonicalParams signature.params 0 .empty, result.1, ?_⟩
  -- a canonical form that ends in a function type is that of such a signature
  intro source target ends
  obtain ⟨source', target', same⟩ := Ty.eq_arrow_of_canonical ends
  exact wellFormed.ends source' target' same

/-- The canonical form of a signature that was read is read from what is printed for it. -/
theorem parse_render_canonical {text : String} {signature : Signature}
    (parsed : Signature.parse text = .ok signature) :
    Signature.parse signature.canonical.render = .ok signature.canonical := by
  have wellFormed := (wellFormed_of_parse parsed).canonical
  have named : ∀ param ∈ signature.canonical.params, param.isAnonymous = false :=
    fun _ member => named_canonicalParams member
  -- all parameters are printed with their names, so none is numbered by its position
  have params : signature.canonical.params =
      signature.canonical.params ++ Grammar.anonymousParams 0 [] := (List.append_nil _).symm
  exact wellFormed.parse_render_self params named

/-- Declared parameters that look positional, one of them before one that does not, a type variable
as a head, and free variables inside and outside of a lambda. -/
def mixedParams : Signature where
  params := [⟨"_param_1", .app "m" [.var "a"]⟩, ⟨"f", .arrow (.var "a") (.var "b")⟩,
    ⟨"_param_0", .eq (.app "f" [.var "x"]) (.var "y")⟩]
  result := .eq (.app "map" [.lambda "x" (.app "g" [.var "x", .var "z"]), .var "_param_1"])
    (.app "p0" [.var "y"])

theorem parse_render_canonical_mixedParams :
    Signature.parse
        "(_param_1 : m a) -> (f : a -> b) -> (f x = y) -> map (\\x => g x z) _param_1 = p0 y" =
      .ok mixedParams ∧
    Signature.parse mixedParams.canonical.render = .ok mixedParams.canonical := by
  have parsed : Signature.parse
      "(_param_1 : m a) -> (f : a -> b) -> (f x = y) -> map (\\x => g x z) _param_1 = p0 y" =
      .ok mixedParams := Signature.parse_ofList _ (by decide +kernel)
  exact ⟨parsed, parse_render_canonical parsed⟩

end Signature

end ProofScript
