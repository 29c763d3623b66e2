import ProofScript.Proofs.Evaluation.Renamed
import ProofScript.Proofs.Naming.Alike

/-!
# Variants of a signature

A variant of a signature has other names for its parameters, for the binders of its lambdas and for
its type variables, and is the same otherwise. In particular the heads of applications are never
renamed, and none of them is bound in the variant.

This is less than a consistent renaming allows: there a head that is in scope is renamed along with
what it stands for, and so is a free variable. The two come to the same for a signature that is
closed, that is, whose variables all stand for parameters or binders while its heads do not.
-/
namespace ProofScript

namespace Term

mutual

/-- The first term is the second one with other names for what `scope` pairs, and for binders. -/
inductive VariantOf : (scope : Pairs) → Term → Term → Prop
  | const {scope : Pairs} (name : String) : VariantOf scope (.const name) (.const name)
  | bound {scope : Pairs} {left right : String} :
    Paired scope left right → VariantOf scope (.var left) (.var right)
  | free {scope : Pairs} {name : String} :
    Unpaired scope name name → VariantOf scope (.var name) (.var name)
  | app {scope : Pairs} {head : String} {args args' : List Term} :
    head ∉ scope.map Prod.fst → VariantsOf scope args args' →
    VariantOf scope (.app head args) (.app head args')
  | lambda {scope : Pairs} {left right : String} {body body' : Term} :
    VariantOf ((left, right) :: scope) body body' →
    VariantOf scope (.lambda left body) (.lambda right body')

inductive VariantsOf : (scope : Pairs) → List Term → List Term → Prop
  | nil {scope : Pairs} : VariantsOf scope [] []
  | cons {scope : Pairs} {arg arg' : Term} {args args' : List Term} :
    VariantOf scope arg arg' → VariantsOf scope args args' →
    VariantsOf scope (arg :: args) (arg' :: args')

end

mutual

/-- Whether all variables are among `names` or bound by a lambda, and no head is. -/
def isClosed (names : List String) : Term → Bool
  | .const _ => true
  | .var name => names.contains name
  | .app head args => !names.contains head && areClosed names args
  | .lambda param body => isClosed (param :: names) body

def areClosed (names : List String) : List Term → Bool
  | [] => true
  | arg :: args => isClosed names arg && areClosed names args

end

mutual

/-- Renaming a closed term brings nothing into scope, and it gives a variant. -/
theorem Renamed.variantOf : (term' : Term) → {term : Term} → {bound known known' : Pairs} →
    term.Renamed bound known term' known' →
    term'.isClosed ((bound ++ known).map Prod.snd) = true →
    known' = known ∧ term.VariantOf (bound ++ known) term'
  | .const name, _, _, _, _, renamed, _ => by
    cases renamed
    exact ⟨rfl, .const name⟩
  | .var name', _, _, _, _, renamed, closed => by
    cases renamed with
    | inScope paired => exact ⟨rfl, .bound paired⟩
    | met unpaired =>
      rw [isClosed, List.contains_iff_mem] at closed
      exact absurd closed unpaired.2
  | .app head' args', _, _, _, _, renamed, closed => by
    simp only [isClosed, Bool.and_eq_true, Bool.not_eq_true', List.contains_eq_mem,
      decide_eq_false_iff_not] at closed
    cases renamed with
    | app heads renamedArgs =>
      obtain ⟨same, variants⟩ := RenamedArgs.variantsOf args' renamedArgs closed.2
      rcases heads with paired | ⟨unpaired, rfl⟩
      -- the head is not in scope, so it does not correspond to anything
      · exact absurd paired.mem_right closed.1
      · exact ⟨same, .app unpaired.1 variants⟩
  | .lambda param' body', _, _, _, _, renamed, closed => by
    cases renamed with
    | lambda renamedBody =>
      obtain ⟨same, variant⟩ := Renamed.variantOf body' renamedBody closed
      exact ⟨same, .lambda variant⟩

theorem RenamedArgs.variantsOf : (args' : List Term) → {args : List Term} →
    {bound known known' : Pairs} → RenamedArgs bound known args args' known' →
    areClosed ((bound ++ known).map Prod.snd) args' = true →
    known' = known ∧ VariantsOf (bound ++ known) args args'
  | [], _, _, _, _, renamed, _ => by
    cases renamed
    exact ⟨rfl, .nil⟩
  | arg' :: args', _, _, _, _, renamed, closed => by
    rw [areClosed, Bool.and_eq_true] at closed
    cases renamed with
    | cons renamedArg renamedArgs =>
      obtain ⟨rfl, variant⟩ := Renamed.variantOf arg' renamedArg closed.1
      obtain ⟨same, variants⟩ := RenamedArgs.variantsOf args' renamedArgs closed.2
      exact ⟨same, .cons variant variants⟩

end

mutual

/-- A variant of a closed term is a renaming of it. -/
theorem VariantOf.renamed : (term' : Term) → {term : Term} → {bound known : Pairs} →
    term.VariantOf (bound ++ known) term' →
    term'.isClosed ((bound ++ known).map Prod.snd) = true → term.Renamed bound known term' known
  | .const name, _, _, _, variant, _ => by
    cases variant
    exact .const name
  | .var name', _, _, _, variant, closed => by
    cases variant with
    | bound paired => exact .inScope paired
    | free unpaired =>
      rw [isClosed, List.contains_iff_mem] at closed
      exact absurd closed unpaired.2
  | .app head args', _, _, _, variant, closed => by
    simp only [isClosed, Bool.and_eq_true, Bool.not_eq_true', List.contains_eq_mem,
      decide_eq_false_iff_not] at closed
    cases variant with
    | app unbound variants =>
      exact .app (.inr ⟨⟨unbound, closed.1⟩, rfl⟩) (VariantsOf.renamedArgs args' variants closed.2)
  | .lambda param' body', _, _, _, variant, closed => by
    cases variant with
    | lambda variantBody => exact .lambda (VariantOf.renamed body' variantBody closed)

theorem VariantsOf.renamedArgs : (args' : List Term) → {args : List Term} →
    {bound known : Pairs} → VariantsOf (bound ++ known) args args' →
    areClosed ((bound ++ known).map Prod.snd) args' = true →
    RenamedArgs bound known args args' known
  | [], _, _, _, variants, _ => by
    cases variants
    exact .nil
  | arg' :: args', _, _, _, variants, closed => by
    rw [areClosed, Bool.and_eq_true] at closed
    cases variants with
    | cons variant variants =>
      exact .cons (VariantOf.renamed arg' variant closed.1)
        (VariantsOf.renamedArgs args' variants closed.2)

end

end Term

/-! ### Types -/

namespace Ty

mutual

/-- The first type is the second one with other names for what `scope` pairs, for binders, and for
the type variables that `types` relates. -/
inductive VariantOf (types : String → String → Prop) (scope : Pairs) : Ty → Ty → Prop
  | const (name : String) : VariantOf types scope (.const name) (.const name)
  | var {left right : String} :
    types left right → VariantOf types scope (.var left) (.var right)
  | app {head : String} {args args' : List Ty} : VariantsOf types scope args args' →
    VariantOf types scope (.app head args) (.app head args')
  | eq {left left' right right' : Term} :
    left.VariantOf scope left' → right.VariantOf scope right' →
    VariantOf types scope (.eq left right) (.eq left' right')
  | arrow {source source' target target' : Ty} :
    VariantOf types scope source source' → VariantOf types scope target target' →
    VariantOf types scope (.arrow source target) (.arrow source' target')

inductive VariantsOf (types : String → String → Prop) (scope : Pairs) : List Ty → List Ty → Prop
  | nil : VariantsOf types scope [] []
  | cons {arg arg' : Ty} {args args' : List Ty} :
    VariantOf types scope arg arg' → VariantsOf types scope args args' →
    VariantsOf types scope (arg :: args) (arg' :: args')

end

mutual

/-- Whether all terms in the type are closed, and all heads of types are constants. -/
def isClosed (names : List String) : Ty → Bool
  | .const _ => true
  | .var _ => true
  | .app head args => isTypeConstant head && areClosed names args
  | .eq left right => left.isClosed names && right.isClosed names
  | .arrow source target => isClosed names source && isClosed names target

def areClosed (names : List String) : List Ty → Bool
  | [] => true
  | arg :: args => isClosed names arg && areClosed names args

end

variable {types : String → String → Prop}

mutual

theorem Renamed.variantOf : (type' : Ty) → {type : Ty} → {known known' : Pairs} →
    type.Renamed types known type' known' → type'.isClosed (known.map Prod.snd) = true →
    known' = known ∧ type.VariantOf types known type'
  | .const name, _, _, _, renamed, _ => by
    cases renamed
    exact ⟨rfl, .const name⟩
  | .var _, _, _, _, renamed, _ => by
    cases renamed with
    | var named => exact ⟨rfl, .var named⟩
  | .app _ args', _, _, _, renamed, closed => by
    rw [isClosed, Bool.and_eq_true] at closed
    cases renamed with
    | app heads renamedArgs =>
      obtain ⟨same, variants⟩ := RenamedArgs.variantsOf args' renamedArgs closed.2
      rcases heads with ⟨-, rfl⟩ | ⟨-, variableName, -⟩
      · exact ⟨same, .app variants⟩
      · rw [closed.1] at variableName
        cases variableName
  | .eq left' right', _, _, _, renamed, closed => by
    rw [isClosed, Bool.and_eq_true] at closed
    cases renamed with
    | eq renamedLeft renamedRight =>
      obtain ⟨rfl, variantLeft⟩ := Term.Renamed.variantOf left' renamedLeft closed.1
      obtain ⟨same, variantRight⟩ := Term.Renamed.variantOf right' renamedRight closed.2
      exact ⟨same, .eq variantLeft variantRight⟩
  | .arrow source' target', _, _, _, renamed, closed => by
    rw [isClosed, Bool.and_eq_true] at closed
    cases renamed with
    | arrow renamedSource renamedTarget =>
      obtain ⟨rfl, variantSource⟩ := Renamed.variantOf source' renamedSource closed.1
      obtain ⟨same, variantTarget⟩ := Renamed.variantOf target' renamedTarget closed.2
      exact ⟨same, .arrow variantSource variantTarget⟩

theorem RenamedArgs.variantsOf : (args' : List Ty) → {args : List Ty} → {known known' : Pairs} →
    RenamedArgs types known args args' known' → areClosed (known.map Prod.snd) args' = true →
    known' = known ∧ VariantsOf types known args args'
  | [], _, _, _, renamed, _ => by
    cases renamed
    exact ⟨rfl, .nil⟩
  | arg' :: args', _, _, _, renamed, closed => by
    rw [areClosed, Bool.and_eq_true] at closed
    cases renamed with
    | cons renamedArg renamedArgs =>
      obtain ⟨rfl, variant⟩ := Renamed.variantOf arg' renamedArg closed.1
      obtain ⟨same, variants⟩ := RenamedArgs.variantsOf args' renamedArgs closed.2
      exact ⟨same, .cons variant variants⟩

end

mutual

theorem VariantOf.renamed : (type' : Ty) → {type : Ty} → {known : Pairs} →
    type.VariantOf types known type' → type'.isClosed (known.map Prod.snd) = true →
    type.Renamed types known type' known
  | .const name, _, _, variant, _ => by
    cases variant
    exact .const name
  | .var _, _, _, variant, _ => by
    cases variant with
    | var named => exact .var named
  | .app _ args', _, _, variant, closed => by
    rw [isClosed, Bool.and_eq_true] at closed
    cases variant with
    | app variants =>
      exact .app (.inl ⟨closed.1, rfl⟩) (VariantsOf.renamedArgs args' variants closed.2)
  | .eq left' right', _, _, variant, closed => by
    rw [isClosed, Bool.and_eq_true] at closed
    cases variant with
    | eq variantLeft variantRight =>
      exact .eq (Term.VariantOf.renamed left' variantLeft closed.1)
        (Term.VariantOf.renamed right' variantRight closed.2)
  | .arrow source' target', _, _, variant, closed => by
    rw [isClosed, Bool.and_eq_true] at closed
    cases variant with
    | arrow variantSource variantTarget =>
      exact .arrow (VariantOf.renamed source' variantSource closed.1)
        (VariantOf.renamed target' variantTarget closed.2)

theorem VariantsOf.renamedArgs : (args' : List Ty) → {args : List Ty} → {known : Pairs} →
    VariantsOf types known args args' → areClosed (known.map Prod.snd) args' = true →
    RenamedArgs types known args args' known
  | [], _, _, variants, _ => by
    cases variants
    exact .nil
  | arg' :: args', _, _, variants, closed => by
    rw [areClosed, Bool.and_eq_true] at closed
    cases variants with
    | cons variant variants =>
      exact .cons (VariantOf.renamed arg' variant closed.1)
        (VariantsOf.renamedArgs args' variants closed.2)

end

end Ty

/-! ### Signatures -/

namespace Signature

/-- The first parameters are the second ones with other names, position by position. A parameter is
in scope from its own type on; `after` is what is in scope behind all of them. -/
inductive ParamVariants (types : String → String → Prop) :
    (scope : Pairs) → List Param → List Param → (after : Pairs) → Prop
  | nil {scope : Pairs} : ParamVariants types scope [] [] scope
  | cons {scope after : Pairs} {param param' : Param} {params params' : List Param} :
    param.type.VariantOf types ((param.name, param'.name) :: scope) param'.type →
    ParamVariants types ((param.name, param'.name) :: scope) params params' after →
    ParamVariants types scope (param :: params) (param' :: params') after

/-- The first signature is the second one with other names for its parameters, which are all
different, for its binders, and for its type variables, no two of which become one. -/
def VariantOf (signature stated : Signature) : Prop :=
  (signature.params.map Param.name).Nodup ∧
    ∃ types : String → String → Prop, Relator.BiUnique types ∧ ∃ scope : Pairs,
      ParamVariants types [] signature.params stated.params scope ∧
        signature.result.VariantOf types scope stated.result

/-- Whether the types of all parameters are closed, after those that declare `names`. -/
def areParamsClosed (names : List String) : List Param → Bool
  | [] => true
  | param :: params =>
    param.type.isClosed (param.name :: names) && areParamsClosed (param.name :: names) params

/-- Whether all variables of terms stand for parameters or binders, and no head does. -/
def isClosed (signature : Signature) : Bool :=
  areParamsClosed [] signature.params &&
    signature.result.isClosed (signature.params.map Param.name).reverse

variable {types : String → String → Prop}

theorem RenamedParams.paramVariants : (params' : List Param) → {params : List Param} →
    {known known' : Pairs} → RenamedParams types known params params' known' →
    areParamsClosed (known.map Prod.snd) params' = true →
    known'.map Prod.snd = (params'.map Param.name).reverse ++ known.map Prod.snd ∧
      ParamVariants types known params params' known'
  | [], _, _, _, renamed, _ => by
    cases renamed
    exact ⟨rfl, .nil⟩
  | param' :: params', _, _, _, renamed, closed => by
    rw [areParamsClosed, Bool.and_eq_true] at closed
    cases renamed with
    | cons renamedType renamedParams =>
      obtain ⟨rfl, variant⟩ := renamedType.variantOf param'.type closed.1
      obtain ⟨names, variants⟩ := RenamedParams.paramVariants params' renamedParams closed.2
      refine ⟨?_, .cons variant variants⟩
      rw [names]
      simp

theorem ParamVariants.renamedParams : (params' : List Param) → {params : List Param} →
    {scope after : Pairs} → ParamVariants types scope params params' after →
    areParamsClosed (scope.map Prod.snd) params' = true →
    after.map Prod.snd = (params'.map Param.name).reverse ++ scope.map Prod.snd ∧
      RenamedParams types scope params params' after
  | [], _, _, _, variants, _ => by
    cases variants
    exact ⟨rfl, .nil⟩
  | param' :: params', _, _, _, variants, closed => by
    rw [areParamsClosed, Bool.and_eq_true] at closed
    cases variants with
    | cons variant variants =>
      obtain ⟨names, renamed⟩ := ParamVariants.renamedParams params' variants closed.2
      refine ⟨?_, .cons (variant.renamed param'.type closed.1) renamed⟩
      rw [names]
      simp

/-- The variants of a closed signature are its renamings with different parameters. -/
theorem variantOf_iff_renamed {signature stated : Signature} (closed : stated.isClosed = true) :
    signature.VariantOf stated ↔
      (signature.params.map Param.name).Nodup ∧ signature.Renamed stated := by
  rw [isClosed, Bool.and_eq_true] at closed
  refine and_congr_right fun _ => ⟨?_, ?_⟩
  · rintro ⟨types, unique, scope, variants, variant⟩
    obtain ⟨names, renamed⟩ := variants.renamedParams stated.params closed.1
    rw [List.map_nil, List.append_nil] at names
    rw [← names] at closed
    exact ⟨types, unique, scope, scope, renamed, variant.renamed stated.result closed.2⟩
  · rintro ⟨types, unique, known, known', renamedParams, renamedResult⟩
    obtain ⟨names, variants⟩ := renamedParams.paramVariants stated.params closed.1
    rw [List.map_nil, List.append_nil] at names
    rw [← names] at closed
    obtain ⟨-, variant⟩ := renamedResult.variantOf stated.result closed.2
    exact ⟨types, unique, known, variants, variant⟩

end Signature

end ProofScript
