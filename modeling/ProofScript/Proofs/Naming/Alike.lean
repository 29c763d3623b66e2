import ProofScript.Proofs.Naming.TypesAlike

/-!
# Being alike is being a consistent renaming

Consistent renamings are alike, and signatures that are alike are consistent renamings unless one
of them has a head that is not in scope and is spelled like a generated name.
-/
namespace ProofScript

namespace Signature

/-- Renamed parameters get the same canonical form. -/
theorem RenamedParams.sameSteps {related : String → String → Prop}
    (unique : Relator.BiUnique related) : (params : List Param) → {params' : List Param} →
    {index : Nat} → {types known : Links} → {known' : Pairs} →
    {naming naming' : SignatureNaming} → SignatureLinked index types known naming naming' →
    types.Within related → RenamedParams related known.pairs params params' known' →
    ∃ index', SameSignatureSteps index' related known' (canonicalParams index params naming)
      (canonicalParams index params' naming')
  | [], params', index, types, known, known', naming, naming', linked, inside, renamed => by
    cases renamed
    exact ⟨index, rfl, types, known, inside, rfl, linked⟩
  | param :: params, params', index, types, known, known', naming, naming', linked, inside,
      renamed => by
    cases renamed with
    | @cons _ _ _ _ param' _ params' renamedType renamedParams =>
      obtain ⟨same, types', links, inside', rfl, between⟩ :=
        renamedType.sameSteps unique param.type (linked.declare param.name param'.name) inside
      obtain ⟨index', more, types'', links', inside'', pairs, after⟩ :=
        RenamedParams.sameSteps unique params between inside' renamedParams
      refine ⟨index', ?_, types'', links', inside'', pairs, after⟩
      exact congrArg₂ List.cons (congrArg (Param.mk _) same) more

/-- Parameters that get the same canonical form are renamed. -/
theorem RenamedParams.of_canonical : (params : List Param) → {params' : List Param} →
    {index : Nat} → {types known : Links} → {naming naming' : SignatureNaming} →
    {scope scope' : Scope} → SignatureLinked index types known naming naming' →
    scope.Follows [] naming.terms → scope'.Follows [] naming'.terms →
    scope.params.length = index → scope'.params.length = index →
    Apart (headSitesParams index scope params).1 → Apart (headSitesParams index scope' params').1 →
    (canonicalParams index params naming).1 = (canonicalParams index params' naming').1 →
    ∃ index', Ty.RenamedSteps index' types
      (fun related => RenamedParams related known.pairs params params')
      (canonicalParams index params naming) (canonicalParams index params' naming')
  | [], [], index, types, known, _, _, _, _, linked, _, _, _, _, _, _, _ =>
    ⟨index, types, known, fun _ member => member, fun _ _ => .nil, linked⟩
  | param :: params, param' :: params', index, types, known, naming, naming', scope, scope',
      linked, follows, follows', count, count', apart, apart', same => by
    obtain ⟨paramSame, paramsSame⟩ := List.cons.inj same
    rw [headSitesParams, Apart.append_iff] at apart apart'
    -- a parameter is in scope in its own type, so it is declared first
    have declared := follows.declare param.name
    have declared' := follows'.declare param'.name
    rw [count] at declared
    rw [count'] at declared'
    obtain ⟨types', links, more, renamedType, between⟩ :=
      Ty.Renamed.of_canonical [index] param.type (linked.declare param.name param'.name) declared
        declared' apart.1 apart'.1 (Param.mk.inj paramSame).2
    obtain ⟨index', types'', links', more', renamedParams, after⟩ :=
      RenamedParams.of_canonical params between
        (declared.type [index] param.type) (declared'.type [index] param'.type)
        (by rw [Scope.params_headSitesType, Scope.declare, List.length_cons, count])
        (by rw [Scope.params_headSitesType, Scope.declare, List.length_cons, count'])
        apart.2 apart'.2 paramsSame
    refine ⟨index', types'', links', fun _ member => more' (more member),
      fun related inside => ?_, after⟩
    exact .cons (renamedType related fun link member => inside link (more' member))
      (renamedParams related inside)

theorem Renamed.alike {signature other : Signature} (renamed : signature.Renamed other) :
    signature.alike other = true := by
  obtain ⟨related, unique, known, known', renamedParams, renamedResult⟩ := renamed
  obtain ⟨index, same, types, links, inside, rfl, between⟩ :=
    renamedParams.sameSteps unique signature.params SignatureLinked.empty
      (fun _ member => by cases member)
  obtain ⟨more, -⟩ := renamedResult.sameSteps unique signature.result between inside
  exact alike_iff.mpr (congrArg₂ Signature.mk same more)

theorem Renamed.of_alike {signature other : Signature} (apart : Apart signature.headSites)
    (apart' : Apart other.headSites) (same : signature.alike other = true) :
    signature.Renamed other := by
  obtain ⟨paramsSame, resultSame⟩ := Signature.mk.inj (alike_iff.mp same)
  rw [headSites, Apart.append_iff] at apart apart'
  obtain ⟨index, types, links, -, renamedParams, between⟩ :=
    RenamedParams.of_canonical signature.params SignatureLinked.empty Scope.Follows.empty
      Scope.Follows.empty rfl rfl apart.1 apart'.1 paramsSame
  have length : other.params.length = signature.params.length := by
    have same := congrArg List.length paramsSame
    rw [length_canonicalParams, length_canonicalParams] at same
    exact same.symm
  rw [length] at apart'
  obtain ⟨types', links', more, renamedResult, after⟩ :=
    Ty.Renamed.of_canonical [signature.params.length] signature.result between
      (Scope.Follows.params signature.params Scope.Follows.empty)
      (Scope.Follows.params other.params Scope.Follows.empty)
      apart.2 apart'.2 resultSame
  -- the links of all type variables are the bijection
  have inside : types'.Within types'.Related := fun link member => ⟨link, member, rfl, rfl⟩
  exact ⟨types'.Related, after.types.biUnique, links.pairs, links'.pairs,
    renamedParams _ fun link member => inside link (more member), renamedResult _ inside⟩

/-- Being alike decides whether a signature is a consistent renaming of another, as long as no head
that is not in scope is spelled like a generated name. -/
theorem alike_decides_renaming (signature other : Signature) :
    (signature.Renamed other → signature.alike other = true) ∧
      (Apart signature.headSites → Apart other.headSites → signature.alike other = true →
        signature.Renamed other) :=
  ⟨Renamed.alike, Renamed.of_alike⟩

/-- A signature with a lambda, a free variable that is met twice, and an unknown function `g`. -/
def mapping (function items binder free typeName typeName' : String) : Signature :=
  ⟨[⟨function, .arrow (.var typeName) (.var typeName')⟩, ⟨items, .app "List" [.var typeName]⟩],
    .eq (.app "map" [.lambda binder (.app function [.var binder]), .var items])
      (.app "append" [.var free, .app "g" [.var free]])⟩

theorem alike_decides_renaming_mapping :
    Apart (mapping "f" "xs" "x" "ys" "a" "b").headSites ∧
      Apart (mapping "h" "zs" "f" "x" "c" "a").headSites ∧
      (mapping "f" "xs" "x" "ys" "a" "b").alike (mapping "h" "zs" "f" "x" "c" "a") = true ∧
      (mapping "f" "xs" "x" "ys" "a" "b").Renamed (mapping "h" "zs" "f" "x" "c" "a") := by
  have apart : Apart (mapping "f" "xs" "x" "ys" "a" "b").headSites :=
    apart_of_spelling (by decide +kernel)
  have apart' : Apart (mapping "h" "zs" "f" "x" "c" "a").headSites :=
    apart_of_spelling (by decide +kernel)
  have same : (mapping "f" "xs" "x" "ys" "a" "b").alike
      (mapping "h" "zs" "f" "x" "c" "a") = true := by
    decide +kernel
  have renamed := (alike_decides_renaming _ _).2 apart apart' same
  exact ⟨apart, apart', (alike_decides_renaming _ _).1 renamed, renamed⟩

end Signature

end ProofScript
