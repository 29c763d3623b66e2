import Mathlib.Data.List.Nodup
import ProofScript.Grammar
import ProofScript.Proofs.Naming.Generated
import ProofScript.Proofs.Outcome

/-!
# The parameters of a signature that was read

Reading refuses a signature that declares a name twice, whether the names are written or given by
position. So the parameters of a signature that was read have different names.
-/
namespace ProofScript

namespace Grammar

theorem namedParams_nodup {fuel : Nat} {earlier params : List Param} {tokens rest : List Token}
    (read : namedParams fuel earlier tokens = .ok (params, rest))
    (distinct : (earlier.map Param.name).Nodup) : (params.map Param.name).Nodup := by
  fun_induction namedParams fuel earlier tokens with
  | case1 fuel earlier name tokens ih =>
    obtain ⟨bound, -, read⟩ := bind_eq_ok.mp read
    obtain ⟨typed, -, read⟩ := bind_eq_ok.mp read
    obtain ⟨_, -, read⟩ := bind_eq_ok.mp read
    obtain ⟨_, -, read⟩ := bind_eq_ok.mp read
    split at read
    next => cases read
    next unseen =>
      have absent : bound ∉ earlier.map Param.name := by simpa using unseen
      have extended : ((earlier ++ [Param.mk bound typed.1]).map Param.name).Nodup := by
        rw [List.map_append]
        exact distinct.append (List.nodup_singleton bound) (by simpa using absent)
      exact ih _ _ _ read extended
  | case2 =>
    cases read
    exact distinct

theorem mem_anonymousParams {index : Nat} {types : List Ty} {name : String}
    (member : name ∈ (anonymousParams index types).map Param.name) :
    ∃ number, index ≤ number ∧ name = Param.anonymousStem ++ toString number := by
  induction types generalizing index with
  | nil => cases member
  | cons type types ih =>
    rw [anonymousParams, List.map_cons] at member
    rcases List.mem_cons.mp member with rfl | later
    · exact ⟨index, Nat.le_refl index, rfl⟩
    · obtain ⟨number, above, spelled⟩ := ih later
      exact ⟨number, by omega, spelled⟩

theorem anonymousParams_nodup (index : Nat) (types : List Ty) :
    ((anonymousParams index types).map Param.name).Nodup := by
  induction types generalizing index with
  | nil => exact List.nodup_nil
  | cons type types ih =>
    rw [anonymousParams, List.map_cons, List.nodup_cons]
    refine ⟨fun member => ?_, ih (index + 1)⟩
    -- a later position has another number
    obtain ⟨number, above, spelled⟩ := mem_anonymousParams member
    have same : index = number := numbered_injective _ spelled
    omega

theorem closeSignature_nodup {named : List Param} {residual : Ty} {signature : Signature}
    (closed : closeSignature named residual = .ok signature)
    (distinct : (named.map Param.name).Nodup) : (signature.params.map Param.name).Nodup := by
  unfold closeSignature at closed
  dsimp only at closed
  split at closed
  next => cases closed
  next apart =>
    cases closed
    rw [List.map_append]
    refine distinct.append (anonymousParams_nodup 0 _) ?_
    intro name written positional
    obtain ⟨param, member, rfl⟩ := List.mem_map.mp positional
    obtain ⟨declared, among, same⟩ := List.mem_map.mp written
    have clash := List.find?_eq_none.mp apart param member
    simp only [List.any_eq_true, beq_iff_eq, not_exists, not_and] at clash
    exact clash declared among same

end Grammar

theorem Signature.parse_nodup {text : String} {signature : Signature}
    (parsed : Signature.parse text = .ok signature) : (signature.params.map Param.name).Nodup := by
  obtain ⟨tokens, -, read⟩ := bind_eq_ok.mp parsed
  obtain ⟨⟨named, rest⟩, readNamed, read⟩ := bind_eq_ok.mp (mapError_eq_ok.mp read)
  obtain ⟨residual, -, closed⟩ := bind_eq_ok.mp read
  exact Grammar.closeSignature_nodup closed (Grammar.namedParams_nodup readNamed List.nodup_nil)

end ProofScript
