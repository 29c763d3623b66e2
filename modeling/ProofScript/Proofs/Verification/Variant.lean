import ProofScript.Proofs.Grammar.Parameters
import ProofScript.Proofs.Naming.Variant
import ProofScript.Proofs.Verification.Citation

/-!
# Signatures for which a lemma may be cited

A lemma may be cited for precisely the variants of its statement. Nothing has to be assumed about
how a signature spells its names: one that merely looks like a canonical form is refused, because
the statements of the lemmas are closed and apply nothing that is spelled like a generated name.
-/
namespace ProofScript

namespace Catalog

theorem laws_closed : ∀ law ∈ laws, law.signature.isClosed = true := by
  decide +kernel

theorem lemmas_nodup : (lemmas.map Lemma.name).Nodup := by
  decide +kernel

/-- A lemma is found under its name with the canonical form of what its statement reads as. -/
theorem exists_law_of_mem {entries : List Lemma} {laws : List Law} {entry : Lemma}
    (read : List.Forall₂ Reads entries laws) (distinct : (entries.map Lemma.name).Nodup)
    (member : entry ∈ entries) :
    ∃ law ∈ laws, Reads entry law ∧
      find? ⟨(entries.zip laws).map fun (entry, law) => (entry.name, law.signature.canonical)⟩
        entry.name = some law.signature.canonical := by
  induction read with
  | nil => cases member
  | @cons first law entries laws reads _ ih =>
    obtain ⟨unused, distinct⟩ := List.nodup_cons.mp distinct
    rcases List.mem_cons.mp member with rfl | later
    · exact ⟨law, List.mem_cons_self, reads, List.lookup_cons_self⟩
    · obtain ⟨stated, among, readsStated, found⟩ := ih distinct later
      refine ⟨stated, List.mem_cons_of_mem law among, readsStated, ?_⟩
      -- the first lemma has another name
      have other : entry.name ≠ first.name := by
        intro same
        exact unused (same ▸ List.mem_map_of_mem later)
      rw [find?, List.zip_cons_cons, List.map_cons, List.lookup_cons, beq_eq_false_iff_ne.mpr other]
      exact found

/-- A signature with different parameters is alike to a law if and only if it is a variant of it. -/
theorem alike_iff_variantOf {law : Law} (member : law ∈ laws) {signature : Signature}
    (distinct : (signature.params.map Param.name).Nodup) :
    signature.alike law.signature = true ↔ signature.VariantOf law.signature := by
  rw [Signature.variantOf_iff_renamed (laws_closed law member)]
  constructor
  · intro same
    exact ⟨distinct, renamed_of_alike member same⟩
  · rintro ⟨-, renamed⟩
    exact renamed.alike

end Catalog

namespace Citation

/-- The catalog can be built, and a lemma in it may be cited for a signature that was read if and
only if the signature is a variant of what the lemma states. -/
theorem check_iff_variantOf {text : String} {signature : Signature} {entry : Lemma}
    (parsed : Signature.parse text = .ok signature) (listed : entry ∈ Catalog.lemmas) :
    ∃ catalog stated, Catalog.standard = .ok catalog ∧
      Signature.parse entry.statement = .ok stated ∧
      (check catalog signature entry.name = .ok () ↔ signature.VariantOf stated) := by
  obtain ⟨law, member, reads, found⟩ :=
    Catalog.exists_law_of_mem Catalog.lemmas_read Catalog.lemmas_nodup listed
  refine ⟨_, law.signature, Catalog.ofLemmas_of_reads Catalog.lemmas_read, reads, ?_⟩
  rw [check_eq_ok_iff, found, Option.some.injEq,
    ← Catalog.alike_iff_variantOf member (Signature.parse_nodup parsed), Signature.alike_iff]
  exact eq_comm

/-- The lemma `mapIdentity` with names that look generated, the same one for the list and for what
the lambda binds. -/
def generatedNames : Signature :=
  ⟨[⟨"v0", .app "List" [.var "t7"]⟩],
    .eq (.app "map" [.lambda "v0" (.var "v0"), .var "v0"]) (.var "v0")⟩

theorem check_iff_variantOf_generatedNames :
    Signature.parse "(v0 : List t7) -> map (\\v0 => v0) v0 = v0" = .ok generatedNames ∧
      ⟨"mapIdentity", "(xs : List a) -> map (\\x => x) xs = xs"⟩ ∈ Catalog.lemmas ∧
      ∃ catalog stated, Catalog.standard = .ok catalog ∧
        Signature.parse "(xs : List a) -> map (\\x => x) xs = xs" = .ok stated ∧
        check catalog generatedNames "mapIdentity" = .ok () ∧ generatedNames.VariantOf stated := by
  have parsed : Signature.parse "(v0 : List t7) -> map (\\v0 => v0) v0 = v0" =
      .ok generatedNames :=
    Signature.parse_ofList _ (by decide +kernel)
  have listed : ⟨"mapIdentity", "(xs : List a) -> map (\\x => x) xs = xs"⟩ ∈ Catalog.lemmas := by
    decide +kernel
  obtain ⟨catalog, stated, loaded, reads, accepted⟩ := check_iff_variantOf parsed listed
  have cited : check catalog generatedNames "mapIdentity" = .ok () := by
    rw [Catalog.standard, Catalog.ofLemmas_of_reads Catalog.lemmas_read, Except.ok.injEq] at loaded
    rw [← loaded, check_eq_ok_iff]
    decide +kernel
  exact ⟨parsed, listed, catalog, stated, loaded, reads, cited, accepted.mp cited⟩

end Citation

end ProofScript
