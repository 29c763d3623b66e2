import ProofScript.Proofs.Catalog.Cited
import ProofScript.Proofs.Evaluation.Limit
import ProofScript.Verification

/-!
# Proofs that cite a lemma

A theorem whose proof is accepted as the citation of a lemma is true of everything that its
parameters may be given for values: if both sides of its equation evaluate to something that is not
stuck, they evaluate to the same.
-/
namespace ProofScript

theorem Value.isUnknown_of_isStuck {v : Value} (settled : v.isStuck = false) :
    v.isUnknown = false := by
  cases v with
  | unknown => cases settled
  | _ => rfl

namespace Catalog

/-- The lemmas that read as laws make up a catalog of the canonical forms of the laws. -/
theorem ofLemmas_of_reads {entries : List Lemma} {laws : List Law}
    (read : List.Forall₂ Reads entries laws) :
    ofLemmas entries =
      .ok ⟨(entries.zip laws).map fun (entry, law) => (entry.name, law.signature.canonical)⟩ := by
  induction read with
  | nil => rfl
  | cons reads _ ih =>
    rw [ofLemmas, reads, ih]
    rfl

/-- What is found in the catalog is the canonical form of a law. -/
theorem exists_law_of_find? {catalog : Catalog} (loaded : standard = .ok catalog) {name : String}
    {stated : Signature} (found : catalog.find? name = some stated) :
    ∃ law ∈ laws, stated = law.signature.canonical := by
  rw [standard, ofLemmas_of_reads lemmas_read, Except.ok.injEq] at loaded
  rw [← loaded] at found
  -- what the lookup returns is one of the entries, whether or not names are repeated
  obtain ⟨before, after, entries, -⟩ := List.lookup_eq_some_iff.mp found
  have member : (name, stated) ∈ before ++ (name, stated) :: after :=
    List.mem_append_right _ List.mem_cons_self
  rw [← entries] at member
  obtain ⟨⟨entry, law⟩, inside, same⟩ := List.mem_map.mp member
  exact ⟨law, (List.of_mem_zip inside).2, (congrArg Prod.snd same).symm⟩

end Catalog

theorem Citation.check_eq_ok_iff {catalog : Catalog} {signature : Signature} {name : String} :
    Citation.check catalog signature name = .ok () ↔
      catalog.find? name = some signature.canonical := by
  unfold Citation.check
  cases catalog.find? name with
  | none => simp
  | some stated =>
    by_cases same : signature.canonical = stated
    · simp [same]
    · simp [same, Ne.symm same]

namespace Theorem

variable {limit : Nat} {catalog : Catalog} {subject : Theorem}

theorem atSignature_eq_ok_iff {α : Type} {result : Except Diagnostic α} {item : α} :
    subject.atSignature result = .ok item ↔ result = .ok item :=
  mapError_eq_ok

theorem atProof_eq_ok_iff {α : Type} {result : Except Diagnostic α} {item : α} :
    subject.atProof result = .ok item ↔ result = .ok item :=
  mapError_eq_ok

theorem atCitation_eq_ok_iff {α : Type} {result : Except Diagnostic α} {item : α} :
    subject.atCitation result = .ok item ↔ result = .ok item := by
  unfold atCitation
  split
  · rw [atProof_eq_ok_iff]
  · rw [atSignature_eq_ok_iff]

/-- The check that a method stands for. -/
def accepts (limit : Nat) (catalog : Catalog) (signature : Signature) :
    Method → Except Diagnostic Unit
  | .refl => Refl.check limit signature
  | .citation name => Citation.check catalog signature name

/-- A theorem is accepted if its signature can be read and the method of its proof accepts it. -/
theorem check_eq_ok_iff : subject.check limit catalog = .ok () ↔
    ∃ signature method, Signature.parse subject.signature = .ok signature ∧
      Method.ofProof subject.proof = .ok method ∧
      accepts limit catalog signature method = .ok () := by
  rw [check, bind_eq_ok]
  constructor
  · rintro ⟨⟨signature, method⟩, read, accepted⟩
    obtain ⟨parsed, parses, ran⟩ := bind_eq_ok.mp read
    obtain ⟨found, proves, done⟩ := bind_eq_ok.mp ran
    cases done
    refine ⟨signature, method, atSignature_eq_ok_iff.mp parses, atProof_eq_ok_iff.mp proves, ?_⟩
    cases method with
    | refl => exact atSignature_eq_ok_iff.mp accepted
    | citation name => exact atCitation_eq_ok_iff.mp accepted
  · rintro ⟨signature, method, parses, proves, accepted⟩
    have read : subject.read = .ok (signature, method) :=
      bind_eq_ok.mpr ⟨signature, atSignature_eq_ok_iff.mpr parses,
        bind_eq_ok.mpr ⟨method, atProof_eq_ok_iff.mpr proves, rfl⟩⟩
    refine ⟨(signature, method), read, ?_⟩
    cases method with
    | refl => exact atSignature_eq_ok_iff.mpr accepted
    | citation name => exact atCitation_eq_ok_iff.mpr accepted

end Theorem

/-- A proof other than `Refl` cites a lemma. -/
theorem Method.ofProof_eq_citation {proof : String} {method : Method}
    (other : Text.trim proof.toList ≠ "Refl".toList) (proves : Method.ofProof proof = .ok method) :
    ∃ name, method = .citation name := by
  rw [Method.ofProof, if_neg other] at proves
  obtain ⟨term, -, ran⟩ := bind_eq_ok.mp proves
  obtain ⟨name, -, done⟩ := bind_eq_ok.mp ran
  cases done
  exact ⟨name, rfl⟩

namespace Theorem

variable {limit : Nat} {catalog : Catalog} {subject : Theorem}

/-- A theorem that cites a lemma and is accepted is true: under every environment for its
parameters, its sides evaluate to the same if they evaluate to something that is not stuck. -/
theorem check_citation_sound (loaded : Catalog.standard = .ok catalog)
    (other : Text.trim subject.proof.toList ≠ "Refl".toList)
    (accepted : subject.check limit catalog = .ok ()) :
    ∃ signature left right, Signature.parse subject.signature = .ok signature ∧
      signature.result = .eq left right ∧
      ∀ env : Env, (∀ name, (env.find? name).isSome = true ↔
          ∃ param ∈ signature.params, param.name = name) →
        ∀ leftLimit rightLimit v w, evaluate leftLimit env left = .ok v →
          evaluate rightLimit env right = .ok w → v.isStuck = false → w.isStuck = false →
          v = w := by
  obtain ⟨signature, method, parses, proves, accepted⟩ := check_eq_ok_iff.mp accepted
  obtain ⟨name, rfl⟩ := Method.ofProof_eq_citation other proves
  -- the lemma is found under its name, and its law has the canonical form of the signature
  obtain ⟨law, member, same⟩ :=
    Catalog.exists_law_of_find? loaded (Citation.check_eq_ok_iff.mp accepted)
  obtain ⟨left, right, result, sameValues⟩ :=
    Law.sameValues_of_alike member (Signature.alike_iff.mpr same)
  refine ⟨signature, left, right, parses, result, ?_⟩
  intro env binds leftLimit rightLimit v w leftValue rightValue leftSettled rightSettled
  -- both sides are evaluated under the larger one of the limits
  exact sameValues env binds (max leftLimit rightLimit) v w
    (evaluate_mono (Nat.le_max_left _ _) leftValue)
    (evaluate_mono (Nat.le_max_right _ _) rightValue)
    (Value.isUnknown_of_isStuck leftSettled) (Value.isUnknown_of_isStuck rightSettled)

/-- The lemma `mapIdentity`, with the names of its list and of its lambda exchanged. -/
def mappedIdentity : Theorem :=
  ⟨"mapped", "(x : List b) -> map (\\xs => xs) x = x", "mapIdentity x", 1, .null, .null⟩

theorem check_citation_sound_mappedIdentity :
    ∃ catalog, Catalog.standard = .ok catalog ∧
      mappedIdentity.check 0 catalog = .ok () ∧
      ∃ signature left right, Signature.parse mappedIdentity.signature = .ok signature ∧
        signature.result = .eq left right ∧
        ∀ env : Env, (∀ name, (env.find? name).isSome = true ↔
            ∃ param ∈ signature.params, param.name = name) →
          ∀ leftLimit rightLimit v w, evaluate leftLimit env left = .ok v →
            evaluate rightLimit env right = .ok w → v.isStuck = false → w.isStuck = false →
            v = w := by
  have loaded := Catalog.ofLemmas_of_reads Catalog.lemmas_read
  have other : Text.trim mappedIdentity.proof.toList ≠ "Refl".toList := by decide +kernel
  have accepted : mappedIdentity.check 0
      ⟨(Catalog.lemmas.zip Catalog.laws).map fun (entry, law) =>
        (entry.name, law.signature.canonical)⟩ = .ok () := by
    have parses : Signature.parse mappedIdentity.signature =
        .ok ⟨[⟨"x", .app "List" [.var "b"]⟩],
          .eq (.app "map" [.lambda "xs" (.var "xs"), .var "x"]) (.var "x")⟩ :=
      Signature.parse_ofList _ (by decide +kernel)
    have proves : Method.ofProof mappedIdentity.proof = .ok (.citation "mapIdentity") := by
      rw [Method.ofProof, if_neg other]
      exact bind_eq_ok.mpr ⟨.app "mapIdentity" [.var "x"],
        Term.parse_ofList _ (by decide +kernel), rfl⟩
    refine check_eq_ok_iff.mpr ⟨_, _, parses, proves, ?_⟩
    rw [accepts, Citation.check_eq_ok_iff]
    decide +kernel
  exact ⟨_, loaded, accepted, check_citation_sound loaded other accepted⟩

end Theorem

end ProofScript
