import ProofScript.Proofs.Outcome
import ProofScript.Proofs.Script.Lines

/-!
# What reading a script gives

A theorem that was read is made of parts of lines: its name, its signature and its proof have no
white space around them, no comment and no newline in them, and the spans of the signature and of
the proof are where these stand. A script that cannot be read is refused because of one of its
lines, and that line is what the failure points at.
-/
namespace ProofScript

open Text

/-- A name as a script can declare it. -/
structure IsDeclared (name : String) : Prop where
  trimmed : Trimmed name.toList
  oneLine : '\n' ∉ name.toList
  noComment : '#' ∉ name.toList
  noColon : ':' ∉ name.toList

/-- The text of a part of a line of `source`, and where it stands. -/
def IsPart (source : List Char) (text : String) (span : Span) : Prop :=
  ∃ excerpt : Excerpt, excerpt.OnLine source ∧ text = excerpt.text ∧ span = excerpt.span

theorem byteLength_lt_size {text : String} (small : text.utf8ByteSize < UInt32.size - 1) :
    byteLength text.toList < UInt32.size := by
  rw [byteLength_toList]
  omega

/-- The text of a part stands at its span. -/
theorem IsPart.covers {source : List Char} {text : String} {span : Span}
    (isPart : IsPart source text span) (small : byteLength source < UInt32.size) :
    span.Covers source text.toList ∧ text.toList ≠ [] ∧ '\n' ∉ text.toList := by
  obtain ⟨excerpt, onLine, rfl, rfl⟩ := isPart
  rw [Excerpt.text, String.toList_ofList]
  exact ⟨onLine.covers small, onLine.trimmed.nonempty, onLine.oneLine⟩

/-- All parts of the theorem stand in `source`. -/
structure Theorem.ReadFrom (subject : Theorem) (source : List Char) : Prop where
  name : IsDeclared subject.name
  signature : IsPart source subject.signature subject.signatureSpan
  proof : IsPart source subject.proof subject.proofSpan

namespace Script

variable {line : Line} {source : List Char} {name : String} {signature proof : Excerpt}
  {failure : Failure}

/-! ### Single lines -/

/-- The name and the signature of a declaration are cut out of its line and trimmed. -/
theorem declaration_parts (declared : declaration line = .ok (name, signature)) :
    ∃ left right : Excerpt, left.Within line.code ∧ right.Within line.code ∧ ':' ∉ left.chars ∧
      name = left.trim.text ∧ left.trim.chars ≠ [] ∧
      signature = right.trim ∧ right.trim.chars ≠ [] := by
  unfold declaration at declared
  split at declared
  next => cases declared
  next header found =>
    obtain ⟨-, headerWithin⟩ := Excerpt.after?_eq_some found
    split at declared
    next => cases declared
    next left right parts =>
      obtain ⟨noColon, leftWithin, rightWithin⟩ := Excerpt.split?_eq_some parts
      dsimp only at declared
      split at declared
      next => cases declared
      next nonempty =>
        split at declared
        next => cases declared
        next something =>
          rw [Except.ok.injEq, Prod.mk.injEq] at declared
          obtain ⟨rfl, rfl⟩ := declared
          have named : left.trim.chars ≠ [] := by
            intro empty
            refine nonempty ?_
            rw [Excerpt.text, empty]
            rfl
          exact ⟨left, right, leftWithin.trans headerWithin, rightWithin.trans headerWithin,
            noColon, rfl, named, rfl, by simpa using something⟩

/-- A proof is cut out of its line and trimmed. -/
theorem proofExpression_parts (proved : proofExpression name line = .ok proof) :
    ∃ rest : Excerpt, rest.Within line.code ∧ proof = rest.trim ∧ rest.trim.chars ≠ [] := by
  unfold proofExpression at proved
  dsimp only at proved
  split at proved
  next rest found =>
    obtain ⟨-, within⟩ := Excerpt.after?_eq_some found
    split at proved
    next => cases proved
    next something =>
      rw [Except.ok.injEq] at proved
      exact ⟨rest, within, proved.symm, by simpa using something⟩
  next =>
    split at proved <;> cases proved

theorem declaration_eq_ok (onLine : line.code.OnLine source)
    (declared : declaration line = .ok (name, signature)) :
    IsDeclared name ∧ signature.OnLine source := by
  obtain ⟨left, right, leftWithin, rightWithin, noColon, rfl, nonempty, rfl, something⟩ :=
    declaration_parts declared
  have named : left.trim.OnLine source := onLine.trim leftWithin nonempty
  refine ⟨?_, onLine.trim rightWithin something⟩
  constructor <;> rw [Excerpt.text, String.toList_ofList]
  · exact named.trimmed
  · exact named.oneLine
  · exact named.noComment
  · exact fun colon => noColon ((Excerpt.within_trim left).mem colon)

theorem proofExpression_eq_ok (onLine : line.code.OnLine source)
    (proved : proofExpression name line = .ok proof) : proof.OnLine source := by
  obtain ⟨rest, within, rfl, something⟩ := proofExpression_parts proved
  exact onLine.trim within something

theorem declaration_within (declared : declaration line = .ok (name, signature)) :
    signature.Within line.code := by
  obtain ⟨left, right, -, rightWithin, -, -, -, rfl, -⟩ := declaration_parts declared
  exact (Excerpt.within_trim right).trans rightWithin

theorem proofExpression_within (proved : proofExpression name line = .ok proof) :
    proof.Within line.code := by
  obtain ⟨rest, within, rfl, -⟩ := proofExpression_parts proved
  exact (Excerpt.within_trim rest).trans within

/-- Whether the failure is about this line: it is no declaration or no proof, or it declares a
theorem without a proof. -/
def Line.Refused (line : Line) (failure : Failure) : Prop :=
  declaration line = .error failure ∨ (∃ name, proofExpression name line = .error failure) ∨
    ∃ name signature, declaration line = .ok (name, signature) ∧
      failure = line.failure (some name) (.missingProof name)

theorem declaration_eq_error (refused : declaration line = .error failure) :
    (∃ subject, failure = line.failure subject failure.diagnostic) ∧
      failure.diagnostic.category = .script ∧
      ∀ name, failure.diagnostic ≠ .missingProof name := by
  unfold declaration at refused
  split at refused
  next =>
    cases refused
    exact ⟨⟨_, rfl⟩, rfl, fun _ => Diagnostic.noConfusion⟩
  next header _ =>
    split at refused
    next =>
      cases refused
      exact ⟨⟨_, rfl⟩, rfl, fun _ => Diagnostic.noConfusion⟩
    next =>
      dsimp only at refused
      split at refused
      next =>
        cases refused
        exact ⟨⟨_, rfl⟩, rfl, fun _ => Diagnostic.noConfusion⟩
      next =>
        split at refused <;> cases refused
        exact ⟨⟨_, rfl⟩, rfl, fun _ => Diagnostic.noConfusion⟩

theorem proofExpression_eq_error (refused : proofExpression name line = .error failure) :
    (∃ subject, failure = line.failure subject failure.diagnostic) ∧
      failure.diagnostic.category = .script := by
  unfold proofExpression at refused
  dsimp only at refused
  split at refused
  next =>
    split at refused <;> cases refused
    exact ⟨⟨_, rfl⟩, rfl⟩
  next =>
    split at refused <;> cases refused <;> exact ⟨⟨_, rfl⟩, rfl⟩

/-- A refused line is what the failure points at. -/
theorem Line.Refused.located (refused : line.Refused failure) :
    failure.line = line.number ∧ failure.span = line.code.span ∧
      failure.diagnostic.category = .script := by
  rcases refused with declared | ⟨name, proved⟩ | ⟨name, signature, -, rfl⟩
  · obtain ⟨⟨subject, same⟩, script, -⟩ := declaration_eq_error declared
    exact ⟨by rw [same]; rfl, by rw [same]; rfl, script⟩
  · obtain ⟨⟨subject, same⟩, script⟩ := proofExpression_eq_error proved
    exact ⟨by rw [same]; rfl, by rw [same]; rfl, script⟩
  · exact ⟨rfl, rfl, rfl⟩

/-! ### All lines -/

variable {lines rest : List Line} {header second : Line} {theorems : List Theorem}

theorem theoremsOf_cons_eq_ok (read : theoremsOf (header :: second :: rest) = .ok theorems) :
    ∃ name signature proof more, declaration header = .ok (name, signature) ∧
      proofExpression name second = .ok proof ∧ theoremsOf rest = .ok more ∧
      theorems = ⟨name, signature.text, proof.text, header.number, signature.span, proof.span⟩ ::
        more := by
  obtain ⟨⟨name, signature⟩, declared, read⟩ := bind_eq_ok.mp read
  obtain ⟨proof, proved, read⟩ := bind_eq_ok.mp read
  obtain ⟨more, readRest, returned⟩ := bind_eq_ok.mp read
  cases returned
  exact ⟨name, signature, proof, more, declared, proved, readRest, rfl⟩

theorem theoremsOf_single_eq_error (refused : theoremsOf [header] = .error failure) :
    declaration header = .error failure ∨
      ∃ name signature, declaration header = .ok (name, signature) ∧
        failure = header.failure (some name) (.missingProof name) := by
  rcases bind_eq_error.mp refused with bad | ⟨⟨name, signature⟩, declared, missing⟩
  · exact .inl bad
  · cases missing
    exact .inr ⟨name, signature, declared, rfl⟩

theorem theoremsOf_cons_eq_error
    (refused : theoremsOf (header :: second :: rest) = .error failure) :
    declaration header = .error failure ∨
      ∃ name signature, declaration header = .ok (name, signature) ∧
        (proofExpression name second = .error failure ∨
          ∃ proof, proofExpression name second = .ok proof ∧ theoremsOf rest = .error failure) := by
  rcases bind_eq_error.mp refused with bad | ⟨⟨name, signature⟩, declared, refused⟩
  · exact .inl bad
  refine .inr ⟨name, signature, declared, ?_⟩
  rcases bind_eq_error.mp refused with bad | ⟨proof, proved, refused⟩
  · exact .inl bad
  rcases bind_eq_error.mp refused with bad | ⟨more, -, returned⟩
  · exact .inr ⟨proof, proved, bad⟩
  · cases returned

theorem readFrom_of_theoremsOf (onLines : ∀ line ∈ lines, line.code.OnLine source)
    (read : theoremsOf lines = .ok theorems) : ∀ subject ∈ theorems, subject.ReadFrom source := by
  fun_induction theoremsOf lines generalizing theorems with
  | case1 =>
    cases read
    intro subject member
    cases member
  | case2 header =>
    obtain ⟨_, -, missing⟩ := bind_eq_ok.mp read
    cases missing
  | case3 header second rest ih =>
    obtain ⟨name, signature, proof, more, declared, proved, readRest, rfl⟩ :=
      theoremsOf_cons_eq_ok read
    simp only [List.forall_mem_cons] at onLines ⊢
    obtain ⟨isDeclared, signed⟩ := declaration_eq_ok onLines.1 declared
    have given := proofExpression_eq_ok onLines.2.1 proved
    exact ⟨⟨isDeclared, ⟨signature, signed, rfl, rfl⟩, ⟨proof, given, rfl, rfl⟩⟩,
      ih onLines.2.2 readRest⟩

theorem refused_of_theoremsOf (refused : theoremsOf lines = .error failure) :
    ∃ line ∈ lines, line.Refused failure := by
  fun_induction theoremsOf lines with
  | case1 => cases refused
  | case2 header =>
    rcases theoremsOf_single_eq_error refused with bad | missing
    · exact ⟨header, List.mem_cons_self, .inl bad⟩
    · exact ⟨header, List.mem_cons_self, .inr (.inr missing)⟩
  | case3 header second rest ih =>
    rcases theoremsOf_cons_eq_error refused with bad | ⟨name, signature, -, bad | ⟨proof, -, bad⟩⟩
    · exact ⟨header, List.mem_cons_self, .inl bad⟩
    · exact ⟨second, by simp, .inr (.inl ⟨name, bad⟩)⟩
    · obtain ⟨line, member, found⟩ := ih bad
      exact ⟨line, by simp [member], found⟩

/-! ### Scripts -/

/-- The parts of the theorems that a script declares stand in it. -/
theorem readFrom_of_read {text : String} (accepted : read text = .ok theorems) :
    ∀ subject ∈ theorems, subject.ReadFrom text.toList :=
  readFrom_of_theoremsOf (fun _ member => onLine_of_mem_codeLines member) accepted

/-- A script that cannot be read has a line that is refused. -/
theorem refused_of_read {text : String} (refused : read text = .error failure) :
    ∃ line ∈ codeLines text, line.Refused failure :=
  refused_of_theoremsOf refused

end Script

end ProofScript
