import ProofScript.Proofs.Grammar.OneLine
import ProofScript.Proofs.Grammar.PrintedSignature
import ProofScript.Proofs.Script.Reading
import ProofScript.Proofs.Verification.Blame
import ProofScript.Script.Rendering

/-!
# Writing a script and reading it back

Theorems are written up to the first one whose signature cannot be read. Each of them takes up an
empty line, a line for its declaration and a line for its proof, and nothing in these lines can be
mistaken: the name holds no colon, neither part holds a newline or begins a comment, and white space
stands only where it is trimmed off again. So all that was written is read back, the signatures in
printed form, and the theorems that were read back have the same verdict as those that were written.

## Main results

`Script.exists_rendered`: what is written, and where writing stops.

`Script.read_rendered`: what was written is read back.

`Script.render_reread`: both of them, and the verdict.
-/
namespace ProofScript

open Text Grammar

/-! ### Cutting what was put together -/

namespace Excerpt

variable {excerpt : Excerpt} {front rest left right : List Char} {mark : Char}

theorem after?_of_chars (spelled : excerpt.chars = front ++ rest) :
    ∃ found, excerpt.after? front = some found ∧ found.chars = rest := by
  refine ⟨excerpt.skip front, ?_, ?_⟩
  · rw [after?, if_pos]
    rw [spelled]
    exact List.isPrefixOf_iff_prefix.mpr (List.prefix_append front rest)
  · rw [skip, spelled, List.drop_left]

theorem split?_of_chars (spelled : excerpt.chars = left ++ mark :: right) (absent : mark ∉ left) :
    ∃ found found', excerpt.split? mark = some (found, found') ∧ found.chars = left ∧
      found'.chars = right := by
  have differs : ∀ c ∈ left, (c != mark) = true := by
    intro c member
    simp only [bne_iff_ne]
    rintro rfl
    exact absent member
  have taken : excerpt.chars.takeWhile (· != mark) = left := by
    rw [spelled, List.takeWhile_append_of_pos differs, List.takeWhile_cons_of_neg (by simp),
      List.append_nil]
  refine ⟨excerpt.before mark, excerpt.skip (left ++ [mark]), ?_, taken, ?_⟩
  · rw [split?, taken, if_pos]
    rw [spelled]
    simp
  · have whole : excerpt.chars = left ++ [mark] ++ right := by simp [spelled]
    rw [skip, whole, List.drop_left]

end Excerpt

namespace Script

/-! ### Single lines -/

theorem splitLines_of_not_mem {chars : List Char} (oneLine : '\n' ∉ chars) (offset : Nat)
    (line : List Char) : splitLines offset line chars = [⟨offset, line.reverse ++ chars⟩] := by
  induction chars generalizing line with
  | nil => simp [splitLines]
  | cons c chars ih =>
    rw [List.mem_cons, not_or] at oneLine
    rw [splitLines, if_neg (Ne.symm oneLine.1), ih oneLine.2]
    simp

/-- A line of the text and the lines behind it. -/
theorem splitLines_line {line : List Char} (oneLine : '\n' ∉ line) (offset : Nat)
    (rest : List Char) :
    ∃ behind, splitLines offset [] (line ++ '\n' :: rest) =
      ⟨offset, line⟩ :: splitLines behind [] rest := by
  rw [splitLines_append, splitLines_of_not_mem oneLine]
  exact ⟨_, rfl⟩

/-- A line that is empty or begins with a comment is left out. -/
theorem numberLines_empty {excerpt : Excerpt} (empty : excerpt.chars.takeWhile (· != '#') = [])
    (excerpts : List Excerpt) (number : Nat) :
    numberLines number (excerpt :: excerpts) = numberLines (number + 1) excerpts := by
  have none : (Line.ofExcerpt number excerpt).code.chars = [] := by
    rw [Line.ofExcerpt, Excerpt.chars_trim, Excerpt.before, empty]
    rfl
  rw [numberLines, none, if_pos List.isEmpty_nil]

/-- A line without a comment and white space around it is kept as it is. -/
theorem numberLines_code {chars : List Char} (trimmed : Trimmed chars) (noComment : '#' ∉ chars)
    (offset : Nat) (excerpts : List Excerpt) (number : Nat) :
    ∃ line : Line, line.code.chars = chars ∧
      numberLines number (⟨offset, chars⟩ :: excerpts) =
        line :: numberLines (number + 1) excerpts := by
  have before : chars.takeWhile (· != '#') = chars := by
    rw [List.takeWhile_eq_self_iff]
    intro c member
    simp only [bne_iff_ne]
    rintro rfl
    exact noComment member
  have kept : (Line.ofExcerpt number ⟨offset, chars⟩).code.chars = chars := by
    rw [Line.ofExcerpt, Excerpt.chars_trim, Excerpt.before, before, trimmed.trim_eq]
  refine ⟨Line.ofExcerpt number ⟨offset, chars⟩, kept, ?_⟩
  rw [numberLines, kept, if_neg (by simpa using trimmed.nonempty)]

/-- A declaration as it is written is read. -/
theorem declaration_of_chars {line : Line} {name : String} {statement : List Char}
    (spelled : line.code.chars =
      "theorem ".toList ++ (name.toList ++ (" : ".toList ++ statement)))
    (declared : IsDeclared name) (trimmed : Trimmed statement) :
    ∃ signature, declaration line = .ok (name, signature) ∧ signature.chars = statement := by
  obtain ⟨header, found, headerChars⟩ := Excerpt.after?_of_chars spelled
  -- the name does not hold the colon, nor does the blank behind it
  have absent : ':' ∉ name.toList ++ [' '] := by
    simpa using declared.noColon
  have parts : header.chars = (name.toList ++ [' ']) ++ ':' :: ([' '] ++ statement) := by
    rw [headerChars]
    simp
  obtain ⟨left, right, split, leftChars, rightChars⟩ := Excerpt.split?_of_chars parts absent
  have blank : ∀ c ∈ [' '], isBlank c = true := List.forall_mem_singleton.mpr (by decide)
  have nothing : ∀ c ∈ ([] : List Char), isBlank c = true := List.forall_mem_nil _
  have named : left.trim.chars = name.toList := by
    have surrounded := declared.trimmed.trim_surrounded nothing blank
    rw [List.nil_append] at surrounded
    rw [Excerpt.chars_trim, leftChars, surrounded]
  have signed : right.trim.chars = statement := by
    have surrounded := trimmed.trim_surrounded blank nothing
    rw [List.append_nil] at surrounded
    rw [Excerpt.chars_trim, rightChars, surrounded]
  have text : left.trim.text = name := by
    rw [Excerpt.text, named, String.ofList_toList]
  have nonempty : name.isEmpty = false := by
    simpa [String.toList_eq_nil_iff] using declared.trimmed.nonempty
  refine ⟨right.trim, ?_, signed⟩
  unfold declaration
  simp only [found, split, text, nonempty, signed]
  rw [if_neg Bool.false_ne_true, if_neg (by simpa using trimmed.nonempty)]

/-- A proof as it is written is read. -/
theorem proofExpression_of_chars {line : Line} {proof : List Char} (name : String)
    (spelled : line.code.chars = "proof ".toList ++ proof) (trimmed : Trimmed proof) :
    ∃ excerpt, proofExpression name line = .ok excerpt ∧ excerpt.chars = proof := by
  obtain ⟨rest, found, restChars⟩ := Excerpt.after?_of_chars spelled
  have given : rest.trim.chars = proof := by
    rw [Excerpt.chars_trim, restChars, trimmed.trim_eq]
  refine ⟨rest.trim, ?_, given⟩
  unfold proofExpression
  simp only [found, given]
  rw [if_neg (by simpa using trimmed.nonempty)]

end Script

/-! ### Theorems -/

/-- A theorem that can stand in a script: its parts are on one line each. -/
structure Theorem.Writable (subject : Theorem) : Prop where
  name : IsDeclared subject.name
  trimmed : Trimmed subject.proof.toList
  oneLine : '\n' ∉ subject.proof.toList
  noComment : '#' ∉ subject.proof.toList

theorem Theorem.ReadFrom.writable {subject : Theorem} {source : List Char}
    (readFrom : subject.ReadFrom source) : subject.Writable := by
  obtain ⟨name, -, excerpt, onLine, proof, -⟩ := readFrom
  refine ⟨name, ?_, ?_, ?_⟩ <;> rw [proof, Excerpt.text, String.toList_ofList]
  · exact onLine.trimmed
  · exact onLine.oneLine
  · exact onLine.noComment

/-- The second theorem is the first one with its signature printed. -/
structure Theorem.PrintedAs (subject again : Theorem) : Prop where
  name : again.name = subject.name
  signature : ∃ signature, Signature.parse subject.signature = .ok signature ∧
    again.signature = signature.render
  proof : again.proof = subject.proof

namespace Script

/-- The lines that are written for one theorem, and the theorem that is read from them. -/
theorem theoremsOf_rendered {subject : Theorem} {signature : Signature} {rest : List Char}
    (writable : subject.Writable) (parsed : Signature.parse subject.signature = .ok signature)
    (number offset : Nat) :
    ∃ behind again, subject.PrintedAs again ∧
      theoremsOf (numberLines number
          (splitLines offset [] ((renderTheorem subject signature).toList ++ rest))) =
        (theoremsOf (numberLines (number + 3) (splitLines behind [] rest))).map (again :: ·) := by
  have printed := (Signature.wellFormed_of_parse parsed).printed_render
  let header := "theorem ".toList ++
    (subject.name.toList ++ (" : ".toList ++ signature.render.toList))
  let second := "proof ".toList ++ subject.proof.toList
  have lines : (renderTheorem subject signature).toList ++ rest =
      [] ++ '\n' :: (header ++ '\n' :: (second ++ '\n' :: rest)) := by
    delta renderTheorem
    simp [header, second, String.toList_append]
  -- the three lines, of which the first one is empty
  have headerLine : '\n' ∉ header := by
    simp [header, writable.name.oneLine, printed.newline_not_mem]
  have secondLine : '\n' ∉ second := by
    simp [second, writable.oneLine]
  obtain ⟨afterEmpty, emptySplit⟩ :=
    splitLines_line List.not_mem_nil offset (header ++ '\n' :: (second ++ '\n' :: rest))
  obtain ⟨afterHeader, headerSplit⟩ :=
    splitLines_line headerLine afterEmpty (second ++ '\n' :: rest)
  obtain ⟨behind, secondSplit⟩ := splitLines_line secondLine afterHeader rest
  -- the other two are code as they stand
  have headerTrimmed : Trimmed header := by
    have word : Trimmed "theorem".toList := trimmed_of_seen (by decide) (by decide)
    have whole := word.append printed.trimmed (" ".toList ++ (subject.name.toList ++ " : ".toList))
    simpa [header] using whole
  have secondTrimmed : Trimmed second := by
    have word : Trimmed "proof".toList := trimmed_of_seen (by decide) (by decide)
    simpa [second] using word.append writable.trimmed " ".toList
  have headerComment : '#' ∉ header := by
    simp [header, writable.name.noComment, printed.comment_not_mem]
  have secondComment : '#' ∉ second := by
    simp [second, writable.noComment]
  obtain ⟨first, firstChars, firstNumbered⟩ :=
    numberLines_code headerTrimmed headerComment afterEmpty
      (⟨afterHeader, second⟩ :: splitLines behind [] rest) (number + 1)
  obtain ⟨next, nextChars, nextNumbered⟩ :=
    numberLines_code secondTrimmed secondComment afterHeader (splitLines behind [] rest)
      (number + 1 + 1)
  obtain ⟨statement, declared, statementChars⟩ :=
    declaration_of_chars firstChars writable.name printed.trimmed
  obtain ⟨proof, proved, proofChars⟩ :=
    proofExpression_of_chars subject.name nextChars writable.trimmed
  have statementText : statement.text = signature.render := by
    rw [Excerpt.text, statementChars, String.ofList_toList]
  have proofText : proof.text = subject.proof := by
    rw [Excerpt.text, proofChars, String.ofList_toList]
  refine ⟨behind, ⟨subject.name, statement.text, proof.text, first.number, statement.span,
    proof.span⟩, ⟨rfl, ⟨signature, parsed, statementText⟩, proofText⟩, ?_⟩
  rw [lines, emptySplit, numberLines_empty rfl, headerSplit, secondSplit, firstNumbered,
    nextNumbered, theoremsOf, declared]
  simp only [bind, Except.bind, proved]
  cases theoremsOf (numberLines (number + 1 + 1 + 1) (splitLines behind [] rest)) <;> rfl

/-! ### Scripts -/

/-- A theorem together with what its signature is read as. -/
def ReadsAs (subject : Theorem) (signature : Signature) : Prop :=
  Signature.parse subject.signature = .ok signature

/-- The text of theorems whose signatures are read as `signatures`. -/
def renderedText (theorems : List Theorem) (signatures : List Signature) : String :=
  String.join (List.zipWith renderTheorem theorems signatures)

/-- The two lines that a script is headed with. -/
def renderedHeader (moduleName sourceName : String) : String :=
  "# module " ++ moduleName ++ "\n# rendered from " ++ sourceName ++ "\n"

/-- Writing stops at the first theorem whose signature cannot be read, and fails there. -/
theorem exists_rendered (theorems : List Theorem) :
    ∃ written rest signatures, theorems = written ++ rest ∧
      List.Forall₂ ReadsAs written signatures ∧
      (renderTheorems theorems).1 = renderedText written signatures ∧
      ((renderTheorems theorems).2 = .ok () ↔ rest = []) ∧
      ∀ next others, rest = next :: others → ∃ diagnostic,
        Signature.parse next.signature = .error diagnostic ∧
        (renderTheorems theorems).2 =
          .error ⟨some next.name, next.line, next.signatureSpan, diagnostic⟩ := by
  induction theorems with
  | nil => exact ⟨[], [], [], rfl, .nil, rfl, by simp [renderTheorems], by simp⟩
  | cons subject theorems ih =>
    cases parsed : Signature.parse subject.signature with
    | error diagnostic =>
      refine ⟨[], subject :: theorems, [], rfl, .nil, ?_, ?_, ?_⟩
      · simp [renderTheorems, parsed, renderedText]
      · simp [renderTheorems, parsed]
      · intro next others same
        cases same
        exact ⟨diagnostic, parsed, by simp [renderTheorems, parsed]⟩
    | ok signature =>
      obtain ⟨written, rest, signatures, whole, reads, text, complete, stopped⟩ := ih
      have step : renderTheorems (subject :: theorems) =
          (renderTheorem subject signature ++ (renderTheorems theorems).1,
            (renderTheorems theorems).2) := by
        rw [renderTheorems, parsed]
      rw [step]
      refine ⟨subject :: written, rest, signature :: signatures, ?_, .cons parsed reads, ?_,
        complete, stopped⟩
      · rw [whole, List.cons_append]
      · rw [text, renderedText, renderedText, List.zipWith_cons_cons, String.join_cons]

theorem theoremsOf_renderedText {written : List Theorem} {signatures : List Signature}
    (writable : ∀ subject ∈ written, subject.Writable)
    (reads : List.Forall₂ ReadsAs written signatures) (number offset : Nat) :
    ∃ again, theoremsOf (numberLines number
        (splitLines offset [] (renderedText written signatures).toList)) = .ok again ∧
      List.Forall₂ Theorem.PrintedAs written again := by
  induction reads generalizing number offset with
  | nil => exact ⟨[], rfl, .nil⟩
  | @cons subject signature written signatures parsed _ ih =>
    rw [List.forall_mem_cons] at writable
    have characters : (renderedText (subject :: written) (signature :: signatures)).toList =
        (renderTheorem subject signature).toList ++
          (renderedText written signatures).toList := by
      rw [renderedText, List.zipWith_cons_cons, String.join_cons, String.toList_append]
      rfl
    obtain ⟨behind, first, printedAs, step⟩ :=
      theoremsOf_rendered writable.1 parsed number offset
    obtain ⟨again, readRest, printed⟩ := ih writable.2 (number + 3) behind
    refine ⟨first :: again, ?_, .cons printedAs printed⟩
    rw [characters, step, readRest]
    rfl

/-- What was written is read back. The header is two lines of comments. -/
theorem read_rendered {written : List Theorem} {signatures : List Signature}
    (writable : ∀ subject ∈ written, subject.Writable)
    (reads : List.Forall₂ ReadsAs written signatures) {moduleName sourceName : String}
    (moduleLine : '\n' ∉ moduleName.toList) (sourceLine : '\n' ∉ sourceName.toList) :
    ∃ again, read (renderedHeader moduleName sourceName ++ renderedText written signatures) =
        .ok again ∧ List.Forall₂ Theorem.PrintedAs written again := by
  let first := "# module ".toList ++ moduleName.toList
  let second := "# rendered from ".toList ++ sourceName.toList
  have lines : (renderedHeader moduleName sourceName ++ renderedText written signatures).toList =
      first ++ '\n' :: (second ++ '\n' :: (renderedText written signatures).toList) := by
    simp [renderedHeader, first, second, String.toList_append]
  have firstLine : '\n' ∉ first := by simp [first, moduleLine]
  have secondLine : '\n' ∉ second := by simp [second, sourceLine]
  obtain ⟨afterFirst, firstSplit⟩ :=
    splitLines_line firstLine 0 (second ++ '\n' :: (renderedText written signatures).toList)
  obtain ⟨afterSecond, secondSplit⟩ :=
    splitLines_line secondLine afterFirst (renderedText written signatures).toList
  obtain ⟨again, readAll, printed⟩ := theoremsOf_renderedText writable reads (1 + 1 + 1) afterSecond
  refine ⟨again, ?_, printed⟩
  rw [read, codeLines, lines, firstSplit, numberLines_empty rfl, secondSplit,
    numberLines_empty rfl, readAll]

/-- A signature is read back as it is, if no declared parameter looks like a positional one. -/
theorem parse_render_of_declared {text : String} {signature : Signature}
    (parsed : Signature.parse text = .ok signature)
    (spelled : ∀ param ∈ Signature.declared text, param.isAnonymous = false) :
    Signature.parse signature.render = .ok signature := by
  obtain ⟨types, params⟩ := Signature.params_of_parse parsed
  exact (Signature.wellFormed_of_parse parsed).parse_render_self params spelled

/-- A theorem with its signature printed states the same, if no declared parameter looks like a
positional one. -/
theorem sameStatement_of_printedAs {subject again : Theorem} (printedAs : subject.PrintedAs again)
    (spelled : ∀ param ∈ Signature.declared subject.signature, param.isAnonymous = false) :
    subject.SameStatement again := by
  obtain ⟨name, ⟨signature, parsed, printed⟩, proof⟩ := printedAs
  have reread : Signature.parse again.signature = .ok signature := by
    rw [printed, parse_render_of_declared parsed spelled]
  exact ⟨name, ⟨signature, parsed, reread⟩, proof⟩

theorem forall₂_sameStatement {theorems again : List Theorem}
    (printed : List.Forall₂ Theorem.PrintedAs theorems again)
    (spelled : ∀ subject ∈ theorems, ∀ param ∈ Signature.declared subject.signature,
      param.isAnonymous = false) :
    List.Forall₂ Theorem.SameStatement theorems again := by
  induction printed with
  | nil => exact .nil
  | cons first _ ih =>
    rw [List.forall_mem_cons] at spelled
    exact .cons (sameStatement_of_printedAs first spelled.1) (ih spelled.2)

/-- A script is written up to the first theorem whose signature cannot be read, and what was written
is read back with the signatures printed. If all of it was written, and no declared parameter looks
like a positional one, then what was read back has the same verdict. -/
theorem render_reread {text : String} {theorems : List Theorem}
    (accepted : read text = .ok theorems) {moduleName sourceName : String}
    (moduleLine : '\n' ∉ moduleName.toList) (sourceLine : '\n' ∉ sourceName.toList) :
    ∃ written rest signatures again, theorems = written ++ rest ∧
      List.Forall₂ ReadsAs written signatures ∧
      (render moduleName sourceName theorems).1 =
        renderedHeader moduleName sourceName ++ renderedText written signatures ∧
      ((render moduleName sourceName theorems).2 = .ok () ↔ rest = []) ∧
      (∀ next others, rest = next :: others → ∃ diagnostic,
        Signature.parse next.signature = .error diagnostic ∧
        (render moduleName sourceName theorems).2 =
          .error ⟨some next.name, next.line, next.signatureSpan, diagnostic⟩) ∧
      read (render moduleName sourceName theorems).1 = .ok again ∧
      List.Forall₂ Theorem.PrintedAs written again ∧
      ((render moduleName sourceName theorems).2 = .ok () →
        (∀ subject ∈ theorems, ∀ param ∈ Signature.declared subject.signature,
          param.isAnonymous = false) →
        ∀ limit, (verify limit again).mapError Failure.finding =
          (verify limit theorems).mapError Failure.finding) := by
  obtain ⟨written, rest, signatures, whole, reads, content, complete, stopped⟩ :=
    exists_rendered theorems
  have output : (render moduleName sourceName theorems).1 =
      renderedHeader moduleName sourceName ++ renderedText written signatures := by
    rw [← content]
    rfl
  have writable : ∀ subject ∈ written, subject.Writable := by
    intro subject member
    have among : subject ∈ theorems := whole ▸ List.mem_append_left rest member
    exact (readFrom_of_read accepted subject among).writable
  obtain ⟨again, reread, printed⟩ := read_rendered writable reads moduleLine sourceLine
  refine ⟨written, rest, signatures, again, whole, reads, output, complete, stopped, ?_, printed,
    ?_⟩
  · rw [output, reread]
  · intro succeeded spelled limit
    -- nothing was left out, so that all theorems are compared
    rw [complete.mp succeeded, List.append_nil] at whole
    subst whole
    exact verify_eq_of_sameStatement (forall₂_sameStatement printed spelled)

/-- A script with a name of two words, white space in a proof, and a theorem that is false. -/
def spaced : String :=
  "theorem é  b : (n:Nat) -> plus n Z = (n) # →\n\n proof \tplusZeroRight   n\r\n" ++
    "theorem c : Z = (S Z)\nproof  Refl"

/-- What is read from `spaced`. -/
def spacedTheorems : List Theorem :=
  [⟨"é  b", "(n:Nat) -> plus n Z = (n)", "plusZeroRight   n", 1, .ofNat 16 41, .ofNat 57 74⟩,
    ⟨"c", "Z = (S Z)", "Refl", 4, .ofNat 88 97, .ofNat 105 109⟩]

theorem render_reread_spaced :
    read spaced = .ok spacedTheorems ∧ '\n' ∉ "Sums".toList ∧ '\n' ∉ "é.txt".toList ∧
      (render "Sums" "é.txt" spacedTheorems).2 = .ok () ∧
      ∃ again, read (render "Sums" "é.txt" spacedTheorems).1 = .ok again ∧
        List.Forall₂ Theorem.PrintedAs spacedTheorems again ∧
        ∀ limit, (verify limit again).mapError Failure.finding =
          (verify limit spacedTheorems).mapError Failure.finding := by
  have accepted : read spaced = .ok spacedTheorems := by decide +kernel
  have moduleLine : '\n' ∉ "Sums".toList := by decide +kernel
  have sourceLine : '\n' ∉ "é.txt".toList := by decide +kernel
  have succeeded : (render "Sums" "é.txt" spacedTheorems).2 = .ok () := by decide +kernel
  have spelled : ∀ subject ∈ spacedTheorems, ∀ param ∈ Signature.declared subject.signature,
      param.isAnonymous = false := by
    decide +kernel
  obtain ⟨written, rest, signatures, again, whole, -, -, complete, -, reread, printed, verdict⟩ :=
    render_reread accepted moduleLine sourceLine
  rw [complete.mp succeeded, List.append_nil] at whole
  subst whole
  exact ⟨accepted, moduleLine, sourceLine, succeeded, again, reread, printed,
    verdict succeeded spelled⟩

end Script

end ProofScript
