import ProofScript.Failure
import ProofScript.Text.Excerpt

/-!
# Scripts

A script declares theorems, each followed by its proof:

    # comments run to the end of the line
    theorem plus_zero_right : (n : Nat) -> plus n Z = n
    proof plusZeroRight n

Blank lines and comments may stand anywhere between lines. Reading a script only takes its lines
apart; signatures and proofs stay text, and each remembers where it stands in the source.
-/
namespace ProofScript

structure Theorem where
  name : String
  /-- The text of the signature. -/
  signature : String
  /-- The text of the proof. -/
  proof : String
  /-- The line of the declaration. -/
  line : Nat
  signatureSpan : Span
  proofSpan : Span
deriving DecidableEq, Repr

namespace Script

/-- A line of a script. -/
structure Line where
  number : Nat
  /-- The line without its comment and the white space around it. -/
  code : Excerpt
  /-- The line with its comment. -/
  full : String

/-- The lines of a text that begins at byte `offset`, the current one beginning with `line`, last
character first. -/
def splitLines (offset : Nat) (line : List Char) : List Char → List Excerpt
  | [] => [⟨offset, line.reverse⟩]
  | c :: rest =>
    if c = '\n' then
      ⟨offset, line.reverse⟩ :: splitLines (offset + Text.byteLength line + 1) [] rest
    else
      splitLines offset (c :: line) rest

def Line.ofExcerpt (number : Nat) (excerpt : Excerpt) : Line where
  number
  code := (excerpt.before '#').trim
  full := String.ofList (Text.trim excerpt.chars)

/-- Numbers lines from `number` on and leaves out those without code. -/
def numberLines (number : Nat) : List Excerpt → List Line
  | [] => []
  | excerpt :: rest =>
    let line := Line.ofExcerpt number excerpt
    if line.code.chars.isEmpty then numberLines (number + 1) rest
    else line :: numberLines (number + 1) rest

/-- The lines of `text` that have code on them. -/
def codeLines (text : String) : List Line :=
  numberLines 1 (splitLines 0 [] text.toList)

/-- A failure that concerns a whole line. -/
def Line.failure (line : Line) (subject : Option String) (diagnostic : Diagnostic) : Failure :=
  ⟨subject, line.number, line.code.span, diagnostic⟩

/-- The name and the signature that a line declares. -/
def declaration (line : Line) : Except Failure (String × Excerpt) :=
  match line.code.after? "theorem ".toList with
  | none => .error (line.failure none (.expectedTheorem line.full))
  | some header =>
    match header.split? ':' with
    | none => .error (line.failure none .missingColon)
    | some (name, signature) =>
      let name := name.trim.text
      let signature := signature.trim
      if name.isEmpty then .error (line.failure none .missingTheoremName)
      else if signature.chars.isEmpty then .error (line.failure (some name) .missingSignature)
      else .ok (name, signature)

/-- The proof of the theorem `name` that a line gives. -/
def proofExpression (name : String) (line : Line) : Except Failure Excerpt :=
  let missing := line.failure (some name) (.missingProofExpression name)
  match line.code.after? "proof ".toList with
  | some proof => if proof.trim.chars.isEmpty then .error missing else .ok proof.trim
  | none =>
    if line.code.chars = "proof".toList then .error missing
    else .error (line.failure (some name) (.expectedProof name line.full))

/-- The theorems declared by lines with code on them. -/
def theoremsOf : List Line → Except Failure (List Theorem)
  | [] => .ok []
  | [header] => do
    let (name, _) ← declaration header
    .error (header.failure (some name) (.missingProof name))
  | header :: second :: rest => do
    let (name, signature) ← declaration header
    let proof ← proofExpression name second
    let theorems ← theoremsOf rest
    return ⟨name, signature.text, proof.text, header.number, signature.span, proof.span⟩ :: theorems

/-- The theorems of a script, or the first line that is out of place. -/
def read (text : String) : Except Failure (List Theorem) :=
  theoremsOf (codeLines text)

end Script

end ProofScript
