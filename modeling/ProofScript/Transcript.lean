import ProofScript.Verification

/-!
# Transcripts

What is told while theorems are checked: which theorem is being checked and how, what evaluation
comes to, which builtins it calls, and why a citation is refused. A transcript is drawn up from the
same results that the check goes by, and it ends where the check ends.
-/
namespace ProofScript

inductive LogLevel where
  | trace
  | debug
  | info
deriving DecidableEq, Repr

def LogLevel.name : LogLevel → String
  | .trace => "TRACE"
  | .debug => "DEBUG"
  | .info => "INFO"

inductive Event where
  | catalogBuilt (size : Nat)
  | checking (name : String) (line : Nat)
  | byRefl (name : String)
  | byLemma (name cited : String)
  | evaluated (sides : Refl.Sides)
  | mismatch (signature : Signature) (cited : String) (stated : Signature)
  | verified (count : Nat)
  | called (call : Call)

namespace Event

def level : Event → LogLevel
  | .called _ => .trace
  | .verified _ => .info
  | _ => .debug

def text : Event → String
  | .catalogBuilt size => "Lemma catalog built with " ++ toString size ++ " entries"
  | .checking name line => "Checking theorem " ++ name ++ " (line " ++ toString line ++ ")"
  | .byRefl name => name ++ ": by Refl"
  | .byLemma name cited => name ++ ": by lemma " ++ cited
  | .evaluated sides =>
    "Refl: " ++ sides.left.render ++ " ~> " ++ sides.leftValue.render ++ ", " ++
      sides.right.render ++ " ~> " ++ sides.rightValue.render
  | .mismatch signature cited stated =>
    "Signature mismatch: " ++ signature.render ++ " against " ++ cited ++ " : " ++ stated.render
  | .verified count => "Verified " ++ toString count ++ " theorem(s)"
  | .called call =>
    "apply " ++ call.name ++ " to " ++ toString call.arguments ++ " argument(s)"

end Event

namespace Transcript

/-- The calls made by an evaluation. -/
def ofCalls {α : Type} (evaluation : Recorded α) : List Event :=
  (callsOf evaluation).map .called

/-- Evaluating a term. -/
def ofEvaluate (limit : Nat) (env : Env) (term : Term) : List Event :=
  ofCalls (Evaluation.term (Evaluation.application limit) env term)

/-- Applying a value to another. -/
def ofCallValue (limit : Nat) (function arg : Value) : List Event :=
  ofCalls (Evaluation.application limit function arg)

/-- Applying a builtin. -/
def ofCallBuiltin (limit : Nat) (name : String) (args : List Value) : List Event :=
  ofCalls (Evaluation.applyNamed (Evaluation.application limit) name args)

/-- Checking the proof `Refl`. The right side is evaluated only if the left side has a value. -/
def ofRefl (limit : Nat) (signature : Signature) : List Event :=
  match signature.result.sides? with
  | none => []
  | some (left, right) =>
    let rightCalls :=
      match evaluate limit [] left with
      | .ok _ => ofEvaluate limit [] right
      | .error _ => []
    let values :=
      match Refl.evaluate limit signature with
      | .ok sides => [.evaluated sides]
      | .error _ => []
    ofEvaluate limit [] left ++ rightCalls ++ values

/-- Checking a citation. -/
def ofCitation (catalog : Catalog) (signature : Signature) (name : String) : List Event :=
  match catalog.find? name with
  | none => []
  | some stated =>
    if signature.canonical = stated then []
    else [.mismatch signature.canonical name stated]

/-- Checking a theorem. -/
def ofCheck (limit : Nat) (catalog : Catalog) (subject : Theorem) : List Event :=
  .checking subject.name subject.line ::
    match subject.read with
    | .error _ => []
    | .ok (signature, .refl) => .byRefl subject.name :: ofRefl limit signature
    | .ok (signature, .citation name) =>
      .byLemma subject.name name :: ofCitation catalog signature name

/-- Checking theorems one after the other, `count` of them having passed before. -/
def ofCheckAll (limit : Nat) (catalog : Catalog) (count : Nat) : List Theorem → List Event
  | [] => [.verified count]
  | subject :: rest =>
    ofCheck limit catalog subject ++
      match subject.check limit catalog with
      | .error _ => []
      | .ok _ => ofCheckAll limit catalog (count + 1) rest

/-- Building the catalog. -/
def ofCatalog : List Event :=
  match loadCatalog with
  | .ok catalog => [.catalogBuilt catalog.size]
  | .error _ => []

/-- Checking theorems against the catalog of all lemmas. -/
def ofVerify (limit : Nat) (theorems : List Theorem) : List Event :=
  match loadCatalog with
  | .ok catalog => .catalogBuilt catalog.size :: ofCheckAll limit catalog 0 theorems
  | .error _ => []

end Transcript

end ProofScript
