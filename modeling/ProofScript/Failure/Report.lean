import ProofScript.Failure
import ProofScript.Source.Position

/-!
# Reports

A failure is reported together with the lines of the source that it concerns, in which the offending
characters are marked. Where there is nothing to point at, the message is a footer of the report.

A report is data. How it is laid out is left to whoever prints it.
-/
namespace ProofScript

/-- A script in memory and the name it goes by. -/
structure Source extends Buffer where
  name : String

/-- A script that is the only text in memory. -/
def Source.alone (name text : String) : Source :=
  ⟨⟨0, text⟩, name⟩

/-- How grave a part of a report is. -/
inductive Severity where
  | error
  | info
  | note
deriving DecidableEq, Repr

/-- A part of an excerpt that is marked, from byte `start` of the excerpt up to byte `stop`. -/
structure Annotation where
  severity : Severity
  start : Nat
  stop : Nat
  label : String
deriving DecidableEq, Repr

/-- Lines of a source, a part of which is marked. -/
structure Snippet where
  lines : String
  /-- The number of the first line. -/
  firstLine : Nat
  /-- The name of the source. -/
  origin : String
  /-- Whether lines that are not marked may be left out. -/
  fold : Bool
  annotation : Annotation
deriving DecidableEq, Repr

structure Report where
  severity : Severity
  title : String
  footers : List (Severity × String)
  snippet : Option Snippet
deriving DecidableEq, Repr

/-- Why there is no report: the place of the failure is none in the source. -/
inductive ReportError where
  /-- The line or the column exceeds 32 bits. -/
  | position
  /-- An offset is less than the one that it is counted from. -/
  | underflow
  /-- The source cannot be cut where the lines begin and end. -/
  | slice
deriving DecidableEq, Repr

namespace Failure

/-- The heading of the report. -/
def title (failure : Failure) : String :=
  match failure.subject with
  | some name => failure.diagnostic.heading ++ " in theorem '" ++ name ++ "'"
  | none => failure.diagnostic.heading

/-- How far behind `origin` the offset is. -/
def distance (origin offset : Nat) : Except ReportError Nat :=
  if offset < origin then .error .underflow else .ok (offset - origin)

/-- The lines on which the failure begins and ends. It begins at `position`. -/
def snippet (failure : Failure) (source : Source) (position : Position) :
    Except ReportError Snippet := do
  let start := failure.span.start.toNat
  let stop := failure.span.stop.toNat
  let lineStart ← distance position.column (start + 1)
  let lineStop := endOfLine source.text (max stop start)
  let first ← distance lineStart start
  let last ← distance lineStart stop
  let annotation : Annotation := ⟨.error, first, last, failure.diagnostic.message⟩
  match Text.slice? lineStart lineStop source.text.toList with
  | none => .error .slice
  | some lines => .ok ⟨String.ofList lines, position.line, source.name, true, annotation⟩

/-- The report of a failure in `source`, the lines of which are looked up in `cache`. -/
def report (failure : Failure) (source : Source) (cache : PositionCache) :
    Except ReportError (Report × PositionCache) :=
  let notes := failure.diagnostic.advice.map fun text => (Severity.note, text)
  if failure.span.isNull || source.text.utf8ByteSize < failure.span.stop.toNat then
    let details := (Severity.info, failure.diagnostic.message)
    .ok (⟨.error, failure.title, notes ++ [details], none⟩, cache)
  else
    match cache.positionAt source.toBuffer failure.span.start.toNat with
    | (none, _) => .error .position
    | (some position, cache) =>
      (failure.snippet source position).map fun snippet =>
        (⟨.error, failure.title, notes, some snippet⟩, cache)

end Failure

end ProofScript
