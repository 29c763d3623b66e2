import ProofScript.Command.Arguments
import ProofScript.Command.FileTree
import ProofScript.Command.Host
import ProofScript.Script.Rendering

/-!
# Running commands

A command goes through stages: the script is read, taken apart, and then verified or rendered. A
stage that fails ends the command, and the failure is reported in the source. With timing, each
stage that was entered tells how long it took; with debug output, verifying tells what it does.
-/
namespace ProofScript.Command

/-- What the program calls itself. -/
def versionText : String := "researchproof 0.1.0"

/-- A failure and the source it is reported in. -/
structure SourcedFailure where
  source : Source
  failure : Failure

/-- A process result: zero for success, one for a failure that was reported, two for a command line
that makes no sense, and 101 for a failure that cannot be reported. -/
abbrev ExitCode := UInt32

variable {m : Type → Type} [Monad m]

/-- Runs a stage and tells how long it took if asked to. -/
def timed {α : Type} (host : Host m) (flags : Flags) (name : String) (action : Unit → m α) :
    m α := do
  let start ← host.clock
  let result ← action ()
  let stop ← host.clock
  if flags.timing then host.print (.elapsed name (stop - start))
  return result

/-- Reads the script in `file` and takes it apart. -/
def readScript (host : Host m) (flags : Flags) (file : String) :
    m (Except SourcedFailure (Source × List Theorem)) := do
  match ← timed host flags "read" fun _ => host.read file with
  | .error cause => return .error ⟨.alone file "", .ofDiagnostic (.input cause)⟩
  | .ok text =>
    let source := Source.alone file text
    match ← timed host flags "parse" fun _ => pure (Script.read text) with
    | .error failure => return .error ⟨source, failure⟩
    | .ok theorems => return .ok (source, theorems)

/-- Prints the events that debug output shows. -/
def printEvents (host : Host m) : List Event → m Unit
  | [] => pure ()
  | event :: rest => do
    if event.level != .trace then host.print (.log event)
    printEvents host rest

/-- Verifies theorems, telling what is done if asked to. -/
def verifyStage (host : Host m) (flags : Flags) (theorems : List Theorem) :
    m (Except Failure Unit) := do
  if flags.debug then printEvents host (Transcript.ofVerify nestingLimit theorems)
  return verify nestingLimit theorems

/-- Writes the theorems of a script to `output`. -/
def renderStage (host : Host m) (source : Source) (theorems : List Theorem)
    (output moduleName : String) : m (Except Failure Unit) := do
  let (text, outcome) := Script.render moduleName source.name theorems
  match ← host.write output text with
  | .error cause => return .error (.ofDiagnostic (.input cause))
  | .ok _ => return outcome

/-- Carries out an action and gives a summary of what was done. -/
def perform (host : Host m) (flags : Flags) : Action → m (Except SourcedFailure String)
  | .verify file => do
    match ← readScript host flags file with
    | .error stopped => return .error stopped
    | .ok (source, theorems) =>
      match ← timed host flags "verify" fun _ => verifyStage host flags theorems with
      | .error failure => return .error ⟨source, failure⟩
      | .ok _ =>
        return .ok ("Verified " ++ toString theorems.length ++ " theorem(s) from " ++ file ++ ".")
  | .render file output moduleName => do
    match ← readScript host flags file with
    | .error stopped => return .error stopped
    | .ok (source, theorems) =>
      match ← timed host flags "render" fun _ =>
        renderStage host source theorems output moduleName with
      | .error failure => return .error ⟨source, failure⟩
      | .ok _ =>
        return .ok ("Rendered " ++ toString theorems.length ++ " theorem(s) to " ++ output ++ ".")

/-- Runs the program with the given arguments. -/
def run (host : Host m) (arguments : List String) : m ExitCode := do
  match Request.ofArguments? arguments with
  | none => return 2
  | some .version =>
    host.print (.text versionText)
    return 0
  | some (.run flags action) =>
    match ← perform host flags action with
    | .ok summary =>
      host.print (.text summary)
      return 0
    | .error stopped =>
      match stopped.failure.report stopped.source .empty with
      | .ok (report, _) =>
        host.print (.text (host.layOut report))
        return 1
      | .error _ => return 101

/-- A host in memory: its files and what was printed, last first. -/
structure MemoryHost where
  files : FileTree
  printed : List Output

/-- Runs commands on files in memory, where no time passes. -/
def memoryHost (layOut : Report → String) : Host (StateM MemoryHost) where
  read path := do return ((← get).files.readText path).mapError FileProblem.message
  write path text := do
    match (← get).files.writeText path text with
    | .ok files =>
      modify fun host => { host with files := files }
      return .ok ()
    | .error problem => return .error problem.message
  print output := modify fun host => { host with printed := output :: host.printed }
  layOut := layOut
  clock := return 0

end ProofScript.Command
