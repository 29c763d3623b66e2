import ProofScript.Failure.Report
import ProofScript.Transcript

/-!
# Where commands run

A command reads and writes files, prints lines and looks at a clock. It is written against a host
that offers these and knows how a report looks in print, so that it can run on a machine as well as
on files held in memory.
-/
namespace ProofScript.Command

/-- A piece of output. -/
inductive Output where
  | text (line : String)
  /-- How long a stage took. -/
  | elapsed (stage : String) (milliseconds : Nat)
  | log (event : Event)

/-- The part of the checker that an event is logged by. -/
def eventOrigin : Event → String
  | .catalogBuilt _ => "researchproof_rs::catalog"
  | .called _ => "researchproof_rs::eval"
  | _ => "researchproof_rs::checker"

/-- An event as it is printed, its level in a field of five characters. -/
def renderEvent (event : Event) : String :=
  let level := event.level.name
  level ++ String.ofList (List.replicate (5 - level.length) ' ') ++ " [" ++ eventOrigin event ++
    "] " ++ event.text

/-- A piece of output as it is printed. -/
def Output.render : Output → String
  | .text line => line
  | .elapsed stage milliseconds => stage ++ " " ++ toString milliseconds ++ "ms"
  | .log event => renderEvent event

/-- What a command needs from where it runs. A file that cannot be read or written comes with the
cause. -/
structure Host (m : Type → Type) where
  read : String → m (Except String String)
  write : String → String → m (Except String Unit)
  print : Output → m Unit
  /-- A report as it is printed. -/
  layOut : Report → String
  /-- The time in milliseconds. -/
  clock : m Nat

end ProofScript.Command
