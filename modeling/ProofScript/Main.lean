import ProofScript.Command.Layout
import ProofScript.Command.Run

/-!
# The program

Runs the commands on the files of the machine.
-/
namespace ProofScript.Command

/-- An error of the system in words. Its number may come with the sign turned. -/
def systemMessage (code : UInt32) (details : String) : String :=
  let number := if code.toNat < 0x80000000 then code.toNat else UInt32.size - code.toNat
  let text :=
    match number with
    | 2 => "No such file or directory"
    | 13 => "Permission denied"
    | 20 => "Not a directory"
    | 21 => "Is a directory"
    | 36 => "File name too long"
    | _ => details
  text ++ " (os error " ++ toString number ++ ")"

/-- The cause of a failed access to a file. -/
def accessCause : IO.Error → String
  | .noFileOrDirectory _ code details => systemMessage code details
  | .permissionDenied _ code details => systemMessage code details
  | .inappropriateType _ code details => systemMessage code details
  | .invalidArgument _ code details => systemMessage code details
  | .illegalOperation code details => systemMessage code details
  | error => toString error

/-- The machine that the program runs on. -/
def machine : Host IO where
  read path := do
    match ← (IO.FS.readBinFile path).toBaseIO with
    | .ok bytes =>
      match String.fromUTF8? bytes with
      | some text => return .ok text
      | none => return .error FileProblem.notText.message
    | .error error => return .error (accessCause error)
  write path text := do
    match ← (IO.FS.writeFile path text).toBaseIO with
    | .ok _ => return .ok ()
    | .error error => return .error (accessCause error)
  print output := IO.println output.render
  layOut := layOut
  clock := IO.monoMsNow

end ProofScript.Command

def main (arguments : List String) : IO UInt32 :=
  ProofScript.Command.run ProofScript.Command.machine arguments
