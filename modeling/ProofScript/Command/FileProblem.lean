/-!
# Why files cannot be used

The causes for which a file is not read or written, in the words of the system.
-/
namespace ProofScript.Command

inductive FileProblem where
  | missing
  | notFolder
  | isFolder
  /-- A path, or a name in it, is longer than paths and names can be. -/
  | nameTooLong
  | notText
deriving DecidableEq, Repr

def FileProblem.message : FileProblem → String
  | .missing => "No such file or directory (os error 2)"
  | .notFolder => "Not a directory (os error 20)"
  | .isFolder => "Is a directory (os error 21)"
  | .nameTooLong => "File name too long (os error 36)"
  | .notText => "stream did not contain valid UTF-8"

end ProofScript.Command
