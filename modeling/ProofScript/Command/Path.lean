import ProofScript.Command.FileProblem

/-!
# Paths

A path is a text of components with slashes between them. Several slashes count as one, a slash in
front starts the path at the top of all folders, and a slash at the end asks for a folder.
-/
namespace ProofScript.Command

/-- The most bytes that a path can have. -/
def longestPath : Nat := 4095

/-- The most bytes that a component of a path can have. -/
def longestName : Nat := 255

structure Path where
  fromTop : Bool
  parts : List String
  asksFolder : Bool
deriving DecidableEq, Repr

namespace Path

/-- Takes a path apart. The empty path leads nowhere. -/
def ofText (text : String) : Except FileProblem Path :=
  if text.isEmpty then .error .missing
  else if longestPath < text.utf8ByteSize then .error .nameTooLong
  else .ok
    { fromTop := text.startsWith "/"
      parts := (text.splitOn "/").filter (· != "")
      asksFolder := text.endsWith "/" }

/-- The components that writing a file goes through. A file is never written in place of a folder
that a path asks for, so what counts of such a path is the folder around it. -/
def writingParts (path : Path) : List String :=
  if path.asksFolder then path.parts.dropLast ++ ["."] else path.parts

end Path

end ProofScript.Command
