import ProofScript.Command.Path

/-!
# Files in memory

A tree of files and folders. Paths are followed component by component, from the top of the tree or
from its base: every component but the last has to be a folder, `.` stays in a folder and `..`
leaves it.
-/
namespace ProofScript.Command

inductive FileEntry where
  | file (content : ByteArray)
  /-- Reads as empty and keeps nothing of what is written. -/
  | sink
  | folder

/-- Files and folders by the components that lead to them from the top. -/
structure FileTree where
  /-- The folder that a path starts from unless it says otherwise. -/
  base : List String
  entries : List (List String × FileEntry)

namespace FileTree

/-- The tree that holds nothing but its base. -/
def empty (base : List String) : FileTree := ⟨base, []⟩

/-- What stands at `place`. On the way to the base and to every entry there are folders. -/
def entry? (tree : FileTree) (place : List String) : Option FileEntry :=
  match tree.entries.lookup place with
  | some entry => some entry
  | none =>
    if place.isPrefixOf tree.base || tree.entries.any (place.isPrefixOf ·.1) then some .folder
    else none

/-- Goes from the folder `here` to its component `part`. The top is its own parent. -/
def step (tree : FileTree) (here : List String) (part : String) :
    Except FileProblem (List String) :=
  match tree.entry? here with
  | none => .error .missing
  | some .folder =>
    if part = "." then .ok here
    else if part = ".." then .ok here.dropLast
    else if longestName < part.utf8ByteSize then .error .nameTooLong
    else .ok (here ++ [part])
  | some _ => .error .notFolder

/-- Follows the components `parts`. -/
def walk (tree : FileTree) (fromTop : Bool) (parts : List String) :
    Except FileProblem (List String) :=
  parts.foldlM tree.step (if fromTop then [] else tree.base)

/-- The content of the file at a path. -/
def content (tree : FileTree) (text : String) : Except FileProblem ByteArray := do
  let path ← Path.ofText text
  let place ← tree.walk path.fromTop path.parts
  match tree.entry? place with
  | none => .error .missing
  | some .folder => .error .isFolder
  | some (.file content) => if path.asksFolder then .error .notFolder else .ok content
  | some .sink => if path.asksFolder then .error .notFolder else .ok ByteArray.empty

/-- The content of the file at a path as text. -/
def readText (tree : FileTree) (path : String) : Except FileProblem String := do
  match String.fromUTF8? (← tree.content path) with
  | some text => .ok text
  | none => .error .notText

/-- Puts an entry at a place, instead of what stands there. -/
def insert (tree : FileTree) (place : List String) (entry : FileEntry) : FileTree :=
  { tree with entries := (place, entry) :: tree.entries.filter (·.1 != place) }

/-- Writes the file at a path. -/
def writeText (tree : FileTree) (path text : String) : Except FileProblem FileTree := do
  let path ← Path.ofText path
  let place ← tree.walk path.fromTop path.writingParts
  match tree.entry? place with
  | some .folder => .error .isFolder
  | some .sink => .ok tree
  | _ => .ok (tree.insert place (.file text.toUTF8))

end FileTree

end ProofScript.Command
