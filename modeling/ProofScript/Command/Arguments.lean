/-!
# Command lines

What the program is asked to do. There are two commands,

    verify FILE
    render FILE OUTPUT [--module-name NAME]

and two flags, `--time` and `--debug`, which may stand before the command or behind it, at most once
in each place. `--version` may stand before the command and ends the reading of the arguments.
Behind the command, `--` makes everything after it a plain argument, even if it begins with a dash.
-/
namespace ProofScript.Command

/-- What to tell besides the result. -/
structure Flags where
  timing : Bool
  debug : Bool
deriving DecidableEq, Repr

inductive Action where
  | verify (file : String)
  | render (file output moduleName : String)
deriving DecidableEq, Repr

inductive Request where
  | version
  | run (flags : Flags) (action : Action)
deriving DecidableEq, Repr

namespace Flags

def unset : Flags := ⟨false, false⟩

/-- Sets the flag written `word`, unless it is set already or there is no such flag. -/
def set? (flags : Flags) (word : String) : Option Flags :=
  if word = "--time" && !flags.timing then some { flags with timing := true }
  else if word = "--debug" && !flags.debug then some { flags with debug := true }
  else none

/-- The flags set in either place. -/
def union (left right : Flags) : Flags :=
  ⟨left.timing || right.timing, left.debug || right.debug⟩

end Flags

/-- Whether a word is read as an option: it begins with a dash and is more than that. -/
def isOption (word : String) : Bool :=
  match word.toList with
  | '-' :: _ :: _ => true
  | _ => false

/-- What stands after the equals sign in `--module-name=NAME`. -/
def attachedModuleName? (word : String) : Option String :=
  ("--module-name=".toList.isPrefixOf? word.toList).map String.ofList

/-- The arguments behind a command. -/
structure Operands where
  flags : Flags
  /-- The plain arguments, last first. -/
  plain : List String
  moduleName : Option String

namespace Operands

def empty : Operands := ⟨.unset, [], none⟩

def addPlain (operands : Operands) (words : List String) : Operands :=
  { operands with plain := words.reverse ++ operands.plain }

/-- Sets the module name, which is possible once. -/
def setModuleName? (operands : Operands) (name : String) : Option Operands :=
  match operands.moduleName with
  | none => some { operands with moduleName := some name }
  | some _ => none

/-- Reads the arguments behind a command, `named` telling whether it takes a module name. -/
def read? (named : Bool) (operands : Operands) : List String → Option Operands
  | [] => some operands
  | "--" :: rest => some (operands.addPlain rest)
  | word :: rest =>
    if !isOption word then read? named (operands.addPlain [word]) rest
    else if named && word = "--module-name" then
      match rest with
      | [] => none
      | name :: rest =>
        if isOption name then none
        else (operands.setModuleName? name).bind (read? named · rest)
    else
      match (if named then attachedModuleName? word else none) with
      | some name => (operands.setModuleName? name).bind (read? named · rest)
      | none =>
        (operands.flags.set? word).bind fun flags =>
          read? named { operands with flags := flags } rest

end Operands

/-- The module name written by `render` if none is given. -/
def defaultModuleName : String := "GeneratedProofs"

/-- Reads the arguments of the command called `word`. -/
def readCommand? (flags : Flags) (word : String) (rest : List String) : Option Request :=
  match word with
  | "verify" => do
    let operands ← Operands.empty.read? false rest
    match operands.plain with
    | [file] => some (.run (flags.union operands.flags) (.verify file))
    | _ => none
  | "render" => do
    let operands ← Operands.empty.read? true rest
    match operands.plain with
    | [output, file] =>
      some (.run (flags.union operands.flags)
        (.render file output (operands.moduleName.getD defaultModuleName)))
    | _ => none
  | _ => none

/-- Whether a word asks for the version. -/
def asksVersion (word : String) : Bool :=
  word = "--version" || "-V".toList.isPrefixOf word.toList

/-- Reads arguments, `flags` having been set by those before. -/
def readArguments? (flags : Flags) : List String → Option Request
  | [] => none
  | word :: rest =>
    if asksVersion word then some .version
    else if isOption word then (flags.set? word).bind (readArguments? · rest)
    else readCommand? flags word rest

/-- What the given arguments ask for, if they make sense. -/
def Request.ofArguments? (arguments : List String) : Option Request :=
  readArguments? .unset arguments

end ProofScript.Command
