import PageComponent.Entries

/-!
# Arguments

A command line holds options and operands. An option is spelled by a name or a letter; its value
is attached to it or is the next argument, whatever that looks like. Behind `--` all is operands.
-/

namespace PageComponent.Command

structure OptionSpec where
  name : String
  letter : Option Char := none
  /-- What the option sets; of two settings of one key the last counts. -/
  key : String
  /-- The value that a switch sets; any other option takes its value from the arguments. -/
  constant : Option String := none
deriving DecidableEq

inductive UsageError where
  | unknownOption (spelling : String)
  | missingValue (spelling : String)
  | unexpectedValue (spelling : String)
  | missingOperand (name : String)
  | unexpectedOperand (text : String)
  | missingCommand
  | unknownCommand (name : String)
deriving DecidableEq

def UsageError.message : UsageError → String
  | unknownOption spelling => "No such option: " ++ spelling
  | missingValue spelling => "Option " ++ spelling ++ " requires an argument."
  | unexpectedValue spelling => "Option " ++ spelling ++ " does not take a value."
  | missingOperand name => "Missing argument " ++ name ++ "."
  | unexpectedOperand text => "Got unexpected extra argument (" ++ text ++ ")"
  | missingCommand => "Missing command."
  | unknownCommand name => "No such command " ++ name ++ "."

structure Arguments where
  settings : Entries String := []
  operands : List String := []
deriving DecidableEq

namespace Arguments

def get? (a : Arguments) (key : String) : Option String :=
  (a.settings.reverse.find? (·.1 = key)).map (·.2)

def isSet (a : Arguments) (key : String) : Bool :=
  (a.get? key).isSome

end Arguments

/-- What one argument sets, and the option, if any, whose value the next argument is. -/
structure Piece where
  settings : Entries String
  awaiting : Option OptionSpec := none

/-- Letters behind one dash; what follows the letter of an option with a value is the value. -/
def readLetters (specs : List OptionSpec) : List Char → Except UsageError Piece
  | [] => .ok ⟨[], none⟩
  | c :: cs =>
    match specs.find? (·.letter = some c) with
    | none => .error (.unknownOption (.ofList ['-', c]))
    | some spec =>
      match spec.constant with
      | some value => do
        let piece ← readLetters specs cs
        return { piece with settings := (spec.key, value) :: piece.settings }
      | none => .ok (if cs = [] then ⟨[], some spec⟩ else ⟨[(spec.key, .ofList cs)], none⟩)

/-- What stands before and, if there is one, behind the first equals sign. -/
def splitValue (cs : List Char) : List Char × Option (List Char) :=
  match cs.dropWhile (· ≠ '=') with
  | [] => (cs, none)
  | _ :: value => (cs.takeWhile (· ≠ '='), some value)

/-- An argument that begins with a dash. -/
def readOption (specs : List OptionSpec) (arg : String) : Except UsageError Piece :=
  match arg.toList with
  | '-' :: '-' :: cs =>
    let (name, value) := splitValue cs
    match specs.find? (·.name.toList = name), value with
    | none, _ => .error (.unknownOption arg)
    | some spec, value => match spec.constant, value with
      | some constant, none => .ok ⟨[(spec.key, constant)], none⟩
      | some _, some _ => .error (.unexpectedValue arg)
      | none, some value => .ok ⟨[(spec.key, .ofList value)], none⟩
      | none, none => .ok ⟨[], some spec⟩
  | cs => readLetters specs (cs.drop 1)

/-- A dash alone is an operand. -/
def isOption (arg : String) : Bool :=
  arg.startsWith "-" && arg != "-"

/-- Reads all options, or with `leading` only those before the first operand. -/
def readArguments (specs : List OptionSpec) (leading : Bool) :
    List String → Except UsageError Arguments
  | [] => .ok {}
  | arg :: rest =>
    if arg = "--" then .ok { operands := rest }
    else if isOption arg then do
      let piece ← readOption specs arg
      match piece.awaiting, rest with
      | none, rest =>
        let a ← readArguments specs leading rest
        return { a with settings := piece.settings ++ a.settings }
      | some spec, value :: rest =>
        let a ← readArguments specs leading rest
        return { a with settings := piece.settings ++ (spec.key, value) :: a.settings }
      | some _, [] => throw (.missingValue arg)
    else if leading then .ok { operands := arg :: rest }
    else do
      let a ← readArguments specs leading rest
      return { a with operands := arg :: a.operands }

end PageComponent.Command
