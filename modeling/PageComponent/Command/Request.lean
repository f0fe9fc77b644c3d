import PageComponent.Command.Arguments

/-!
# Requests

What a command line asks for. The options before the command belong to the program, those behind
it to the command.
-/

namespace PageComponent.Command

def help : OptionSpec :=
  { name := "help", key := "help", constant := some "on" }

def programOptions : List OptionSpec :=
  [{ name := "config", letter := some 'c', key := "config" },
    { name := "verbose", key := "verbose", constant := some "on" },
    { name := "version", key := "version", constant := some "on" }, help]

def renderOptions : List OptionSpec :=
  [{ name := "params", letter := some 'p', key := "params" },
    { name := "styles", letter := some 's', key := "styles" },
    { name := "cid", key := "cid" }, { name := "anchor", key := "anchor" },
    { name := "project-path", key := "project-path" },
    { name := "overlay", key := "overlay", constant := some "on" },
    { name := "no-overlay", key := "overlay", constant := some "off" },
    { name := "output", letter := some 'o', key := "output" },
    { name := "json", key := "json", constant := some "on" }, help]

inductive CommandName where
  | schema
  | defaults
  | render
deriving DecidableEq

namespace CommandName

def all : List CommandName :=
  [schema, defaults, render]

def spelling : CommandName → String
  | schema => "schema"
  | defaults => "defaults"
  | render => "render"

def options : CommandName → List OptionSpec
  | schema | defaults => [help]
  | render => renderOptions

end CommandName

/-- A request to the program; the arguments of a command are not yet read. -/
inductive Request where
  | version
  | help
  | command (config : Option String) (name : CommandName) (arguments : List String)

namespace Request

/-- The first option that asks for information about the program. -/
def information? (a : Arguments) : Option Request :=
  a.settings.findSome? fun (key, _) =>
    if key = "version" then some version else if key = "help" then some help else none

def ofArguments (args : List String) : Except UsageError Request := do
  let a ← readArguments programOptions true args
  match information? a, a.operands with
  | some request, _ => return request
  | none, [] => throw .missingCommand
  | none, name :: rest =>
    match CommandName.all.find? (·.spelling = name) with
    | some name => return command (a.get? "config") name rest
    | none => throw (.unknownCommand name)

end Request

/-- A command's template and its options; none is a request for help. -/
def CommandName.read (name : CommandName) (args : List String) :
    Except UsageError (Option (String × Arguments)) := do
  let a ← readArguments name.options false args
  match a.isSet "help", a.operands with
  | true, _ => return none
  | false, [] => throw (.missingOperand "TEMPLATE")
  | false, [template] => return some (template, a)
  | false, _ :: extra :: _ => throw (.unexpectedOperand extra)

end PageComponent.Command
