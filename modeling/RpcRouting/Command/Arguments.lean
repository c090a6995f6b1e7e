import RpcRouting.Wire.ApiVersion

namespace RpcRouting

-- What the program is asked to do.
inductive Command where
  -- compile a route file and report every route
  | check (routes : String) (version : Option ApiVersion) (authority : Option String)
  -- route a single request
  | resolve (routes : String) (path : String) (headers : List (String × String))
      (version : Option ApiVersion) (authority : Option String)
  -- print the identity of the node
  | node (version : ApiVersion)
  -- follow the configured route file
  | watch
deriving Repr, DecidableEq

-- A command, with the file that holds the settings.
structure Invocation where
  settingsPath : Option String
  command : Command
deriving Repr, DecidableEq

-- An argument for itself, or an option with its value.
inductive Argument where
  | operand (text : String)
  | option (name : String) (value : String)
deriving Repr, DecidableEq

namespace Argument

-- What one word of a command line is.
inductive Word where
  -- `--`, after which no word is an option
  | separator
  | operand
  -- an option, and its value if the word holds one
  | option (name : String) (value : Option String)
deriving Repr, DecidableEq

-- The option for settings, and the letter that stands for it.
def settingsOption : String := "config"

def settingsLetter : Char := 'c'

-- `--name` or `--name=value`, without the hyphens.
def longOption (cs : List Char) : Word :=
  let name := String.ofList (cs.takeWhile (· != '='))
  match cs.dropWhile (· != '=') with
  | _ :: value => .option name (some (String.ofList value))
  | [] => .option name none

-- `-c`, `-cvalue` or `-c=value`, without the hyphen.
def shortOption (letter : Char) (cs : List Char) : Word :=
  let name := if letter = settingsLetter then settingsOption else ""
  match cs with
  | '=' :: value => .option name (some (String.ofList value))
  | [] => .option name none
  | value => .option name (some (String.ofList value))

def word (text : String) : Word :=
  match text.toList with
  | ['-', '-'] => .separator
  | '-' :: '-' :: rest => longOption rest
  | '-' :: letter :: rest => shortOption letter rest
  | _ => .operand

-- Reads the words of a command. Only the given options are known. A value that is a word of its
-- own cannot look like an option.
def read? (known : List String) : List String → Option (List Argument)
  | [] => some []
  | text :: rest =>
    match word text with
    | .separator => some (rest.map .operand)
    | .operand => (read? known rest).map (.operand text :: ·)
    | .option name (some value) =>
      if known.contains name then (read? known rest).map (.option name value :: ·) else none
    | .option name none =>
      match rest with
      | value :: more =>
        if known.contains name && word value == .operand then
          (read? known more).map (.option name value :: ·)
        else none
      | [] => none

-- The options before the name of the command, that name, and the words after it.
def splitCommand? : List String → Option (List Argument × String × List String)
  | [] => none
  | text :: rest =>
    match word text with
    | .separator => none
    | .operand => some ([], text, rest)
    | .option name (some value) =>
      if name = settingsOption then
        (splitCommand? rest).map fun (options, more) => (.option name value :: options, more)
      else none
    | .option name none =>
      match rest with
      | value :: more =>
        if name = settingsOption && word value == .operand then
          (splitCommand? more).map fun (options, more) => (.option name value :: options, more)
        else none
      | [] => none

def operands (arguments : List Argument) : List String :=
  arguments.filterMap fun argument =>
    match argument with
    | .operand text => some text
    | .option _ _ => none

-- All values of an option, in order.
def values (name : String) (arguments : List Argument) : List String :=
  arguments.filterMap fun argument =>
    match argument with
    | .operand _ => none
    | .option other value => if other = name then some value else none

-- The value of an option that may be given once, if it is given.
def single? (name : String) (arguments : List Argument) : Option (Option String) :=
  match values name arguments with
  | [] => some none
  | [value] => some (some value)
  | _ => none

-- The value of an option that has to be given once.
def required? (name : String) (arguments : List Argument) : Option String :=
  (single? name arguments).bind id

-- A path has at least one character.
def path? (text : String) : Option String := if text.isEmpty then none else some text

def settingsPath? (arguments : List Argument) : Option (Option String) := do
  match ← single? settingsOption arguments with
  | none => return none
  | some text => return some (← path? text)

def version? (arguments : List Argument) : Option (Option ApiVersion) := do
  match ← single? "api-version" arguments with
  | none => return none
  | some text => return some (← (ApiVersion.parse text).toOption)

-- A header as `name=value`. The name cannot be empty.
def header? (text : String) : Option (String × String) :=
  let cs := text.toList
  match cs.takeWhile (· != '='), cs.dropWhile (· != '=') with
  | [], _ => none
  | _, [] => none
  | name, _ :: value => some (String.ofList name, String.ofList value)

end Argument

namespace Command

open Argument

-- The one operand of a command.
def routes? (arguments : List Argument) : Option String :=
  match operands arguments with
  | [text] => path? text
  | _ => none

def check? (arguments : List Argument) : Option Command := do
  return .check (← routes? arguments) (← version? arguments)
    (← single? "authority" arguments)

def resolve? (arguments : List Argument) : Option Command := do
  return .resolve (← routes? arguments) (← required? "path" arguments)
    (← (values "header" arguments).mapM header?) (← version? arguments)
    (← single? "authority" arguments)

def node? (arguments : List Argument) : Option Command := do
  guard (operands arguments).isEmpty
  return .node ((← version? arguments).getD .v3)

def watch? (arguments : List Argument) : Option Command := do
  guard (operands arguments).isEmpty
  return .watch

-- The options of a command beside the one for settings, and how it is put together.
def form? : String → Option (List String × (List Argument → Option Command))
  | "check" => some (["api-version", "authority"], check?)
  | "resolve" => some (["path", "header", "api-version", "authority"], resolve?)
  | "node" => some (["api-version"], node?)
  | "watch" => some ([], watch?)
  | _ => none

end Command

namespace Invocation

open Argument

-- Reads a command line. The file for settings may be named before and after the command. What
-- stands after it counts.
def parse? (words : List String) : Option Invocation := do
  let (before, name, rest) ← splitCommand? words
  let (options, build) ← Command.form? name
  let after ← read? (settingsOption :: options) rest
  let outer ← settingsPath? before
  let inner ← settingsPath? after
  return ⟨inner.or outer, ← build after⟩

end Invocation

end RpcRouting
