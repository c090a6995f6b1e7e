import RpcRouting.Document.Json.Parser
import RpcRouting.Document.Toml.Parser
import RpcRouting.Files.Files
import RpcRouting.Settings.Document
import RpcRouting.Settings.Validation
import RpcRouting.Wire.Reading

namespace RpcRouting

open Document

-- Why a file could not be used.
inductive LoadError where
  | unreadable
  | malformedToml
  | malformedJson
  | invalid (violations : List Violation)
deriving Repr, DecidableEq

-- What is wrong with settings, all in one line.
def Violation.summary (violations : List Violation) : String :=
  "Validation failed: " ++ String.intercalate ", " (violations.map (·.message))

-- Settings as they stand in a text, valid or not.
def Settings.ofText (text : String) : Except LoadError Settings :=
  match (Toml.parse? text.toList).bind Settings.read with
  | some settings => .ok settings
  | none => .error .malformedToml

namespace Files

def loadText (files : Files) (path : String) : Except LoadError String :=
  match files.text? path with
  | some text => .ok text
  | none => .error .unreadable

-- Settings are always in TOML. They have to be valid.
def loadSettings (files : Files) (path : String) : Except LoadError Settings := do
  let settings ← Settings.ofText (← files.loadText path)
  settings.validate.mapError LoadError.invalid
  return settings

-- A route configuration is in TOML or JSON, by the name of its file.
def loadRoutes (files : Files) (path : String) (version : ApiVersion) :
    Except LoadError Wire.RouteConfigurationUpdate := do
  let text := (← files.loadText path).toList
  let (document, error) :=
    if isToml path then (Toml.parse? text, LoadError.malformedToml)
    else (Json.parse? text, .malformedJson)
  match document.bind (Wire.RouteConfiguration.read version) with
  | some config => return ⟨version, config⟩
  | none => throw error

end Files

end RpcRouting
