import RpcRouting.Command.Arguments
import RpcRouting.Command.Check
import RpcRouting.Document.Json.Printer
import RpcRouting.Lifecycle.Startup

namespace RpcRouting

open Document

-- What a run of the program leaves behind: its status, and what it wrote.
structure Exit where
  status : UInt32
  output : String := ""
deriving Repr, DecidableEq

namespace Exit

def success (output : String) : Exit := ⟨0, output⟩

def failure : Exit := ⟨1, ""⟩

-- The command line makes no sense.
def usage : Exit := ⟨2, ""⟩

end Exit

def Decision.write (decision : Decision) : Value :=
  .object [("cluster", .string decision.cluster),
    ("timeout_nanos", .int decision.timeoutNanos.toInt)]

-- Headers in the order given, unless one of them is refused.
def Headers.ofList? (pairs : List (String × String)) : Except HeaderError Headers :=
  pairs.foldlM (fun headers (name, value) => headers.append name value.toUTF8.toList) {}

namespace Command

variable (settings : Settings) (files : Files) (chance : Random.Source)
  (explain : String → String)

-- A check fails if any route is wrong. It succeeds if no host serves the authority.
def runCheck (routes : String) (version : Option ApiVersion) (authority : Option String) : Exit :=
  let version := version.getD settings.source.apiVersion
  let authority := authority.getD settings.resolver.authority
  match files.loadRoutes routes version with
  | .error _ => .failure
  | .ok update =>
    let report := CheckReport.build update.upgrade version authority
    let output := String.join ((report.lines explain).map (· ++ "\n"))
    ⟨if report.invalidCount = 0 then 0 else 1, output⟩

def runResolve (routes path : String) (headers : List (String × String))
    (version : Option ApiVersion) (authority : Option String) : Exit :=
  let version := version.getD settings.source.apiVersion
  let resolver : Resolver := { authority := authority.getD settings.resolver.authority }
  match Headers.ofList? headers, files.loadRoutes routes version with
  | .ok headers, .ok update =>
    match resolver.update update with
    | (.error _, _) => .failure
    | (.ok _, loaded) =>
      match ((settings.drawSource chance).run (loaded.resolve path headers)).value.1 with
      | .ok decision => .success (Json.indented decision.write ++ "\n")
      | .error _ => .failure
  | _, _ => .failure

def runNode (version : ApiVersion) : Exit :=
  .success (Json.indented (settings.toNode.toDocument version) ++ "\n")

-- Following a file begins with its routes. All that can be said in advance is whether they are
-- taken.
def runWatch : Exit :=
  match settings.startResolver files with
  | .ok _ => .success ""
  | .error _ => .failure

def run : Command → Exit
  | .check routes version authority => runCheck settings files explain routes version authority
  | .resolve routes path headers version authority =>
    runResolve settings files chance routes path headers version authority
  | .node version => runNode settings version
  | .watch => runWatch settings files

end Command

namespace Invocation

-- Settings come first: if they cannot be used, no command is run.
def run (files : Files) (chance : Random.Source) (explain : String → String)
    (invocation : Invocation) : Exit :=
  let settings : Except LoadError Settings :=
    match invocation.settingsPath with
    | none => .ok {}
    | some path => files.loadSettings path
  match settings with
  | .error _ => .failure
  | .ok settings => invocation.command.run settings files chance explain

-- The files that a command line names.
def paths (invocation : Invocation) : List String :=
  let routes :=
    match invocation.command with
    | .check routes _ _ => [routes]
    | .resolve routes _ _ _ _ => [routes]
    | .node _ => []
    | .watch => []
  invocation.settingsPath.toList ++ routes

end Invocation

-- Runs the program on the words of a command line.
def runProgram (files : Files) (chance : Random.Source) (explain : String → String)
    (words : List String) : Exit :=
  match Invocation.parse? words with
  | none => .usage
  | some invocation => invocation.run files chance explain

end RpcRouting
