import RpcRouting.Command.Run

namespace RpcRouting

-- The bytes of a file, if it can be read.
def readFile (path : String) : IO (List (String × List UInt8)) := do
  try
    let bytes ← IO.FS.readBinFile path
    return [(path, bytes.toList)]
  catch _ => return []

-- The files that a command line names, and the one that its settings name.
def readFiles (invocation : Invocation) : IO Files := do
  let named ← invocation.paths.flatMapM readFile
  let files : Files := ⟨named⟩
  match invocation.settingsPath.map files.loadSettings with
  | some (.ok settings) =>
    let more ← settings.source.routeConfigPath.toList.flatMapM readFile
    return ⟨named ++ more⟩
  | _ => return files

def readSeed : IO UInt64 := do
  let bytes ← IO.getRandomBytes 8
  return bytes.toList.foldl (fun n b => 256 * n + b.toUInt64) 0

-- What a pattern is refused for. The regular expressions here do not say more than that.
def explainRefusal (_pattern : String) : String := "regular expression refused"

end RpcRouting

open RpcRouting in
def main (words : List String) : IO UInt32 := do
  let files ←
    match Invocation.parse? words with
    | some invocation => readFiles invocation
    | none => pure {}
  let exit := runProgram files (.ofSeed (← readSeed)) explainRefusal words
  IO.print exit.output
  return exit.status
