namespace RpcRouting

-- The files that can be read, by path.
structure Files where
  entries : List (String × List UInt8) := []
deriving Repr, DecidableEq

namespace Files

def parts (path : String) : List (List Char) := (path.toList.splitOnP (· == '/'))

-- The names that lead to a file from here. Steps that stay where they are do not count. There are
-- none for an absolute path, and none where a path ends in a directory.
def steps? (path : String) : Option (List (List Char)) :=
  let parts := parts path
  let names := parts.filter fun part => part != [] && part != ['.']
  if path.toList.head? = some '/' || names.getLast? != parts.getLast? then none else some names

-- Whether two paths lead to the same file.
def sameFile (a b : String) : Bool := a == b || ((steps? a).isSome && steps? a == steps? b)

def bytes? (files : Files) (path : String) : Option (List UInt8) :=
  (files.entries.find? fun entry => sameFile path entry.1).map (·.2)

-- The text of a file. There is none if the bytes are no UTF-8.
def text? (files : Files) (path : String) : Option String :=
  (files.bytes? path).bind fun bytes => String.fromUTF8? ⟨bytes.toArray⟩

-- Whether the name of a file ends in `.toml`, in any case. A name that consists of it alone has
-- no ending.
def isToml (path : String) : Bool :=
  let name := ((parts path).getLastD []).reverse
  let ending := (name.takeWhile (· != '.')).reverse
  let stem := (name.dropWhile (· != '.')).drop 1
  !stem.isEmpty && ending.map Char.toLower == "toml".toList

end Files

end RpcRouting
