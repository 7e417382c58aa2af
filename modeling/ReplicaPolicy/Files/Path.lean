set_option relaxedAutoImplicit false
set_option autoImplicit false

/-!
# Paths and files

A path is a text with slashes between its parts. The files that can be read are given as a
function from paths to texts, so that what is compiled from them is a function too.

## Main definitions

* `ReplicaPolicy.Files` — the files that can be read.
* `ReplicaPolicy.Path.join` — a path taken from a directory.
* `ReplicaPolicy.Path.parent` — the directory of a file.
-/

namespace ReplicaPolicy

/-- The files that can be read: the text at each path, or nothing where no text can be read. -/
abbrev Files := String → Option String

namespace Path

/-- Whether a path starts at the root. -/
def isAbsolute (path : String) : Bool :=
  path.toList.head? == some '/'

/-- The path taken from a directory. A path that starts at the root stays as it is; the empty
directory is the one that other paths are relative to. -/
def join (directory path : String) : String :=
  if isAbsolute path || directory.isEmpty then path
  else if directory.toList.getLast? == some '/' then directory ++ path
  else directory ++ "/" ++ path

/-- What stands before a slash, both from the end: slashes and parts that are a single point do
not count, and the root is kept. -/
def beforeSlash : List Char → List Char
  | '.' :: '/' :: cs => beforeSlash cs
  | '/' :: cs => beforeSlash cs
  | [] => ['/']
  | cs => cs

/-- The directory of a file. -/
def parent (path : String) : String :=
  match path.toList.reverse.dropWhile (· != '/') with
  | [] => ""
  | _ :: cs => String.ofList (beforeSlash cs).reverse

end Path

end ReplicaPolicy
