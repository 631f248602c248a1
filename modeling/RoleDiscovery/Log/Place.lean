/-!
# The place of a log file

A log file has the name of the program and lies in a directory. Directories that are missing are
made, as far as the system allows it.

Results:

* `LogPlace.path`: the path of the file of a log.
* `LogPlace.isWritable`: whether the file can be had.
* `LogPlace.listedName?`: the name under which the directory lists the file.
-/

namespace RoleDiscovery

/-- Where the file of a log goes: to a directory, under the name of a program. -/
structure LogPlace where
  directory : String
  program : String

namespace LogPlace

/-- The name of the file, which may lead to another directory. -/
def file (place : LogPlace) : String :=
  place.program ++ ".log"

/-- The path of the file. A name that starts at the root does not depend on the directory. -/
def path (place : LogPlace) : String :=
  if place.file.startsWith "/" then place.file
  else if place.directory.endsWith "/" then place.directory ++ place.file
  else place.directory ++ "/" ++ place.file

/-- The names in a path. -/
def names (path : String) : List String :=
  ((path.toList.splitOn '/').filter fun name => !name.isEmpty && name ≠ ['.']).map String.ofList

/-- The names that lead to a place from the root after one more step. Two points lead back. -/
def step (place : List String) (name : String) : List String :=
  if name = ".." then place.dropLast else place ++ [name]

/-- The place that some names lead to. -/
def resolved (names : List String) : List String :=
  names.foldl step []

/-- The places on the way along some names, the last one not among them. -/
def wayTo (place : List String) : List String → List (List String)
  | [] => []
  | name :: rest => place :: wayTo (step place name) rest

/-! ## Limits of the system -/

/-- Files and devices that every system has; nothing lies inside them. -/
def plainFiles : List (List String) :=
  (["null", "zero", "full", "random", "urandom", "tty", "console", "ptmx", "stdin", "stdout",
    "stderr"].map fun name => ["dev", name]) ++
  ["passwd", "group", "shadow", "hosts", "hostname", "resolv.conf", "os-release"].map fun name =>
    ["etc", name]

/-- Directories in which no file can be made. -/
def closedDirectories : List (List String) :=
  [["proc"], ["sys"], ["dev", "fd"], ["dev", "pts"]]

/-- How many bytes a name in a path may have. -/
def maxNameSize : Nat :=
  255

/-- How many bytes a path may have. -/
def maxPathSize : Nat :=
  4095

/-- Whether a file can be made where a path leads, if need be after making its directory. -/
def isWritablePath (path : String) : Bool :=
  let names := names path
  let way := wayTo [] names
  path.utf8ByteSize ≤ maxPathSize && !path.toList.elem '\x00' &&
    names.all (fun name => name.utf8ByteSize ≤ maxNameSize) &&
    !way.any fun place => plainFiles.elem place || closedDirectories.any (·.isPrefixOf place)

/-- Whether the file of a log can be made. -/
def isWritable (place : LogPlace) : Bool :=
  isWritablePath place.path

/-- The name under which the directory lists the file; none if the file is in another one. -/
def listedName? (place : LogPlace) : Option String :=
  let names := names place.path
  if resolved names.dropLast = resolved (LogPlace.names place.directory) then names.getLast?
  else none

end LogPlace

end RoleDiscovery
