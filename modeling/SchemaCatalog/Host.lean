/-!
# The machine

What has to be known of the machine in order to find files on it, and why files cannot be had.
-/

namespace SchemaCatalog

/-- Why a file cannot be read or written. -/
inductive FileFault where
  | missing
  | denied
  | isDirectory
  | notDirectory
  | tooLong
  /-- No path has a character of code zero. -/
  | nulInPath
  | other (text : String)
deriving DecidableEq, Repr

/-- The fault in the words of the system. -/
def FileFault.message : FileFault → String
  | .missing => "No such file or directory (os error 2)"
  | .denied => "Permission denied (os error 13)"
  | .isDirectory => "Is a directory (os error 21)"
  | .notDirectory => "Not a directory (os error 20)"
  | .tooLong => "File name too long (os error 36)"
  | .nulInPath => "file name contained an unexpected NUL byte"
  | .other text => text

/-- Facts about the machine. -/
structure Host where
  /-- The user's directory. -/
  home : String
  /-- Where the user keeps configuration, if not in the usual place. -/
  configHome? : Option String
  workingDirectory : String
  /-- Why the file of that path cannot be read, if it cannot. -/
  readFault? : String → Option FileFault

namespace Host

/-- The path leads from the root. -/
def isAbsolute (path : String) : Bool :=
  path.startsWith "/"

/-- The path seen from a directory. A path from the root stays what it is. -/
def join (directory path : String) : String :=
  if isAbsolute path then path
  else if directory.endsWith "/" then directory ++ path
  else directory ++ "/" ++ path

/-- There is a directory of that path. -/
def isDirectory (h : Host) (path : String) : Bool :=
  h.readFault? path == some .isDirectory

/-- There is nothing of that path. -/
def isMissing (h : Host) (path : String) : Bool :=
  match h.readFault? path with
  | some .missing | some .notDirectory => true
  | _ => false

/-- The steps of a path without those that lead nowhere or back. -/
def stepsOf (path : String) : List String :=
  ((path.toList.splitOn '/').map String.ofList).foldl (fun steps step =>
    if step = "" || step = "." then steps
    else if step = ".." then steps.dropLast
    else steps ++ [step]) []

/-- The place to which a path leads from the working directory, as the shortest path from the root. -/
def place (h : Host) (path : String) : String :=
  "/" ++ "/".intercalate (stepsOf (join h.workingDirectory path))

/-- The directory in which a place lies. -/
def parent (place : String) : String :=
  "/" ++ "/".intercalate (stepsOf place).dropLast

/-- Where the user's configuration is. A place that does not lead from the root does not count. -/
def configDirectory (h : Host) : String :=
  match h.configHome? with
  | some path => if isAbsolute path then path else join h.home ".config"
  | none => join h.home ".config"

/-- Where the settings are unless told otherwise. -/
def defaultSettingsPath (h : Host) : String :=
  join (join h.configDirectory "schemata") "schemata.toml"

end Host

end SchemaCatalog
