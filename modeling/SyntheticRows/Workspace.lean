import SyntheticRows.FileName
import SyntheticRows.NameMap
/-!
Text files in memory. A file is known by its place: paths that differ only in dots and in repeated
slashes lead to one place. There are no links, so two dots undo the part in front of them.
-/

namespace SyntheticRows

namespace Place

/-- One part of a path further, from a place whose last part stands first. A last empty part is the
root, above which there is nothing. -/
def step (place : List String) (part : String) : List String :=
  if part = "" || part = "." then place
  else if part = ".." then
    match place with
    | [] | ".." :: _ => ".." :: place
    | [""] => place
    | _ :: above => above
  else part :: place

def parts (path : String) : List String :=
  (Text.splitAtEach '/' path.toList).map String.ofList

/-- Where the parts of a path start, if the path is taken from a directory. -/
def start (directory : List String) (path : String) : List String :=
  if path.toList.head? = some '/' then [""] else directory

def follow (directory : List String) (path : String) : List String :=
  (parts path).foldl step (start directory path)

/-- The shortest path to a place. -/
def text (place : List String) : String :=
  "/".intercalate place.reverse

/-- The place to which a path leads. -/
def ofPath (path : String) : String :=
  text (follow [] path)

/-- A path whose end can be no file. -/
def endsInDirectory (path : String) : Bool :=
  match (Text.splitAtEach '/' path.toList).getLast? with
  | none | some [] | some ['.'] | some ['.', '.'] => true
  | some _ => false

/-- A place lies in a directory, or in one inside it. -/
def isInside (place directory : String) : Bool :=
  (Text.after? (directory ++ "/").toList place.toList).isSome

end Place

/-- Text files by their places, and directories that may hold none. -/
structure Workspace where
  files : NameMap String
  directories : List String

namespace Workspace

/-- The last of several files at one place stays. -/
def ofFiles (files : List (String × String)) : Workspace :=
  { files := .ofList (files.map fun (path, text) => (Place.ofPath path, text)), directories := [] }

def read? (workspace : Workspace) (path : String) : Option String :=
  if Place.endsInDirectory path then none else workspace.files.get? (Place.ofPath path)

/-- A directory is there if it is known to be, or if something stands inside it. -/
def hasDirectory (workspace : Workspace) (place : String) : Bool :=
  workspace.directories.contains place ||
    (workspace.files.keys ++ workspace.directories).any (Place.isInside · place)

/-- Why no file can be written where the directories on its way are made as well. -/
def fault? (workspace : Workspace) (path : String) : Option FileFault :=
  let place := Place.ofPath path
  match FileFault.ofDirectory? path.toList with
  | some fault => some fault
  | none =>
      if workspace.files.keys.any (Place.isInside place) then some .notDirectory
      else if Place.endsInDirectory path || workspace.hasDirectory place then some .isDirectory
      else none

def put (workspace : Workspace) (place text : String) : Workspace :=
  { workspace with files := workspace.files.insert place text }

/-- Writes a file in place of the one that is there, and makes the directories on its way. -/
def write (workspace : Workspace) (path text : String) : Except FileFault Workspace :=
  match workspace.fault? path with
  | some fault => .error fault
  | none => .ok (workspace.put (Place.ofPath path) text)

def makeDirectory (workspace : Workspace) (path : String) : Workspace :=
  { workspace with directories := Place.ofPath path :: workspace.directories }

/-- Paths start at directories, and what stands above these are directories too. -/
def isDirectory (workspace : Workspace) : (place : List String) → Bool
  | [] | [""] | ".." :: _ => true
  | place => workspace.hasDirectory (Place.text place)

/-- Why parts of a path do not lead from a place to a file. They are followed in turn, so that a
part that is too long tells before a directory that is missing behind it. -/
def faultOnWay? (workspace : Workspace) : (place parts : List String) → Option FileFault
  | _, [] => some .isDirectory
  | place, part :: parts =>
      let place := Place.step place part
      if FileFault.isTooLong part.toList then some .nameTooLong
      else if workspace.isDirectory place then workspace.faultOnWay? place parts
      else if parts.isEmpty then none
      else if (workspace.files.get? (Place.text place)).isSome then some .notDirectory
      else some .missingDirectory

/-- Writes a file in place of the one that is there, where the path is taken from a directory and
all directories on its way are there. -/
def create (workspace : Workspace) (directory : List String) (path text : String) :
    Except FileFault Workspace :=
  if path.toList.contains '\x00' then .error .zeroInName
  else
    match workspace.faultOnWay? (Place.start directory path) (Place.parts path) with
    | some fault => .error fault
    | none => .ok (workspace.put (Place.text (Place.follow directory path)) text)

/-- The files that are not the same in an earlier workspace. -/
def changesFrom (before after : Workspace) : List (String × String) :=
  after.files.entries.filter fun (place, text) => before.files.get? place != some text

end Workspace

end SyntheticRows
