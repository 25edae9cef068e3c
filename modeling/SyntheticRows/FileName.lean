import SyntheticRows.Text.Cut
/-!
Which names a file system takes. A path holds no zero, and each part between slashes fits in 255
bytes.
-/

namespace SyntheticRows

/-- Why a file or a directory cannot be made. -/
inductive FileFault where
  | zeroInName
  | nameTooLong
  /-- The path leads through a directory that is not there. -/
  | missingDirectory
  /-- A file stands where a directory is wanted. -/
  | notDirectory
  /-- A directory stands where a file is wanted. -/
  | isDirectory
  deriving DecidableEq, Repr

namespace FileFault

def message : FileFault → String
  | zeroInName => "file name contained an unexpected NUL byte"
  | nameTooLong => "File name too long (os error 36)"
  | missingDirectory => "No such file or directory (os error 2)"
  | notDirectory => "Not a directory (os error 20)"
  | isDirectory => "Is a directory (os error 21)"

def isTooLong (part : List Char) : Bool :=
  255 < (String.ofList part).utf8ByteSize

/-- A directory, in front of which all others are made as well. -/
def ofDirectory? (path : List Char) : Option FileFault :=
  if path.contains '\x00' then some zeroInName
  else if (Text.splitAtEach '/' path).any isTooLong then some nameTooLong
  else none

end FileFault

/-- A path that is taken from a directory. One with a slash in front starts at the root. -/
def within (directory name : String) : String :=
  if directory.isEmpty || name.startsWith "/" then name
  else if directory.endsWith "/" then directory ++ name else directory ++ "/" ++ name

end SyntheticRows
