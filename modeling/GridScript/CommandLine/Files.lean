import GridScript.Text.Split

/-!
Files as the program sees them.

A tree has files and directories: a directory is one that a file lies in, or one that was made, or
one with such a directory below it. A path is a list of names between slashes, along which one walks
from the directory of the program: every name but the last has to lead to a directory, and so has the
last if a slash follows it.

A directory may be closed: files in it can be read and written, but the directory cannot be opened to
make sure that a change of it lasts.
-/

namespace GridScript.CommandLine

/-- What reading a path gives. -/
inductive FileContent where
  | missing
  /-- A directory, or a path that goes through a file or is too long. -/
  | unreadable
  | bytes (content : List UInt8)
deriving DecidableEq

/-- The content of a file, if it can be read. -/
def FileContent.bytes? : FileContent → Option (List UInt8)
  | bytes content => some content
  | _ => none

/-- A directory that is always there. -/
inductive Origin where
  /-- The directory of the program, or one so many levels above it. -/
  | above (levels : Nat)
  /-- Where a path that begins with a slash starts. -/
  | root
deriving DecidableEq

/-- The directory above; the root is above itself. -/
def Origin.parent : Origin → Origin
  | above levels => above (levels + 1)
  | root => root

/-- A place for a file or a directory: the names that lead down to it. -/
structure Place where
  origin : Origin
  names : List String
deriving DecidableEq

namespace Place

/-- The directory of the program. -/
def here : Place := ⟨.above 0, []⟩

def child (p : Place) (name : String) : Place := { p with names := p.names ++ [name] }

/-- The directory of a place. -/
def parent (p : Place) : Place :=
  if p.names.isEmpty then ⟨p.origin.parent, []⟩ else { p with names := p.names.dropLast }

/-- One place is the other, or lies below it. -/
def isWithin (p directory : Place) : Bool :=
  p.origin == directory.origin && directory.names.isPrefixOf p.names

/-- One place lies below the other. -/
def isBelow (p directory : Place) : Bool := p != directory && p.isWithin directory

end Place

/-- Where a path leads. -/
inductive Destination where
  /-- A directory on the way is missing. -/
  | missing
  /-- A file is in the way, or a name that is too long. -/
  | blocked
  /-- A place in a directory; there may be nothing. -/
  | place (p : Place)
deriving DecidableEq

/-- Files with their contents, the directories that were made, and those that cannot be opened. -/
structure FileTree where
  files : List (Place × List UInt8)
  made : List Place
  closed : List Place

/-- How a write ends. -/
inductive Written where
  /-- The file is not in its place. -/
  | failed
  /-- The file is in its place, and it is not sure that it stays there. -/
  | unsynced
  | done
deriving DecidableEq

/-! ### Paths -/

namespace FilePath

/-- The names of a path, with an empty one at the end if it ends in a slash. -/
def names (path : String) : List String := (Text.split (· == '/') path.toList).map String.ofList

/-- The name of the directory that one is in already. -/
def isHere (name : String) : Bool := name == "" || name == "."

/-- The names end with a dot and lead nowhere else. -/
def isStay (names : List String) : Bool := names.all isHere && names.contains "."

/-- Where the walk along a path begins. -/
def start (path : String) : Place :=
  if path.toList.head? = some '/' then ⟨.root, []⟩ else Place.here

/-- No name in a directory has more than 255 bytes. -/
def isLongName (name : String) : Bool := 255 < name.utf8ByteSize

/-- No path of more than 4095 bytes can be used. -/
def isLong (path : String) : Bool := 4095 < path.utf8ByteSize

/-- The path of a file in a directory. -/
def inDirectory (directory name : String) : String :=
  if directory.toList.getLast? = some '/' then directory ++ name else directory ++ "/" ++ name

/-- What is added to the name of a file while it is written. -/
def temporary : String := ".tmp"

end FilePath

namespace FileTree

open FilePath

def ofList (files : List (String × List UInt8)) : FileTree :=
  let place (path : String) : Place := ⟨.above 0, (names path).filter (!isHere ·)⟩
  ⟨files.map fun (path, content) => (place path, content), [], []⟩

def content? (t : FileTree) (p : Place) : Option (List UInt8) := t.files.lookup p

def isDirectory (t : FileTree) (p : Place) : Bool :=
  p.names.isEmpty || t.made.any (·.isWithin p) || t.files.any fun f => f.1.isBelow p

/-! ### Reading -/

/-- Walks along names from a place. -/
def follow (t : FileTree) (p : Place) : List String → Destination
  | [] => .place p
  | name :: rest =>
    if (t.content? p).isSome then .blocked
    else if !t.isDirectory p then .missing
    else if isHere name then t.follow p rest
    else if name == ".." then t.follow p.parent rest
    else if isLongName name then .blocked
    else t.follow (p.child name) rest

def read (t : FileTree) (path : String) : FileContent :=
  if isLong path then .unreadable
  else
    match t.follow (start path) (names path) with
    | .missing => .missing
    | .blocked => .unreadable
    | .place p =>
      match t.content? p with
      | some content => .bytes content
      | none => if t.isDirectory p then .unreadable else .missing

/-! ### Writing -/

/-- Makes the directories along names that are missing, as far as that is possible. A path that ends
with a dot has to lead to a directory already. -/
def makeDirectories (t : FileTree) (p : Place) : List String → FileTree
  | [] => t
  | name :: rest =>
    if isHere name then t.makeDirectories p rest
    else if name == ".." then t.makeDirectories p.parent rest
    else if (t.content? (p.child name)).isSome || isLongName name || isStay rest then t
    else makeDirectories { t with made := p.child name :: t.made } (p.child name) rest

/-- Puts a file into a place; what is at another place goes. -/
def replace (t : FileTree) (p beside : Place) (content : List UInt8) : FileTree :=
  { t with files := (p, content) :: t.files.filter fun f => f.1 != p && f.1 != beside }

/-- Takes a file away; its directory stays. -/
def remove (t : FileTree) (p : Place) : FileTree :=
  { t with files := t.files.filter fun f => f.1 != p, made := p.parent :: t.made }

/-- Writes a file into a directory, which is made if need be. The file is written beside its place
and moved there; what cannot be moved goes again. Last the directory is opened and synced. If the
file does not come to its place, the directories that were made are left. -/
def write (t : FileTree) (directory name : String) (content : List UInt8) : Written × FileTree :=
  if isLong directory then (.failed, t)
  else
    let t := t.makeDirectories (start directory) (names directory)
    match t.follow (start directory) (names directory ++ [""]) with
    | .missing | .blocked => (.failed, t)
    | .place p =>
      let target := p.child name
      let beside := p.child (name ++ temporary)
      if isLong (inDirectory directory (name ++ temporary)) || t.isDirectory beside then (.failed, t)
      else if t.isDirectory target then (.failed, t.remove beside)
      else (if t.closed.contains p then .unsynced else .done, t.replace target beside content)

end FileTree

end GridScript.CommandLine
