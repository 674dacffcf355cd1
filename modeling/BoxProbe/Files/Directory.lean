/-
Module: BoxProbe.Files.Directory
Purpose: The files below the working directory.
Main exports: Directory, FileFault, Directory.readAt?, Directory.makeAll, Directory.openLog,
  Directory.append, Directory.remove, Directory.rename
-/
import BoxProbe.Files.Path
import BoxProbe.Text.Basic
import BoxProbe.Text.Quoted

/-!
The working directory is a table from places to files and directories.  A place is the list of names
that lead to it; the empty list is the working directory itself.  Paths that leave the working
directory lead to places that are not tracked: whatever is done there succeeds and leaves no mark,
except that no log file can be opened in the place of a directory above the working directory.
-/

namespace BoxProbe

/-- Why a file operation is refused. -/
inductive FileReason where
  | missing
  | exists
  | notDirectory
  | isDirectory
  | nameTooLong
deriving DecidableEq, Repr

namespace FileReason

/-- The number and the text of a reason. -/
def description : FileReason → Nat × String
  | .missing => (2, "No such file or directory")
  | .exists => (17, "File exists")
  | .notDirectory => (20, "Not a directory")
  | .isDirectory => (21, "Is a directory")
  | .nameTooLong => (36, "File name too long")

end FileReason

/-- A refused file operation, with the path it was refused for. -/
structure FileFault where
  reason : FileReason
  path : String
deriving DecidableEq, Repr

namespace FileFault

/-- A refusal as text. -/
def message (f : FileFault) : Text :=
  let (number, text) := f.reason.description
  Text.ofString s!"[Errno {number}] {text}: " ++ Text.quoted (Text.ofString f.path)

end FileFault

/-- A place below the working directory: the names that lead there. -/
abbrev Place := List String

/-- What is at a place. -/
inductive Node where
  | file (content : String)
  | directory
deriving DecidableEq, Repr

/-- The working directory: its own absolute path, the names of the directories above it, from the
root on, what is below it, and files elsewhere that can be read. -/
structure Directory where
  path : String := ""
  above : List String := []
  nodes : List (Place × Node) := []
  elsewhere : List (FilePath × String) := []
  /-- The text of the file of variables that is found where none is named, if there is one. -/
  defaultFile : Option String := none

/-- The largest number of bytes in a name. -/
def maxNameBytes : Nat := 255

/-- The largest number of bytes in a path. -/
def maxPathBytes : Nat := 4095

namespace Directory

/-- What is at a place; the working directory itself is a directory. -/
def node? (d : Directory) (place : Place) : Option Node :=
  if place = [] then some .directory
  else (d.nodes.find? fun entry => entry.1 = place).map (·.2)

/-- Puts a file or a directory at a place. -/
def put (d : Directory) (place : Place) (node : Node) : Directory :=
  { d with nodes := (d.nodes.filter fun entry => entry.1 ≠ place) ++ [(place, node)] }

/-- A directory with a file, and with the directories that lead to it. -/
def withFile (d : Directory) (place : Place) (content : String) : Directory :=
  let above := ((List.range place.length).drop 1).map place.take
  (above.foldl (fun d p => if (d.node? p).isNone then d.put p .directory else d) d).put place
    (.file content)

/-- Follows names from a directory.  The answer is a place, or nothing once the path has left the
working directory. -/
def follow (d : Directory) : Place → List String → Except FileReason (Option Place)
  | place, [] => .ok (some place)
  | place, name :: rest =>
    match d.node? place with
    | none => .error .missing
    | some (.file _) => .error .notDirectory
    | some .directory =>
      if name = ".." then
        if place = [] then .ok none else follow d place.dropLast rest
      else if maxNameBytes < name.utf8ByteSize then .error .nameTooLong
      else follow d (place ++ [name]) rest

/-- The place of a path, following its names one by one. -/
def locate (d : Directory) (p : FilePath) : Except FileReason (Option Place) :=
  if maxPathBytes < p.toString.utf8ByteSize then .error .nameTooLong
  else if p.start = .here then d.follow [] p.names
  else .ok none

/-- The place that a path names when every `..` just takes back the name before it. -/
def lexicalPlace? (p : FilePath) : Option Place :=
  if p.start = .here then
    p.names.foldl (fun place? name =>
      place?.bind fun place =>
        if name = ".." then (if place = [] then none else some place.dropLast)
        else some (place ++ [name])) (some [])
  else none

/-- Whether a path leads to a directory. -/
def isDirectory (d : Directory) (p : FilePath) : Bool :=
  match d.locate p with
  | .ok (some place) => d.node? place = some .directory
  | .ok none => true
  | .error _ => false

/-- The content of the file at a path, if there is a file. -/
def read? (d : Directory) (p : FilePath) : Option String :=
  match d.locate p with
  | .ok (some place) =>
    match d.node? place with
    | some (.file content) => some content
    | _ => none
  | .ok none => (d.elsewhere.find? fun f => f.1 = p).map (·.2)
  | .error _ => none

/-- The content of the file at a path as it is written, if there is a file. -/
def readAt? (d : Directory) (path : String) : Option String :=
  if maxPathBytes < path.utf8ByteSize || FilePath.asksForDirectory path then none
  else d.read? (FilePath.ofString path)

/-- Makes one directory. -/
def make (d : Directory) (p : FilePath) : Except FileReason Directory :=
  match d.locate p with
  | .error reason => .error reason
  | .ok none => .ok d
  | .ok (some place) =>
    if (d.node? place).isSome then .error .exists else .ok (d.put place .directory)

/-- Makes one directory unless it is there. -/
def ensure (d : Directory) (p : FilePath) : Directory × Option FileFault :=
  match d.make p with
  | .ok d' => (d', none)
  | .error reason =>
    if d.isDirectory p then (d, none) else (d, some ⟨reason, p.toString⟩)

/-- Makes the directory of the reversed names and, as far as needed, those above it. -/
def makeAbove (d : Directory) (start : PathStart) : List String → Directory × Option FileFault
  | [] => (d, none)
  | name :: above =>
    let p : FilePath := { start, names := (name :: above).reverse }
    match d.make p with
    | .error .missing =>
      match makeAbove d start above with
      | (d', some fault) => (d', some fault)
      | (d', none) => d'.ensure p
    | _ => d.ensure p

/-- Makes the directory of a path and, as far as needed, those above it.  Directories that were made
before a refusal stay. -/
def makeAll (d : Directory) (p : FilePath) : Directory × Option FileFault :=
  d.makeAbove p.start p.names.reverse

/-- The absolute path of a place. -/
def absolute (d : Directory) (place : Place) : String :=
  "/".intercalate (d.path :: place)

/-- The names that lead from the root to a path outside the working directory, when every `..` just
takes back the name before it. -/
def outerNames (d : Directory) (p : FilePath) : List String :=
  p.names.foldl (fun names name => if name = ".." then names.dropLast else names ++ [name])
    (if p.start = .here then d.above ++ [d.path] else [])

/-- Opens the file at a path for appending: it is made if it is not there.  The answer is its place,
or nothing if the file is not below the working directory. -/
def openLog (d : Directory) (p : FilePath) : Except FileFault (Directory × Option Place) :=
  match lexicalPlace? p with
  | none =>
    let names := d.outerNames p
    if names.isPrefixOf d.above then .error ⟨.isDirectory, "/" ++ "/".intercalate names⟩
    else .ok (d, none)
  | some place =>
    let tooLong := maxPathBytes < (d.absolute place).utf8ByteSize
    match if tooLong then .error .nameTooLong else d.follow [] place with
    | .error reason => .error ⟨reason, d.absolute place⟩
    | .ok _ =>
      match d.node? place with
      | some .directory => .error ⟨.isDirectory, d.absolute place⟩
      | some (.file _) => .ok (d, some place)
      | none => .ok (d.put place (.file ""), some place)

/-- The text of the file at a place, empty if there is none. -/
def content (d : Directory) (place : Place) : String :=
  match d.node? place with
  | some (.file text) => text
  | _ => ""

/-- Appends to the file at a place. -/
def append (d : Directory) (place : Place) (text : String) : Directory :=
  d.put place (.file (d.content place ++ text))

/-- Removes what is at a place. -/
def remove (d : Directory) (place : Place) : Directory :=
  { d with nodes := d.nodes.filter fun entry => entry.1 ≠ place }

/-- Moves what is at a place, and what is below it, to another place. -/
def rename (d : Directory) (source target : Place) : Directory :=
  { d with nodes := d.nodes.map fun entry =>
      if source.isPrefixOf entry.1 then (target ++ entry.1.drop source.length, entry.2) else entry }

end Directory

end BoxProbe
