import LoxLex.Files.Disk

/-!
# LoxLex.Files.Tree — files, directories and the paths to them

A tree lists the files and directories that were made, each at its place from a working directory.
Names and paths are bytes, of which `/` parts the names of a path; a text is used as a name by its
encoding. A path is followed name by name: every name but the last must lead to a directory. Names
and whole paths are limited. A path over its limit leads nowhere; a name over its limit is refused
only where it is looked up.
-/

namespace LoxLex

/-- The name of a file, or a path of names: any bytes. -/
@[ext]
structure FileName where
  bytes : Bytes
deriving DecidableEq

instance : Coe String FileName := ⟨fun s => ⟨Utf8.encode s.toList⟩⟩

/-- The names that lead to a place from the working directory. Steps above it stand in front as
`..`, and a way from the root begins with `/`. -/
abbrev Place := List FileName

/-- What stands at a place. -/
inductive Entry where
  | file (bytes : Bytes)
  | directory
deriving DecidableEq

/-- Files and directories, each at its place. -/
structure FileTree where
  entries : List (Place × Entry)
deriving DecidableEq

namespace FileTree

def empty : FileTree := ⟨[]⟩

/-- The name of the directory above. -/
def above : FileName := ".."

/-- What a way from the root begins with. -/
def root : FileName := "/"

/-- Places that are directories whatever the tree lists: the working directory, those above it, and
the root. -/
def isGiven (p : Place) : Bool := p.all (· == above) || p == [root]

/-- What stands at a place. -/
def find? (t : FileTree) (p : Place) : Option Entry :=
  match t.entries.lookup p with
  | some entry => some entry
  | none => if isGiven p then some .directory else none

/-- The directory above a place. The root is above itself. -/
def parent (p : Place) : Place :=
  match p.getLast? with
  | none => p ++ [above]
  | some name => if name = above then p ++ [above] else if name = root then p else p.dropLast

/-- The place that a name stands for at a place. -/
def step (p : Place) (name : FileName) : Place :=
  if name = "" ∨ name = "." then p
  else if name = above then parent p
  else p ++ [name]

/-- The byte between the names of a path. -/
def separator : UInt8 := 0x2F

/-- The place where a path starts, and the names in it. -/
def route (path : FileName) : Place × List FileName :=
  match path.bytes.splitOn separator with
  | [] :: names => ([root], names.map FileName.mk)
  | names => ([], names.map FileName.mk)

/-- The most bytes that a name may take. -/
def nameLimit : Nat := 255

/-- The most bytes that a path may take. -/
def pathLimit : Nat := 4095

/-- Follows one name from a place, which has to be a directory. -/
def follow (t : FileTree) (p : Place) (name : FileName) : Except OpenCause Place :=
  match t.find? p with
  | none => .error .notFound
  | some (.file _) => .error .notDirectory
  | some .directory =>
    if nameLimit < name.bytes.length then .error .nameTooLong else .ok (step p name)

/-- The place that a path leads to, whether or not something stands there. -/
def locate (t : FileTree) (path : FileName) : Except OpenCause Place :=
  if 0 ∈ path.bytes then .error .embeddedNul
  else if path.bytes = [] then .error .notFound
  else if pathLimit < path.bytes.length then .error .nameTooLong
  else (route path).2.foldlM t.follow (route path).1

/-- The bytes of the file that a path leads to. -/
def read (t : FileTree) (path : String) : Except OpenError Bytes :=
  match t.locate path with
  | .error cause => .error ⟨path, cause⟩
  | .ok place => match t.find? place with
    | none => .error ⟨path, .notFound⟩
    | some .directory => .error ⟨path, .isDirectory⟩
    | some (.file bytes) => .ok bytes

/-- The tree as a disk. -/
def disk (t : FileTree) : Disk := ⟨t.read⟩

/-- The tree with a file or a directory at a place, in the stead of what stood there. -/
def put (t : FileTree) (place : Place) (entry : Entry) : FileTree :=
  ⟨t.entries.filter (·.1 ≠ place) ++ [(place, entry)]⟩

/-- Opens a file to be written: where it stands, and the tree in which it is empty. A file is made if
there is none. -/
def openToWrite (t : FileTree) (path : FileName) : Except OpenCause (Place × FileTree) :=
  match t.locate path with
  | .error cause => .error cause
  | .ok place =>
    if t.find? place = some .directory then .error .isDirectory
    else .ok (place, t.put place (.file []))

/-- Goes from a place by one name, and makes a directory there if nothing stands there. -/
def enter (t : FileTree) (p : Place) (name : FileName) : FileTree × Place :=
  let place := step p name
  match t.find? place with
  | none => (t.put place .directory, place)
  | some _ => (t, place)

/-- Goes from a place by names in turn. -/
def enterAll (t : FileTree) (p : Place) : List FileName → FileTree × Place
  | [] => (t, p)
  | name :: names =>
    let (t, p) := t.enter p name
    t.enterAll p names

/-- The tree with a file or a directory where a path leads. Directories that the path needs are
made, also those that it leaves again by `..`. -/
def add (t : FileTree) (path : FileName) (entry : Entry) : FileTree :=
  let (start, names) := route path
  match entry with
  | .directory => (t.enterAll start names).1
  | .file bytes =>
    let (t, place) := t.enterAll start names.dropLast
    t.put (step place (names.getLast?.getD "")) (.file bytes)

/-- The tree of the listed files and directories, made in order. -/
def ofList (items : List (FileName × Entry)) : FileTree :=
  items.foldl (fun t (path, entry) => t.add path entry) empty

/-- Is the place below the working directory? -/
def isBelow : Place → Bool
  | [] => false
  | name :: _ => name != above && name != root

/-- The path to a place from the working directory. -/
def pathTo (p : Place) : FileName := ⟨[separator].intercalate (p.map FileName.bytes)⟩

/-- Every file below the working directory with its path, in the order of the paths. -/
def files (t : FileTree) : List (FileName × Bytes) :=
  let found := t.entries.filterMap fun (place, entry) => match entry with
    | .file bytes => if isBelow place then some (pathTo place, bytes) else none
    | .directory => none
  found.mergeSort fun a b => !decide (b.1.bytes < a.1.bytes)

end FileTree

end LoxLex
