import MiniTemplate.Files.System

/-!
# A file system in memory

A disk knows which locations hold a directory or a file, and which directory is the working
directory. There are no links, so that a location is reached by following the names of a path one
by one; `..` leads back to the directory above.
-/

namespace MiniTemplate

/-- A place on the disk: the names that lead to it from the root, the last one first. -/
abbrev Location := List Name

inductive Entry where
  | directory
  | file (content : ByteArray)

structure Disk where
  entries : List (Location × Entry)
  workDir : Location

namespace Disk

/-- A disk with nothing on it but the working directory. -/
def ofWorkDir : Location → Disk
  | [] => ⟨[], []⟩
  | name :: up => ⟨(name :: up, .directory) :: (ofWorkDir up).entries, name :: up⟩

def get? (d : Disk) (l : Location) : Option Entry :=
  if l.isEmpty then some .directory else d.entries.lookup l

def insert (d : Disk) (l : Location) (e : Entry) : Disk :=
  { d with entries := (l, e) :: d.entries.filter (·.1 != l) }

def isTooLong (name : Name) : Bool := 255 < name.size

/-- What a name in a directory leads to, if it can be looked up. -/
def child? (d : Disk) (l : Location) (name : Name) : Except FileFault (Option Entry) :=
  if isTooLong name then .error .nameTooLong else .ok (d.get? (name :: l))

/-- The directory that a name leads to from a directory. -/
def enter (d : Disk) (l : Location) (name : Name) : Except FileFault Location :=
  if name = "." then .ok l
  else if name = ".." then .ok l.tail
  else
    match d.child? l name with
    | .ok (some .directory) => .ok (name :: l)
    | .ok (some (.file _)) => .error .notADirectory
    | .ok none => .error .notFound
    | .error f => .error f

/-- The directory that names lead to from a directory. -/
def walk (d : Disk) (l : Location) : List Name → Except FileFault Location
  | [] => .ok l
  | name :: rest =>
    match d.enter l name with
    | .ok next => d.walk next rest
    | .error f => .error f

/-- Where a path leads: to a directory by its way alone, or to a name in a directory. -/
inductive Target where
  | directory (l : Location)
  | name (l : Location) (name : Name)

/-- The directory where the way of a path starts. -/
def origin (d : Disk) (p : Path) : Location := if p.isAbsolute then [] else d.workDir

/-- Where a path leads. All names but the last have to be directories. -/
def resolve (d : Disk) (p : Path) : Except FileFault Target :=
  if p.bytes.contains 0 then .error .nulInName
  else if 4096 ≤ p.bytes.length then .error .nameTooLong
  else if p.isEmpty then .error .notFound
  else
    match p.steps.getLast? with
    | none => .ok (.directory (d.origin p))
    | some last =>
      match d.walk (d.origin p) p.steps.dropLast with
      | .error f => .error f
      | .ok l =>
        if last = "." then .ok (.directory l)
        else if last = ".." then .ok (.directory l.tail)
        else .ok (.name l last)

def read (d : Disk) (p : Path) : Except FileFault ByteArray :=
  match d.resolve p with
  | .error f => .error f
  | .ok (.directory _) => .error .isADirectory
  | .ok (.name l name) =>
    match d.child? l name with
    | .error f => .error f
    | .ok none => .error .notFound
    | .ok (some .directory) => .error .isADirectory
    | .ok (some (.file content)) =>
      if p.endsWithSlash then .error .notADirectory else .ok content

def readText (d : Disk) (p : Path) : Except FileFault String :=
  match d.read p with
  | .error f => .error f
  | .ok content =>
    match String.fromUTF8? content with
    | some text => .ok text
    | none => .error .notUtf8

def isDir (d : Disk) (p : Path) : Bool :=
  match d.resolve p with
  | .error _ => false
  | .ok (.directory _) => true
  | .ok (.name l name) =>
    match d.child? l name with
    | .ok (some .directory) => true
    | _ => false

def makeDir (d : Disk) (p : Path) : Except FileFault Disk :=
  match d.resolve p with
  | .error f => .error f
  | .ok (.directory _) => .error .alreadyExists
  | .ok (.name l name) =>
    match d.child? l name with
    | .error f => .error f
    | .ok (some _) => .error .alreadyExists
    | .ok none => .ok (d.insert (name :: l) .directory)

/-- The disk with a file written anew. -/
def write (d : Disk) (p : Path) (content : ByteArray) : Except FileFault Disk :=
  match d.resolve p with
  | .error f => .error f
  | .ok (.directory _) => .error .isADirectory
  | .ok (.name l name) =>
    if p.endsWithSlash then .error .isADirectory
    else
      match d.child? l name with
      | .error f => .error f
      | .ok (some .directory) => .error .isADirectory
      | .ok _ => .ok (d.insert (name :: l) (.file content))

/-- A change of the disk that may fail, and then leaves it as it was. -/
def change (f : Disk → Except FileFault Disk) : StateM Disk (Except FileFault Unit) := fun d =>
  match f d with
  | .ok d' => (.ok (), d')
  | .error e => (.error e, d)

end Disk

instance : FileSystem (StateM Disk) where
  readText p := fun d => (d.readText p, d)
  makeDir p := Disk.change (·.makeDir p)
  isDir p := fun d => (d.isDir p, d)
  writeText p text := Disk.change (·.write p text.toUTF8)

end MiniTemplate
