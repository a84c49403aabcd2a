import PullStreams.ByteWriter
import PullStreams.Deque
import PullStreams.Entry
import PullStreams.Path

namespace PullStreams

structure Directory where
  /-- What the directory is called in messages. -/
  name : String
  place : Place := ["tmp", ".temporary"]
  /-- All that there is. -/
  root : Entry := (Entry.directory []).put place (.directory [])

namespace Directory

def notFound : IoFault := ⟨.notFound, "No such file or directory (os error 2)"⟩

def busy : IoFault := ⟨.busy, "Device or resource busy (os error 16)"⟩

def alreadyExists : IoFault := ⟨.alreadyExists, "File exists (os error 17)"⟩

def notADirectory : IoFault := ⟨.notADirectory, "Not a directory (os error 20)"⟩

def isADirectory : IoFault := ⟨.isADirectory, "Is a directory (os error 21)"⟩

def invalid : IoFault := ⟨.invalid, "Invalid argument (os error 22)"⟩

def longName : IoFault := ⟨.longName, "File name too long (os error 36)"⟩

def notEmpty : IoFault := ⟨.notEmpty, "Directory not empty (os error 39)"⟩

def hasNul : IoFault := ⟨.invalid, "file name contained an unexpected NUL byte"⟩

def title (d : Directory) (p : Path) : String := p.textIn d.name

/-- A path has fewer bytes. -/
def pathLimit : Nat := 4096

def nameLimit : Nat := 255

def check (d : Directory) (paths : List Path) : Except IoFault Unit :=
  if paths.any fun p => p.parts.any (·.contains '\x00') then .error hasNul
  else if paths.any fun p =>
      pathLimit ≤ (p.textIn ("/" ++ "/".intercalate d.place)).utf8ByteSize then .error longName
  else .ok ()

/-- Something in a tree, with the way to it. -/
structure Spot where
  entry : Entry
  /-- The directories that it is in, each with the name taken there; the nearest first. -/
  above : List (String × Entry) := []

namespace Spot

def place (s : Spot) : Place := (s.above.map (·.1)).reverse

def parent (s : Spot) : Spot :=
  match s.above with
  | [] => s
  | (_, entry) :: above => ⟨entry, above⟩

def child? (s : Spot) (name : String) : Except IoFault (Option Spot) :=
  if name.utf8ByteSize > nameLimit then .error longName
  else .ok ((s.entry.child? name).map fun e => ⟨e, (name, s.entry) :: s.above⟩)

def enter (s : Spot) (name : String) : Except IoFault Spot :=
  if !s.entry.isDirectory then .error notADirectory
  else if name = "." then .ok s
  else if name = ".." then .ok s.parent
  else do (← s.child? name).elim (.error notFound) .ok

end Spot

def namesTo (d : Directory) (p : Path) : List String :=
  (if p.isAbsolute then [] else d.place) ++ p.names

def walk (d : Directory) (names : List String) : Except IoFault Spot :=
  names.foldlM Spot.enter ⟨d.root, []⟩

/-- What a path leads to. Only a directory may have a slash after it. -/
def find (d : Directory) (p : Path) : Except IoFault Spot := do
  d.check [p]
  let spot ← d.walk (d.namesTo p)
  if p.endsWithSlash && !spot.entry.isDirectory then .error notADirectory else .ok spot

/-- A directory and the name of something in it, which may be there or not. -/
structure Slot where
  directory : Spot
  name : String

namespace Slot

def place (s : Slot) : Place := s.directory.place ++ [s.name]

def entry? (s : Slot) : Except IoFault (Option Entry) :=
  (s.directory.child? s.name).map (·.map (·.entry))

end Slot

/-- The slot that a path ends with; none if it ends with dots. -/
def slot? (d : Directory) (p : Path) : Except IoFault (Option Slot) := do
  let names := d.namesTo p
  let directory ← d.walk names.dropLast
  let name := names.getLast?.getD "."
  if !directory.entry.isDirectory then .error notADirectory
  else .ok (if name = "." || name = ".." then none else some ⟨directory, name⟩)

def contains (d : Directory) (p : Path) : Bool := (d.find p).toBool

def isDirectory (d : Directory) (p : Path) : Bool :=
  match d.find p with
  | .ok spot => spot.entry.isDirectory
  | .error _ => false

/-- A directory can be opened as a file, but not read. -/
def openFile (d : Directory) (p : Path) : Except IoFault Feed :=
  (d.find p).map fun spot =>
    match spot.entry with
    | .file contents => .ofBytes contents none
    | .directory _ => .ofBytes [] (some isADirectory)

def put (d : Directory) (place : Place) (e : Entry) : Directory :=
  { d with root := d.root.put place e }

/-- Makes an empty file, also in place of a file that there was. -/
def createFile (d : Directory) (p : Path) : Except IoFault Directory := do
  d.check [p]
  match ← d.slot? p with
  | none => .error isADirectory
  | some slot =>
    if p.endsWithSlash then .error isADirectory
    else
      match ← slot.entry? with
      | some (.directory _) => .error isADirectory
      | _ => .ok (d.put slot.place (.file []))

def fill (d : Directory) (p : Path) (contents : Bytes) : Directory :=
  match d.find p with
  | .ok spot => d.put spot.place (.file contents)
  | .error _ => d

def makeDirectory (d : Directory) (p : Path) : Except IoFault Directory := do
  d.check [p]
  match ← d.slot? p with
  | none => .error alreadyExists
  | some slot =>
    if (← slot.entry?).isSome then .error alreadyExists
    else .ok (d.put slot.place (.directory []))

def ensureDirectory (d : Directory) (p : Path) : Except IoFault Directory :=
  match d.makeDirectory p with
  | .error e => if e.kind = .alreadyExists && d.isDirectory p then .ok d else .error e
  | .ok d => .ok d

/-- Makes a directory and those on its way, unless they are there. What was made before a failure
stays. -/
def makeWay (d : Directory) (p : Path) : Except IoFault Unit × Directory :=
  match d.ensureDirectory p with
  | .ok d => (.ok (), d)
  | .error e =>
    if e.kind ≠ .notFound then (.error e, d)
    else
      match _h : p.parent? with
      | none => (.error e, d)
      | some q =>
        match d.makeWay q with
        | (.error e, d) => (.error e, d)
        | (.ok (), d) =>
          match d.ensureDirectory p with
          | .ok d => (.ok (), d)
          | .error e => (.error e, d)
termination_by p.parts.length
decreasing_by exact Path.length_of_parent? _h

def checkMove (place : Place) (e : Entry) (target : Place) (old : Option Entry) :
    Except IoFault Unit :=
  if place.isPrefixOf target.dropLast then .error invalid
  else if target.isPrefixOf place.dropLast then .error notEmpty
  else
    match e, old with
    | .directory _, some (.file _) => .error notADirectory
    | .file _, some (.directory _) => .error isADirectory
    | .directory _, some (.directory (_ :: _)) => .error notEmpty
    | _, _ => .ok ()

/-- Moves what a path leads to, in place of a file or an empty directory that there was. -/
def rename (d : Directory) (p q : Path) : Except IoFault Directory := do
  d.check [p, q]
  match ← d.slot? p, ← d.slot? q with
  | some source, some target =>
    match ← source.entry? with
    | none => .error notFound
    | some e =>
      let old ← target.entry?
      if !e.isDirectory && (p.endsWithSlash || q.endsWithSlash) then .error notADirectory
      else if source.place = target.place then .ok d
      else
        checkMove source.place e target.place old
        .ok { d with root := (d.root.erase source.place).put target.place e }
  | _, _ => .error busy

end Directory

structure OpenFile where
  stored : Deque UInt8 := {}

def OpenFile.contents (f : OpenFile) : Bytes := f.stored.toList

instance : ByteWriter OpenFile where
  write bs f := (.ok bs.length, ⟨f.stored.append bs⟩)
  flush f := (.ok (), f)

instance : PatientWriter OpenFile where
  wf := ⟨fun f => ⟨_, fun g ⟨bs, e, h, _⟩ => by simp [ByteWriter.write] at h⟩⟩

end PullStreams
