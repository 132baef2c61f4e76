import ViewOutline.CommandLine.Location
import ViewOutline.Text.Quoted

/-!
# Writing a file

A disk is a folder with everything in it, and a current folder.  To write a
file the folders on the way to it are made first, from the outside in.  A file
in the place of such a folder, a folder in the place of the file, or a name
that is too long stops the writing.
-/

namespace ViewOutline.CommandLine

/-- Everything there is, and where the program was started. -/
structure Disk where
  root : Entry
  current : Path

/-- Why a place cannot be made or written. -/
inductive DiskFault where
  /-- Something on the way does not exist. -/
  | missing
  /-- The place is taken. -/
  | taken
  /-- A file is on the way. -/
  | notAFolder
  /-- There is a folder in the place of the file. -/
  | isAFolder
  /-- A name is too long, or the whole location. -/
  | tooLong
  /-- The location holds a null character. -/
  | nullCharacter
  deriving DecidableEq

/-- A fault and where it arose. -/
structure DiskError where
  fault : DiskFault
  location : Location

/-- The wording of a disk error. -/
def DiskError.message (error : DiskError) : String :=
  let place := Text.quoted error.location.text
  match error.fault with
  | .missing => s!"[Errno 2] No such file or directory: {place}"
  | .taken => s!"[Errno 17] File exists: {place}"
  | .notAFolder => s!"[Errno 20] Not a directory: {place}"
  | .isAFolder => s!"[Errno 21] Is a directory: {place}"
  | .tooLong => s!"[Errno 36] File name too long: {place}"
  | .nullCharacter => "embedded null byte"

/-- The most bytes in a name. -/
def nameLimit : Nat :=
  255

/-- The most bytes in a location. -/
def locationLimit : Nat :=
  4095

/-- Whether a location cannot be handed to a file system at all. -/
def Location.fault? (location : Location) : Option DiskFault :=
  if !location.isSpeakable then some .nullCharacter
  else if locationLimit < location.text.utf8ByteSize then some .tooLong
  else none

/-- A walk from the root: the entries that were opened, the innermost first. -/
abbrev Trail := List (String × Entry)

namespace Trail

/-- Where a walk has arrived. -/
def entry (trail : Trail) (root : Entry) : Entry :=
  match trail with
  | [] => root
  | (_, inner) :: _ => inner

/-- The path of a walk. -/
def path (trail : Trail) : Path :=
  (trail.map Prod.fst).reverse

/-- Walk on by names.  Every step starts in a folder and leads to something that
exists; two dots lead back. -/
def follow (root : Entry) : Trail → List String → Except DiskFault Trail
  | trail, [] => .ok trail
  | trail, name :: rest =>
      if !(trail.entry root).isFolder then .error .notAFolder
      else if name = ".." then follow root trail.tail rest
      else if nameLimit < name.utf8ByteSize then .error .tooLong
      else
        match (trail.entry root).child? name with
        | none => .error .missing
        | some inner => follow root ((name, inner) :: trail) rest

end Trail

namespace Disk

/-- The walk to what exists at a location.  Nothing can be found at a location
that cannot be handed to a file system, whatever its names lead to. -/
def find (disk : Disk) (location : Location) : Except DiskFault Trail :=
  match location.fault? with
  | some fault => .error fault
  | none => do
      let start ← Trail.follow disk.root [] (location.start.path disk.current)
      Trail.follow disk.root start location.names

/-- Whether looking for something at a location ends at a name that is too long,
or the whole location is. -/
def isTooLong (disk : Disk) (location : Location) : Bool :=
  match disk.find location with
  | .ok _ => false
  | .error fault => fault = .tooLong

/-- Whether there is a folder at a location. -/
def hasFolder (disk : Disk) (location : Location) : Bool :=
  match disk.find location with
  | .ok trail => (trail.entry disk.root).isFolder
  | .error _ => false

/-- The place of a new entry at a location, in a folder that exists. -/
def placeFor (disk : Disk) (location : Location) : Except DiskFault Path :=
  match location.fault?, location.names.getLast? with
  | some fault, _ => .error fault
  | none, none => .error .taken
  | none, some name =>
      match disk.find location.parent with
      | .error fault => .error fault
      | .ok trail =>
          if !(trail.entry disk.root).isFolder then .error .notAFolder
          else if name = ".." then .error .taken
          else if nameLimit < name.utf8ByteSize then .error .tooLong
          else .ok (trail.path ++ [name])

/-- Make one folder in a place that is free. -/
def makeFolder (disk : Disk) (location : Location) : Except DiskFault Disk :=
  match disk.placeFor location with
  | .error fault => .error fault
  | .ok place =>
      if (disk.root.at? place).isSome then .error .taken
      else .ok { disk with root := disk.root.put place .empty }

/-- Make one folder, unless it exists. -/
def ensureFolder (disk : Disk) (location : Location) : Except DiskError Disk :=
  match disk.makeFolder location with
  | .ok disk => .ok disk
  | .error fault => if disk.hasFolder location then .ok disk else .error ⟨fault, location⟩

/-- Make the folders of names given from the inside out, unless they exist. -/
def ensureFolders (disk : Disk) (start : Start) : List String → Except DiskError Disk
  | [] => disk.ensureFolder ⟨start, []⟩
  | name :: outer =>
      let location : Location := ⟨start, (name :: outer).reverse⟩
      match disk.makeFolder location with
      | .ok disk => .ok disk
      | .error .missing => do
          let disk ← disk.ensureFolders start outer
          disk.ensureFolder location
      | .error fault => if disk.hasFolder location then .ok disk else .error ⟨fault, location⟩

/-- Write a file whose folder exists. -/
def writeFile (disk : Disk) (location : Location) (bytes : List UInt8) :
    Except DiskError Disk :=
  match disk.placeFor location with
  | .error .taken => .error ⟨.isAFolder, location⟩
  | .error fault => .error ⟨fault, location⟩
  | .ok place =>
      if disk.root.hasFolder place then .error ⟨.isAFolder, location⟩
      else .ok { disk with root := disk.root.put place (.file bytes) }

/-- Write a file and make the folders on the way to it. -/
def write (disk : Disk) (location : Location) (bytes : List UInt8) : Except DiskError Disk := do
  let disk ← disk.ensureFolders location.start location.parent.names.reverse
  disk.writeFile location bytes

end Disk

end ViewOutline.CommandLine
