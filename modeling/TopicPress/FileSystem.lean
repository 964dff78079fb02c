import TopicPress.Input.Stream

/-!
# File systems

A file system as data: directories and files by their absolute paths, and a current directory.
Paths are bytes; the segments between slashes are followed one by one, so that a path through
something that is missing, or that is no directory, fails even where `..` leaves it again.
-/

namespace TopicPress

/-- A name in a directory. -/
abbrev Segment := List UInt8

inductive Entry where
  | directory
  | file (bytes : List UInt8)
  deriving DecidableEq

/-- What is at each path, given by the segments from the root; the root itself is a directory.  Of
several entries with one path the first one counts. -/
structure FileSystem where
  entries : List (List Segment × Entry) := []
  /-- Where relative paths begin. -/
  current : List Segment := []

namespace FileSystem

/-- What is at a path. -/
def find? (files : FileSystem) (path : List Segment) : Option Entry :=
  if path.isEmpty then some .directory else files.entries.lookup path

/-- Put an entry at a path. -/
def put (files : FileSystem) (path : List Segment) (entry : Entry) : FileSystem :=
  { files with entries := (path, entry) :: files.entries }

/-! ## Paths -/

def slash : UInt8 := 47

/-- The segment that stands for its own directory. -/
def here : Segment := [46]

/-- The segment that stands for the directory above. -/
def above : Segment := [46, 46]

/-- The bytes that a segment may have. -/
def segmentLimit : Nat := 255

/-- The bytes that a path may have. -/
def pathLimit : Nat := 4095

/-- The segments of a path. -/
def segments (path : List UInt8) : List Segment :=
  (path.splitOn slash).filter (fun segment => !segment.isEmpty)

/-- Does a slash end the path? -/
def endsInSlash (path : List UInt8) : Bool := path.getLast? == some slash

/-- The directory where a path begins. -/
def start (files : FileSystem) (path : List UInt8) : List Segment :=
  if path.head? == some slash then [] else files.current

/-- What is wrong with a path whatever the files are. -/
def pathError? (path : List UInt8) : Option IoError :=
  if path.contains 0 then some .nulInPath
  else if path.isEmpty then some .notFound
  else if pathLimit < path.length then some .nameTooLong
  else none

/-- Go into a segment of a directory. -/
def enter (files : FileSystem) (place : List Segment) (segment : Segment) :
    Except IoError (List Segment) :=
  match files.find? place with
  | none => .error .notFound
  | some (.file _) => .error .notDirectory
  | some .directory =>
    if segment = here then .ok place
    else if segment = above then .ok place.dropLast
    else if segmentLimit < segment.length then .error .nameTooLong
    else .ok (place ++ [segment])

/-- Go through segments one after the other.  Nothing need be at the last one. -/
def walk (files : FileSystem) (place : List Segment) (path : List Segment) :
    Except IoError (List Segment) :=
  path.foldlM files.enter place

/-! ## Reading and writing -/

/-- The bytes of the file at a path. -/
def read (files : FileSystem) (path : List UInt8) : Except IoError (List UInt8) :=
  match pathError? path with
  | some error => .error error
  | none => do
    let place ← files.walk (files.start path) (segments path)
    match files.find? place with
    | none => .error .notFound
    | some .directory => .error .isDirectory
    | some (.file bytes) => if endsInSlash path then .error .notDirectory else .ok bytes

/-- The place where a file may be written for a path: its directory exists, and it is no directory
itself. -/
def target (files : FileSystem) (path : List UInt8) : Except IoError (List Segment) :=
  match pathError? path with
  | some error => .error error
  | none => do
    let place ← files.walk (files.start path) (segments path)
    match files.find? place.dropLast, files.find? place with
    | none, _ => .error .notFound
    | some (.file _), _ => .error .notDirectory
    | _, some .directory => .error .isDirectory
    | _, _ => if endsInSlash path then .error .isDirectory else .ok place

/-- Write a file, in place of the one that is there if there is one. -/
def write (files : FileSystem) (path bytes : List UInt8) : Except IoError FileSystem := do
  let place ← files.target path
  return files.put place (.file bytes)

end FileSystem

end TopicPress
