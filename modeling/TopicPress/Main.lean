import TopicPress.CommandLine

/-!
# The program

The outer layer: real files and streams as the surroundings of a conversion.
-/

open TopicPress

/-- An error of the system with its number, as the library tells errors apart.  Some calls give the
number below zero. -/
def numberedError (number : UInt32) (details : String) : IoError :=
  match min number.toNat (-number).toNat with
  | 2 => .notFound
  | 13 => .other "Permission denied (os error 13)"
  | 20 => .notDirectory
  | 21 => .isDirectory
  | 36 => .nameTooLong
  | number => .other (details ++ " (os error " ++ toString number ++ ")")

/-- An error of the system, as the library tells errors apart. -/
def ioErrorOf (error : IO.Error) : IoError :=
  match error with
  | .noFileOrDirectory _ number details => numberedError number details
  | .alreadyExists _ number details => numberedError number details
  | .inappropriateType _ number details => numberedError number details
  | .invalidArgument _ number details => numberedError number details
  | .permissionDenied _ number details => numberedError number details
  | .resourceExhausted _ number details => numberedError number details
  | .noSuchThing _ number details => numberedError number details
  | .resourceBusy number details => numberedError number details
  | .resourceVanished number details => numberedError number details
  | .hardwareFault number details => numberedError number details
  | .otherError number details => numberedError number details
  | other => .other (toString other)

/-- The text of a path, or the error that there is no such file. -/
def pathText (path : List UInt8) : Except IoError String :=
  if path.contains 0 then .error .nulInPath
  else
    match Utf8.decode? path with
    | some text => .ok (String.ofList text)
    | none => .error .notFound

def bytesOfArray (bytes : ByteArray) : List UInt8 := bytes.data.toList

def arrayOfBytes (bytes : List UInt8) : ByteArray := ⟨bytes.toArray⟩

/-- Run an action, keeping the error that it may raise. -/
def attempt {α : Type} (action : IO α) : IO (Except IoError α) := do
  try return .ok (← action)
  catch error => return .error (ioErrorOf error)

/-- Read a file. -/
def readFileBytes (path : List UInt8) : IO (Except IoError (List UInt8)) := do
  match pathText path with
  | .error error => return .error error
  | .ok path => attempt do return bytesOfArray (← IO.FS.readBinFile path)

/-- Read a stream up to its end, after what has been read of it. -/
partial def readStream (stream : IO.FS.Stream) (read : ByteArray) : IO ByteArray := do
  let piece ← stream.read 65536
  if piece.isEmpty then return read
  readStream stream (read ++ piece)

/-- Write a file, in place of the one that is there if there is one. -/
def writeFileBytes (path bytes : List UInt8) : IO (Except Conversion.WriteFailure Unit) := do
  match pathText path with
  | .error error => return .error (.create error)
  | .ok path =>
    match ← attempt (IO.FS.Handle.mk path .write) with
    | .error error => return .error (.create error)
    | .ok file =>
      match ← attempt (do file.write (arrayOfBytes bytes); file.flush) with
      | .error error => return .error (.write error)
      | .ok () => return .ok ()

/-- The files and streams of the system. -/
def systemSurroundings : Conversion.Surroundings IO where
  readFile := readFileBytes
  readInput := attempt do return bytesOfArray (← readStream (← IO.getStdin) .empty)
  writeFile := writeFileBytes
  writeOutput bytes := attempt do
    let output ← IO.getStdout
    output.write (arrayOfBytes bytes)
    output.flush

def main (arguments : List String) : IO UInt32 := do
  let exit ← CommandLine.run systemSurroundings arguments
  (← IO.getStderr).putStr exit.complaint
  return exit.status.toUInt32
