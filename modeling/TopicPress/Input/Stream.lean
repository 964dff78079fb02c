import TopicPress.Text.Utf8

/-!
# Streams

A stream is read in pieces, and after the last one it ends or fails.
-/

namespace TopicPress

/-- Why something could not be read or written. -/
inductive IoError where
  | notFound
  | notDirectory
  | isDirectory
  | nameTooLong
  /-- A path has a NUL. -/
  | nulInPath
  /-- Bytes that should be UTF-8 are not. -/
  | invalidData (message : String)
  | other (message : String)
  deriving DecidableEq

namespace IoError

/-- The error of a text that is not UTF-8. -/
def notUtf8 : IoError := invalidData "stream did not contain valid UTF-8"

def message : IoError → String
  | notFound => "No such file or directory (os error 2)"
  | notDirectory => "Not a directory (os error 20)"
  | isDirectory => "Is a directory (os error 21)"
  | nameTooLong => "File name too long (os error 36)"
  | nulInPath => "file name contained an unexpected NUL byte"
  | invalidData message => message
  | other message => message

/-- Does the error say that bytes mean nothing? -/
def isInvalidData : IoError → Bool
  | invalidData _ => true
  | _ => false

end IoError

/-- A stream: the pieces that it gives one after the other, and the error that comes after them, if
it does not just end. -/
structure Stream where
  pieces : List (List UInt8)
  failure : Option IoError := none

namespace Stream

/-- The stream that gives bytes in one piece. -/
def ofBytes (bytes : List UInt8) : Stream := { pieces := [bytes] }

/-- All bytes up to the end. -/
def readAll (stream : Stream) : Except IoError (List UInt8) :=
  match stream.failure with
  | some error => .error error
  | none => .ok stream.pieces.flatten

/-- All bytes as UTF-8.  That they are not is told only if the stream does not fail itself. -/
def readText (stream : Stream) : Except IoError (List Char) :=
  match stream.readAll with
  | .error error => .error error
  | .ok bytes =>
    match Utf8.decode? bytes with
    | some text => .ok text
    | none => .error .notUtf8

end Stream

end TopicPress
