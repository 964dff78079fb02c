import TopicPress.Url.Domain
import TopicPress.Url.Ipv6

/-!
# Absolute addresses

Which texts are absolute addresses, and what of an address is looked at: its scheme, and the host
and the path of a file.  Reading follows the rules of web browsers: blanks at the ends and tabs and
line ends anywhere are dropped, the usual web schemes need a host, and a backslash counts as a slash
in them.
-/

namespace TopicPress

/-- The host of a file address. -/
inductive Url.Host where
  | domain (name : String)
  | address
  deriving DecidableEq

/-- An absolute address.  The segments of a file's path are kept as they were written, percent
escapes included. -/
inductive Url where
  | file (host : Option Url.Host) (segments : List String)
  | other (scheme : String)
  deriving DecidableEq

namespace Url

/-! ## Characters -/

def isControlOrSpace (c : Char) : Bool := c.toNat ≤ 0x20

def isTabOrLineEnd (c : Char) : Bool := c == '\t' || c == '\n' || c == '\r'

/-- Drop controls and blanks at both ends, then tabs and line ends everywhere. -/
def clean (text : List Char) : List Char :=
  let trimmed := ((text.dropWhile isControlOrSpace).reverse.dropWhile isControlOrSpace).reverse
  trimmed.filter (fun c => !isTabOrLineEnd c)

def isSchemeCharacter (c : Char) : Bool :=
  c.isAlphanum || c == '+' || c == '-' || c == '.'

/-- The scheme in lower case, and what follows its colon. -/
def splitScheme? (text : List Char) : Option (List Char × List Char) :=
  match text with
  | [] => none
  | first :: _ =>
    if !first.isAlpha then none
    else
      match text.dropWhile isSchemeCharacter with
      | ':' :: rest => some ((text.takeWhile isSchemeCharacter).map Char.toLower, rest)
      | _ => none

/-- The web schemes, whose addresses need a host. -/
def isWebScheme (scheme : List Char) : Bool :=
  ["http", "https", "ws", "wss", "ftp"].contains (String.ofList scheme)

def isSlash (c : Char) : Bool := c == '/' || c == '\\'

/-! ## Hosts -/

/-- The text within brackets, when the host has an opening one. -/
def bracketed? (host : List Char) : Option (Option (List Char)) :=
  match host with
  | '[' :: rest =>
    match rest.reverse with
    | ']' :: inner => some (some inner.reverse)
    | _ => some none
  | _ => none

/-- A host of a web or file address. -/
def webHost? (host : List Char) : Option Host :=
  match bracketed? host with
  | some (some inner) => if Ipv6.isAddress inner then some .address else none
  | some none => none
  | none =>
    match Domain.ofBytes? (Utf8.bytesOf (String.ofList host)) with
    | none => none
    | some [] => none
    | some name =>
      if Ipv4.endsInNumber name then
        if Ipv4.isAddress name then some .address else none
      else some (.domain (String.ofList name))

/-- Characters that no host of another scheme may hold. -/
def isForbiddenOpaque (c : Char) : Bool :=
  "\x00\t\n\r #/:<>?@[\\]^|".toList.contains c

/-- A host of any other scheme is taken as it stands. -/
def isOpaqueHost (host : List Char) : Bool :=
  match bracketed? host with
  | some (some inner) => Ipv6.isAddress inner
  | some none => false
  | none => !host.any isForbiddenOpaque

/-- Split a host from what follows its first colon outside brackets. -/
def splitPort (inBrackets : Bool) : List Char → List Char × List Char
  | [] => ([], [])
  | c :: rest =>
    if c == ':' && !inBrackets then ([], c :: rest)
    else
      let inBrackets := if c == '[' then true else if c == ']' then false else inBrackets
      let (host, port) := splitPort inBrackets rest
      (c :: host, port)

/-- A port is a decimal number below 65536, or absent. -/
def isPort (text : List Char) : Bool :=
  match text with
  | ':' :: rest =>
    let digits := rest.takeWhile Char.isDigit
    let after := rest.drop digits.length
    (match after with
      | [] => true
      | c :: _ => c == '\\') &&
      match Ipv4.digits? 10 0 digits with
      | some value => value ≤ 65535
      | none => false
  | _ => true

/-- What stands before the last `@` of an authority, if it has one, and what stands after it. -/
def splitCredentials (authority : List Char) : Option (List Char) × List Char :=
  let host := (authority.reverse.takeWhile (· != '@')).reverse
  if host.length = authority.length then (none, host)
  else (some (authority.take (authority.length - host.length - 1)), host)

/-- Whether what follows the slashes of an address holds a proper authority. -/
def hasAuthority (web : Bool) (rest : List Char) : Bool :=
  let ends := fun c => c == '/' || c == '?' || c == '#' || (web && c == '\\')
  let authority := rest.takeWhile (fun c => !ends c)
  let more := rest.drop authority.length
  let (credentials, hostAndPort) := splitCredentials authority
  let (host, port) := splitPort false hostAndPort
  let named := match credentials with
    | none => false
    | some text => text != [] && text != [':']
  if credentials == some [] && hostAndPort.isEmpty && !more.isEmpty then false
  else if host.isEmpty then !web && port.isEmpty && !named
  else (if web then (webHost? host).isSome else isOpaqueHost host) && isPort port

/-! ## Paths of files -/

def isDriveLetter (segment : List Char) : Bool :=
  match segment with
  | [letter, mark] => letter.isAlpha && (mark == ':' || mark == '|')
  | _ => false

def isNormalDriveLetter (segment : List Char) : Bool :=
  match segment with
  | [letter, ':'] => letter.isAlpha
  | _ => false

/-- Decode the escaped dots of a segment, so that it can be compared with one or two dots. -/
def decodeDots : List Char → List Char
  | '%' :: '2' :: 'e' :: rest => '.' :: decodeDots rest
  | '%' :: '2' :: 'E' :: rest => '.' :: decodeDots rest
  | c :: rest => c :: decodeDots rest
  | [] => []

/-- Split at slashes of either kind. -/
def splitSlashes (text : List Char) : List (List Char) :=
  (text.map (fun c => if c == '\\' then '/' else c)).splitOn '/'

/-- A drive letter at the beginning of a path is a segment by itself. -/
def splitDrive (segments : List (List Char)) : List (List Char) :=
  match segments with
  | (letter :: ':' :: c :: more) :: rest =>
    if letter.isAlpha then [letter, ':'] :: (c :: more) :: rest else segments
  | _ => segments

/-- Append the segments one by one to `path`, which is kept with its last segment first. -/
def appendSegments (path : List (List Char)) : List (List Char) → List (List Char)
  | [] => path
  | segment :: rest =>
    let last := rest.isEmpty
    let dots := decodeDots segment
    if dots == ['.', '.'] then
      let shorter := match path with
        | [only] => if isNormalDriveLetter only then [only] else []
        | [] => []
        | _ :: more => more
      appendSegments (if last then [] :: shorter else shorter) rest
    else if dots == ['.'] then appendSegments (if last then [] :: path else path) rest
    else if path.isEmpty && isDriveLetter segment then
      appendSegments [segment.take 1 ++ [':']] rest
    else appendSegments (segment :: path) rest

/-- The path without empty segments at its beginning; it has at least one segment. -/
def dropEmptyFront (path : List (List Char)) : List (List Char) :=
  match path.dropWhile List.isEmpty with
  | [] => [[]]
  | segments => segments

/-- The segments of a file path that begins after its first slash. -/
def fileSegments (text : List Char) : List String :=
  let path := text.takeWhile (fun c => c != '?' && c != '#')
  let segments := (appendSegments [] (splitDrive (splitSlashes path))).reverse
  (dropEmptyFront segments).map String.ofList

/-- What follows the scheme of a file address. -/
def parseFile? (rest : List Char) : Option Url :=
  match rest with
  | first :: second :: more =>
    if isSlash first && isSlash second then
      let ends := fun c => isSlash c || c == '?' || c == '#'
      let host := more.takeWhile (fun c => !ends c)
      let after := more.drop host.length
      if isDriveLetter host then some (.file none (fileSegments more))
      else
        let path := match after with
          | c :: later => if isSlash c then later else after
          | [] => []
        let segments := fileSegments path
        let startsWithDrive := segments.head?.any (fun s => isNormalDriveLetter s.toList)
        if host.isEmpty then some (.file none segments)
        else
          match webHost? host with
          | none => none
          | some (.domain "localhost") => some (.file none segments)
          | some host => some (.file (if startsWithDrive then none else some host) segments)
    else if isSlash first then some (.file none (fileSegments (second :: more)))
    else some (.file none (fileSegments rest))
  | [first] => some (.file none (fileSegments (if isSlash first then [] else [first])))
  | [] => some (.file none (fileSegments []))

/-! ## Addresses -/

/-- Read an absolute address. -/
def parse? (text : String) : Option Url :=
  match splitScheme? (clean text.toList) with
  | none => none
  | some (scheme, rest) =>
    if scheme == "file".toList then parseFile? rest
    else if isWebScheme scheme then
      if hasAuthority true (rest.dropWhile isSlash) then some (.other (String.ofList scheme))
      else none
    else
      match rest with
      | '/' :: '/' :: authority =>
        if hasAuthority false authority then some (.other (String.ofList scheme)) else none
      | _ => some (.other (String.ofList scheme))

/-- The scheme, in lower case. -/
def scheme : Url → String
  | file _ _ => "file"
  | other scheme => scheme

/-- The bytes of the local path that a file address names. -/
def filePath? : Url → Option (List UInt8)
  | file none segments =>
    let bytes := segments.flatMap (fun segment =>
      0x2F :: Domain.percentDecode (Utf8.bytesOf segment))
    match bytes.reverse with
    | mark :: letter :: _ :: _ =>
      if (Char.ofNat letter.toNat).isAlpha && letter < 0x80 && (mark == 0x3A || mark == 0x7C) then
        some (bytes ++ [0x2F])
      else some bytes
    | _ => some bytes
  | _ => none

end Url

end TopicPress
