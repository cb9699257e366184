/-
Reading addresses, alone or relative to another one. Control characters and
spaces at both ends and tabs and line ends anywhere do not count. The reader
goes from part to part, each part's reader returning what it leaves.
-/
import GuidedLogin.Url.Basic
import GuidedLogin.Url.Domain
import GuidedLogin.Url.Percent
import GuidedLogin.Text.Blank
import GuidedLogin.Text.Split

namespace GuidedLogin.Url

open Text

def significant (text : String) : List Char :=
  (stripWhile (fun c => c.toNat ≤ 0x20) text.toList).filter
    (fun c => c ≠ '\t' && c ≠ '\n' && c ≠ '\r')

def isLetter (c : Char) : Bool := ('a' ≤ c && c ≤ 'z') || ('A' ≤ c && c ≤ 'Z')

def isSchemeChar (c : Char) : Bool :=
  isLetter c || isDigit c || c = '+' || c = '-' || c = '.'

def splitScheme (chars : List Char) : Option (String × List Char) :=
  match splitFirst ':' chars with
  | some (first :: name, rest) =>
      if isLetter first && name.all isSchemeChar then
        some (String.ofList ((first :: name).map Char.toLower), rest)
      else none
  | _ => none

def isSlash (c : Char) : Bool := c = '/' || c = '\\'

def endsAuthority (kind : SchemeKind) (c : Char) : Bool :=
  c = '/' || c = '?' || c = '#' || (kind ≠ .other && c = '\\')

/-- Reads a user in front of the last at sign of an authority. The password is
missing when nothing is behind the colon. -/
def readUser (kind : SchemeKind) (chars : List Char) :
    Except Fault (Option (String × Option String) × List Char) :=
  let authority := chars.takeWhile (fun c => !endsAuthority kind c)
  match splitLast '@' authority with
  | none => .ok (none, chars)
  | some (user, host) =>
      let rest := chars.drop (user.length + 1)
      let encode (part : List Char) : String :=
        String.ofList (percentEncode EncodeSet.userinfo part)
      if user.isEmpty then
        if host.isEmpty && !rest.isEmpty then .error .emptyHost
        else .ok (some ("", none), rest)
      else
        match splitFirst ':' user with
        | none => .ok (some (encode user, none), rest)
        | some (name, password) =>
            .ok (some (encode name, if password.isEmpty then none else some (encode password)),
              rest)

def readDomain (chars : List Char) : Except Fault Host :=
  match chars with
  | '[' :: rest =>
      if rest.getLast? = some ']' then
        match eightPieceAddress? rest.dropLast with
        | some pieces => .ok (.eightPieces pieces)
        | none => .error .invalidEightPieceAddress
      else .error .invalidEightPieceAddress
  | _ =>
      match Domain.toAscii? (percentDecode (Utf8.encode chars)) with
      | none => .error .invalidDomain
      | some [] => .error .emptyHost
      | some domain =>
          if endsInNumber domain then
            match fourByteAddress? domain with
            | some address => .ok (.fourBytes address)
            | none => .error .invalidFourByteAddress
          else .ok (.domain (String.ofList domain))

def isInvalidHostChar (c : Char) : Bool :=
  c.toNat = 0 ||
    [' ', '#', '/', ':', '<', '>', '?', '@', '[', '\\', ']', '^', '|', '\t', '\n', '\r'].contains c

def readPlainHost (chars : List Char) : Except Fault Host :=
  match chars with
  | '[' :: _ => readDomain chars
  | _ =>
      if chars.any isInvalidHostChar then .error .invalidHostCharacter
      else .ok (.domain (String.ofList (percentEncode EncodeSet.controls chars)))

/-- Length of the host in front of a port or a path; a colon between brackets
belongs to the host. -/
def hostLength (kind : SchemeKind) (bracketed : Bool) : List Char → Nat
  | [] => 0
  | c :: rest =>
      if (c = ':' && !bracketed) || endsAuthority kind c then 0
      else if c = '[' then hostLength kind true rest + 1
      else if c = ']' then hostLength kind false rest + 1
      else hostLength kind bracketed rest + 1

/-- Reads the digits of a port; none of them stand for the port of the scheme. -/
def readPort (scheme : String) (chars : List Char) : Except Fault (Option Nat × List Char) :=
  let digits := chars.takeWhile isDigit
  let rest := chars.drop digits.length
  let port := decimalValue digits
  if 65535 < port then .error .invalidPort
  else
    match rest with
    | c :: _ =>
        if c = '/' || c = '\\' || c = '?' || c = '#' then
          .ok (if digits.isEmpty || defaultPort scheme = some port then none else some port, rest)
        else .error .invalidPort
    | [] => .ok (if digits.isEmpty || defaultPort scheme = some port then none else some port, [])

def readHost (scheme : String) (chars : List Char) :
    Except Fault ((Option Host × Option Nat) × List Char) := do
  let kind := schemeKind scheme
  let name := chars.take (hostLength kind false chars)
  let rest := chars.drop name.length
  if name.isEmpty then
    if kind = .special || rest.head? = some ':' then .error .emptyHost
    else .ok ((none, none), rest)
  else
    let host ← if kind = .special then readDomain name else readPlainHost name
    match rest with
    | ':' :: digits => do
        let (port, rest) ← readPort scheme digits
        .ok ((some host, port), rest)
    | _ => .ok ((some host, none), rest)

/-- The spellings of the segment for the directory above, in lower case. -/
def isParentSegment (segment : List Char) : Bool :=
  ["..", "%2e%2e", "%2e.", ".%2e"].contains (String.ofList (segment.map Char.toLower))

def isCurrentSegment (segment : List Char) : Bool :=
  [".", "%2e"].contains (String.ofList (segment.map Char.toLower))

/-- A letter and a colon or bar name a drive. -/
def isDriveLetter (segment : List Char) : Bool :=
  match segment with
  | [letter, mark] => isLetter letter && (mark = ':' || mark = '|')
  | _ => false

def isNormalDriveLetter (segment : List Char) : Bool :=
  match segment with
  | [letter, ':'] => isLetter letter
  | _ => false

def startsWithDrive (chars : List Char) : Bool :=
  isDriveLetter (chars.take 2) &&
    match chars.drop 2 with
    | [] => true
    | c :: _ => c = '/' || c = '\\' || c = '?' || c = '#'

def parent (directory : List (List Char)) : List (List Char) :=
  match directory.getLast? with
  | some last => if startsWithDrive last then directory else directory.dropLast
  | none => []

structure Walk where
  directory : List (List Char)
  droppedHost : Bool

def Walk.enter (kind : SchemeKind) (walk : Walk) (segment : List Char) : Walk :=
  if isParentSegment segment then { walk with directory := parent walk.directory }
  else if isCurrentSegment segment then walk
  else if kind = .file && walk.directory.isEmpty && isDriveLetter segment then
    ⟨[segment.take 1 ++ [':']], true⟩
  else { walk with directory := walk.directory ++ [segment] }

/-- The last segment, and the walk before it, once a last segment is reached. -/
def Walk.finish (kind : SchemeKind) (walk : Walk) (segment : List Char) :
    Walk × List Char :=
  if isParentSegment segment then ({ walk with directory := parent walk.directory }, [])
  else if isCurrentSegment segment then (walk, [])
  else if kind = .file && walk.directory.isEmpty && isDriveLetter segment then
    (⟨walk.directory, true⟩, segment.take 1 ++ [':'])
  else (walk, segment)

def isPathSlash (kind : SchemeKind) (c : Char) : Bool :=
  c = '/' || (kind ≠ .other && c = '\\')

def pathSegments (kind : SchemeKind) (chars : List Char) : List (List Char) :=
  splitAll '/' (chars.map fun c => if isPathSlash kind c then '/' else c)

def walkPath (kind : SchemeKind) : Walk → List (List Char) → Walk × List Char
  | walk, [] => (walk, [])
  | walk, [last] => walk.finish kind (percentEncode EncodeSet.path last)
  | walk, segment :: next :: rest =>
      walkPath kind (walk.enter kind (percentEncode EncodeSet.path segment)) (next :: rest)

/-- The text of a rooted path. A file has no empty segments at the front. -/
def renderPath (kind : SchemeKind) (directory : List (List Char)) (last : List Char) : List Char :=
  let directory := if kind = .file then directory.dropWhile List.isEmpty else directory
  '/' :: (directory.flatMap (· ++ ['/'])) ++ last

/-- Reads a path from a directory on: the path, and whether a drive took the
place of the host. -/
def readPath (kind : SchemeKind) (directory : List (List Char)) (chars : List Char) :
    List Char × Bool :=
  let walked := walkPath kind ⟨directory, false⟩ (pathSegments kind chars)
  (renderPath kind walked.1.directory walked.2, walked.1.droppedHost)

def isPathEnd (c : Char) : Bool := c = '?' || c = '#'

def splitPath (chars : List Char) : List Char × List Char :=
  let path := chars.takeWhile (fun c => !isPathEnd c)
  (path, chars.drop path.length)

def readTail (kind : SchemeKind) (chars : List Char) : Option String × Option String :=
  let fragmentOf (chars : List Char) : String :=
    String.ofList (percentEncode EncodeSet.fragment chars)
  let queryOf (chars : List Char) : String :=
    String.ofList (percentEncode
      (if kind = .other then EncodeSet.query else EncodeSet.specialQuery) chars)
  match chars with
  | '?' :: rest =>
      match splitFirst '#' rest with
      | some (query, fragment) => (some (queryOf query), some (fragmentOf fragment))
      | none => (some (queryOf rest), none)
  | '#' :: rest => (none, some (fragmentOf rest))
  | _ => (none, none)

def readBehindAuthority (scheme : String) (authority : Authority) (chars : List Char) : Url :=
  let kind := schemeKind scheme
  let (path, rest) := splitPath chars
  let text : List Char :=
    match path with
    | [] => if kind = .other then [] else ['/']
    | c :: segments =>
        (readPath kind [] (if isPathSlash kind c then segments else c :: segments)).1
  let (query, fragment) := readTail kind rest
  ⟨scheme, some authority, String.ofList text, query, fragment⟩

def readAuthority (scheme : String) (chars : List Char) : Except Fault Url := do
  let (user, rest) ← readUser (schemeKind scheme) chars
  let ((host, port), rest) ← readHost scheme rest
  let (name, password) := user.getD ("", none)
  if host.isNone && (name ≠ "" || password.isSome) then .error .emptyHost
  else .ok (readBehindAuthority scheme ⟨name, password, host, port⟩ rest)

def readOther (scheme : String) (chars : List Char) : Except Fault Url :=
  match chars with
  | '/' :: '/' :: rest => readAuthority scheme rest
  | '/' :: rest =>
      let (path, rest) := splitPath rest
      let (query, fragment) := readTail .other rest
      .ok ⟨scheme, none, String.ofList (readPath .other [] path).1, query, fragment⟩
  | _ =>
      let (path, rest) := splitPath chars
      let (query, fragment) := readTail .other rest
      .ok ⟨scheme, none, String.ofList (percentEncode EncodeSet.controls path), query, fragment⟩

/-- Directory from which a relative path starts; the drive of a file is kept even
without a slash behind it. -/
def relativeDirectory (kind : SchemeKind) (path : String) : List (List Char) :=
  let segments := splitAll '/' (path.toList.drop 1)
  match segments.getLast? with
  | some last =>
      if kind = .file && isNormalDriveLetter last then segments else segments.dropLast
  | none => []

def withFragment (base : Url) (fragment : List Char) : Url :=
  { base with fragment := some (String.ofList (percentEncode EncodeSet.fragment fragment)) }

def withTail (base : Url) (chars : List Char) : Url :=
  let (query, fragment) := readTail (schemeKind base.scheme) chars
  { base with query := query, fragment := fragment }

def withPath (base : Url) (directory : List (List Char)) (chars : List Char) : Url :=
  let kind := schemeKind base.scheme
  let (path, rest) := splitPath chars
  withTail { base with path := String.ofList (readPath kind directory path).1 } rest

/-- Resolves what has no scheme against a base other than a file. -/
def readRelative (base : Url) (chars : List Char) : Except Fault Url :=
  match chars with
  | [] => .ok { base with fragment := none }
  | '?' :: _ => .ok (withTail base chars)
  | '#' :: rest => .ok (withFragment base rest)
  | c :: rest =>
      if isSlash c then
        let slashes := chars.takeWhile isSlash
        if 2 ≤ slashes.length then
          match chars with
          | '/' :: '/' :: rest => readAuthority base.scheme rest
          | _ => readAuthority base.scheme (chars.drop slashes.length)
        else .ok (withPath base [] rest)
      else .ok (withPath base (relativeDirectory (schemeKind base.scheme) base.path) chars)

def dropSlash : List Char → List Char
  | c :: rest => if isSlash c then rest else c :: rest
  | [] => []

/-- The authority of a file has a host at most. -/
def fileAuthority (host : Option Host) : Authority := ⟨"", none, host, none⟩

/-- A file from its host and the characters of its path, query and fragment, and
whether a drive begins the path. -/
def readFilePath (host : Option Host) (directory : List (List Char)) (chars : List Char) :
    Url × Bool :=
  let (path, rest) := splitPath chars
  let (text, droppedHost) := readPath .file directory path
  let (query, fragment) := readTail .file rest
  (⟨"file", some (fileAuthority host), String.ofList text, query, fragment⟩, droppedHost)

/-- A file from its own host; a drive takes the place of the host. -/
def readHostedFile (host : Option Host) (chars : List Char) : Url :=
  let (file, droppedHost) := readFilePath host [] (dropSlash chars)
  if droppedHost then { file with authority := some (fileAuthority none) } else file

def readFileHost (chars : List Char) : Except Fault (Option Host × List Char) :=
  let name := chars.takeWhile (fun c => !endsAuthority .file c)
  if name.isEmpty || isDriveLetter name then .ok (none, chars)
  else do
    let host ← readDomain name
    let rest := chars.drop name.length
    .ok (if host = .domain "localhost" then none else some host, rest)

def readFile (base : Option Url) (chars : List Char) : Except Fault Url :=
  match chars with
  | first :: second :: rest =>
      if isSlash first && isSlash second then do
        let (host, rest) ← readFileHost rest
        .ok (readHostedFile host rest)
      else readShort
  | _ => readShort
where
  readShort : Except Fault Url :=
    match base with
    | none => .ok (readFilePath none [] (dropSlash chars)).1
    | some base =>
        match chars with
        | [] => .ok { base with fragment := none }
        | '?' :: _ => .ok (withTail base chars)
        | '#' :: rest => .ok (withFragment base rest)
        | c :: rest =>
            if isSlash c then
              let drive := (splitAll '/' (base.path.toList.drop 1)).head?
              match drive with
              | some drive =>
                  if startsWithDrive rest then .ok (readFilePath none [] rest).1
                  else if isNormalDriveLetter drive then .ok (readFilePath none [drive] rest).1
                  else .ok (readFilePath base.host? [] rest).1
              | none => .ok (readFilePath base.host? [] rest).1
            else if startsWithDrive chars then .ok (readFilePath none [] chars).1
            else .ok (readFilePath base.host? (relativeDirectory .file base.path) chars).1

def readBehindScheme (base : Option Url) (scheme : String) (chars : List Char) :
    Except Fault Url :=
  match schemeKind scheme with
  | .file => readFile (base.filter (fun base => base.scheme = "file")) chars
  | .special =>
      let slashes := chars.takeWhile isSlash
      match base with
      | some base =>
          if slashes.length < 2 && base.scheme = scheme then readRelative base chars
          else readAuthority scheme (chars.drop slashes.length)
      | none => readAuthority scheme (chars.drop slashes.length)
  | .other => readOther scheme chars

def read (base : Option Url) (text : String) : Except Fault Url :=
  let chars := significant text
  match splitScheme chars with
  | some (scheme, rest) => readBehindScheme base scheme rest
  | none =>
      match base with
      | none => .error .relativeWithoutBase
      | some base =>
          match chars with
          | '#' :: rest => .ok (withFragment base rest)
          | _ =>
              if base.isUnrooted then .error .relativeToUnrooted
              else if base.scheme = "file" then readFile (some base) chars
              else readRelative base chars

def parse (text : String) : Except Fault Url := read none text

def join (base : Url) (link : String) : Except Fault Url := read (some base) link

end GuidedLogin.Url
