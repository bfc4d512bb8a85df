import KnowledgeClient.Http.Host

/-!
# URLs

A URL is read by the rules for addresses that people type: blanks around it and
line ends inside are dropped, letters of the scheme and the host are made small,
dot segments are resolved, and what may not stand in a part is escaped.  Some
schemes are special: they take a backslash for a slash, and but for that of files
they always have a host and do not mind how many slashes stand before it.  A
segment that names a drive, such as `C:`, is never taken away by dots after it.
-/

namespace KnowledgeClient
namespace Http

/-- The path of a URL: segments, or a text that is not cut into segments. -/
inductive UrlPath
  | segments (list : List (List Char))
  | plain (text : List Char)
deriving DecidableEq, Repr

/-- A URL in its parts, each as it is written.  A user without a name or without a password has an
empty one. -/
structure Url where
  scheme : List Char
  user : List Char
  password : List Char
  host : Option (List Char)
  port : Option Nat
  path : UrlPath
  query : Option (List Char)
  fragment : Option (List Char)
deriving DecidableEq, Repr

namespace Url

/-- The special schemes and their usual ports. -/
def specialSchemes : List (String × Option Nat) :=
  [("http", some 80), ("https", some 443), ("ws", some 80), ("wss", some 443),
    ("ftp", some 21), ("file", none)]

/-- The scheme is special. -/
def isSpecial (scheme : List Char) : Bool :=
  (specialSchemes.lookup (String.ofList scheme)).isSome

/-- The port that a scheme uses unless another is given. -/
def usualPort? (scheme : List Char) : Option Nat :=
  (specialSchemes.lookup (String.ofList scheme)).join

/-- A control character or a space. -/
def isControlOrSpace (c : Char) : Bool :=
  c.toNat ≤ 0x20

/-- A character that ends a host or a segment. -/
def isSlash (special : Bool) (c : Char) : Bool :=
  c == '/' || (special && c == '\\')

/-- A character that ends a path. -/
def isPathEnd (c : Char) : Bool :=
  c == '?' || c == '#'

/-- The characters that are read: without controls and spaces around them, and without tabs
and line ends. -/
def cleaned (text : List Char) : List Char :=
  let start := text.dropWhile isControlOrSpace
  let trimmed := (start.reverse.dropWhile isControlOrSpace).reverse
  trimmed.filter fun c => c != '\t' && c != '\n' && c != '\r'

/-- A character that may stand in a scheme after its first letter. -/
def isSchemeChar (c : Char) : Bool :=
  c.isAlphanum || c == '+' || c == '-' || c == '.'

/-- The scheme in small letters, and what follows its colon. -/
def readScheme (text : List Char) : Except UrlFault (List Char × List Char) :=
  match text.takeWhile isSchemeChar, text.dropWhile isSchemeChar with
  | first :: letters, ':' :: rest =>
    if first.isAlpha then .ok ((first :: letters).map Char.toLower, rest) else .error .noScheme
  | _, _ => .error .noScheme

/-- The scheme is that of files. -/
def isFile (scheme : List Char) : Bool :=
  scheme == "file".toList

/-- The part before the last at sign, which tells the user, and the part after it. -/
def cutUser (authority : List Char) : Option (List Char) × List Char :=
  let host := (authority.reverse.takeWhile (· != '@')).reverse
  if authority.contains '@' then (some (authority.take (authority.length - host.length - 1)), host)
  else (none, host)

/-- The name and the password of a user, with a colon between them. -/
def readUser (text : List Char) : List Char × List Char :=
  (escape escapedInUser (text.takeWhile (· != ':')),
    escape escapedInUser ((text.dropWhile (· != ':')).drop 1))

/-- The host's text and what stands after it: a colon and a port, if anything.  Colons inside
brackets belong to the host. -/
def cutPort : Bool → List Char → List Char × List Char
  | _, [] => ([], [])
  | bracketed, c :: rest =>
    if c == ':' && !bracketed then ([], c :: rest)
    else
      let (host, port) :=
        cutPort (if c == '[' then true else if c == ']' then false else bracketed) rest
      (c :: host, port)

/-- The greatest port. -/
def greatestPort : Nat := 65535

/-- The port that is given, unless it is the usual one. -/
def readPort (scheme : List Char) (text : List Char) : Except UrlFault (Option Nat) :=
  match text.drop 1 with
  | [] => .ok none
  | digits =>
    match Text.numberIn? 10 digits with
    | some port =>
      if greatestPort < port then .error .badPort
      else if usualPort? scheme == some port then .ok none
      else .ok (some port)
    | none => .error .badPort

/-- A segment with its escaped dots written plainly. -/
def plainDots : List Char → List Char
  | '%' :: '2' :: 'e' :: rest => '.' :: plainDots rest
  | '%' :: '2' :: 'E' :: rest => '.' :: plainDots rest
  | c :: rest => c :: plainDots rest
  | [] => []

/-- A segment that names a drive: a letter and a colon or a bar. -/
def isDrive (segment : List Char) : Bool :=
  match segment with
  | [letter, mark] => letter.isAlpha && (mark == ':' || mark == '|')
  | _ => false

/-- A segment that dots do not take away: a drive, or a drive and more after a backslash. -/
def stays (segment : List Char) : Bool :=
  isDrive (segment.take 2) && (segment.drop 2).head?.all (· == '\\')

/-- A path, kept in reverse, without its last segment, unless that one stays. -/
def withoutLast : List (List Char) → List (List Char)
  | [] => []
  | segment :: before => if stays segment then segment :: before else before

/-- A drive at the start of the path of a file, with a colon. -/
def driveOf (segment : List Char) : List Char :=
  segment.take 1 ++ [':']

/-- Puts a segment at the end of a path, kept in reverse: one dot stands for nothing, two take
the segment before away.  The last segment leaves an empty one where it stands for nothing. -/
def pushSegment (file last : Bool) (segment : List Char) (reversed : List (List Char)) :
    List (List Char) :=
  let dots := plainDots segment
  if dots == ['.'] then (if last then [] :: reversed else reversed)
  else if dots == ['.', '.'] then
    if last then [] :: withoutLast reversed else withoutLast reversed
  else
    (if file && reversed.isEmpty && isDrive segment then driveOf segment else segment) :: reversed

/-- The segments of a path put at the end of the ones before them, which are kept in reverse. -/
def resolveSegments (file : Bool) :
    List (List Char) → List (List Char) → List (List Char)
  | reversed, [] => reversed.reverse
  | reversed, [segment] => (pushSegment file true segment reversed).reverse
  | reversed, segment :: rest =>
    resolveSegments file (pushSegment file false segment reversed) rest

/-- The pieces between the slashes, escaped as they stand in a path. -/
def cutAtSlash (special : Bool) (text : List Char) : List (List Char) :=
  (Text.cutAt '/' (text.map fun c => if isSlash special c then '/' else c)).map
    (escape escapedInPath)

/-- The segments of a path, after the slash it begins with. -/
def readSegments (special : Bool) (text : List Char) : UrlPath :=
  .segments (resolveSegments false [] (cutAtSlash special text))

/-- The path after a host: a special scheme has one even if none is given, and a slash that is
missing at its start is added. -/
def readPathAfterHost (special : Bool) (text : List Char) : UrlPath :=
  match text with
  | [] => if special then .segments [[]] else .segments []
  | c :: rest => readSegments special (if isSlash special c then rest else c :: rest)

/-- The query and the fragment. -/
def readEnd (special : Bool) (text : List Char) : Option (List Char) × Option (List Char) :=
  let beforeFragment := text.takeWhile (· != '#')
  let fragment :=
    match text.dropWhile (· != '#') with
    | [] => none
    | _ :: fragment => some (escape escapedInFragment fragment)
  match beforeFragment with
  | [] => (none, fragment)
  | _ :: query => (some (escape (escapedInQuery special) query), fragment)

/-- An authority that tells a user must have a host, unless the user has neither a name nor a
password and something else follows. -/
def lacksHost (user : Option (List Char)) (host : List Char) (rest : List Char) : Bool :=
  host.isEmpty &&
    match user with
    | none => false
    | some user => readUser user != ([], []) || (user.isEmpty && !rest.isEmpty)

/-- The URL with an authority, whose text follows the slashes before it.  A port ends at a backslash
whatever the scheme. -/
def readWithHost (scheme text : List Char) : Except UrlFault Url := do
  let special := isSpecial scheme
  let isEnd (c : Char) : Bool := isSlash special c || isPathEnd c
  let (user, authority) := cutUser (text.takeWhile (!isEnd ·))
  let rest := text.dropWhile (!isEnd ·)
  let (hostText, portText) := cutPort false authority
  let host ← if special then Host.ofSpecial hostText else Host.ofOther hostText
  if host.isEmpty && !portText.isEmpty then .error .emptyHost
  else if lacksHost user authority rest then .error .emptyHost
  else
    let port ← readPort scheme (portText.takeWhile (· != '\\'))
    let rest := portText.dropWhile (· != '\\') ++ rest
    let (name, password) := readUser (user.getD [])
    let (query, fragment) := readEnd special (rest.dropWhile (!isPathEnd ·))
    .ok
      { scheme
        user := name
        password
        host := some host
        port
        path := readPathAfterHost special (rest.takeWhile (!isPathEnd ·))
        query
        fragment }

/-- The URL without a user and a port, whose path is read already and whose end is still to be
read. -/
def bare (scheme : List Char) (host : Option (List Char)) (path : UrlPath) (text : List Char) :
    Url :=
  let (query, fragment) := readEnd (isSpecial scheme) text
  { scheme, user := [], password := [], host, port := none, path, query, fragment }

/-- The URL without an authority. -/
def readWithoutHost (scheme text : List Char) : Url :=
  let path :=
    match text.takeWhile (!isPathEnd ·) with
    | '/' :: rest => readSegments false rest
    | text => .plain (escape isControlOrForeign text)
  bare scheme none path (text.dropWhile (!isPathEnd ·))

/-! ## Files -/

/-- The segments of the path of a file, after the slash it begins with. -/
def fileSegments (text : List Char) : List (List Char) :=
  resolveSegments true [] (cutAtSlash true text)

/-- Segments without the empty ones at their start, but for the last. -/
def withoutEmpty (segments : List (List Char)) : List (List Char) :=
  match segments.dropWhile (·.isEmpty) with
  | [] => [[]]
  | segments => segments

/-- The path of a file, after the slash it begins with. -/
def readFilePath (text : List Char) : UrlPath :=
  .segments (withoutEmpty (fileSegments text))

/-- The host that a file is on: none stands for the one at hand, and so does its usual name. -/
def readFileHost (text : List Char) : Except UrlFault (List Char) := do
  if text.isEmpty then .ok []
  else
    let host ← Host.ofSpecial text
    .ok (if host == "localhost".toList then [] else host)

/-- The URL of a file, whose text follows the two slashes before its host.  A drive is no host,
and a file on a drive is on no other host. -/
def readOnHost (scheme text : List Char) : Except UrlFault Url := do
  let isEnd (c : Char) : Bool := isSlash true c || isPathEnd c
  let hostText := text.takeWhile (!isEnd ·)
  let path := text.takeWhile (!isPathEnd ·)
  let rest := text.dropWhile (!isPathEnd ·)
  if isDrive hostText then .ok (bare scheme (some []) (readFilePath path) rest)
  else
    let host ← readFileHost hostText
    let path := path.drop hostText.length
    if host.isEmpty then .ok (bare scheme (some []) (readFilePath path) rest)
    else
      let path := path.drop 1
      let host := if (fileSegments path).head?.any isDrive then [] else host
      .ok (bare scheme (some host) (readFilePath path) rest)

/-- The URL of a file. -/
def readFile (scheme text : List Char) : Except UrlFault Url :=
  match text with
  | first :: rest =>
    if isSlash true first then
      match rest with
      | second :: host =>
        if isSlash true second then readOnHost scheme host else .ok (onPath rest)
      | [] => .ok (onPath rest)
    else .ok (onPath text)
  | [] => .ok (onPath text)
where
  /-- The URL of the file at a path. -/
  onPath (text : List Char) : Url :=
    bare scheme (some []) (readFilePath (text.takeWhile (!isPathEnd ·)))
      (text.dropWhile (!isPathEnd ·))

/-! ## All schemes -/

/-- Reads a URL. -/
def read (text : String) : Except UrlFault Url := do
  let (scheme, rest) ← readScheme (cleaned text.toList)
  if isFile scheme then readFile scheme rest
  else if isSpecial scheme then readWithHost scheme (rest.dropWhile (isSlash true))
  else
    match rest with
    | '/' :: '/' :: rest => readWithHost scheme rest
    | rest => .ok (readWithoutHost scheme rest)

/-- A text of a user that reads as UTF-8 once its escapes are resolved. -/
def isReadable (text : List Char) : Bool :=
  (Text.decode? (unescape (Text.encode (String.ofList text)))).isSome

/-- The URL without its user, who is named to the service in another way.  A user whose name does
not read as text stays, and so does one without a name whose password does not. -/
def withoutUser (url : Url) : Url :=
  if isReadable url.user && (!url.user.isEmpty || isReadable url.password) then
    { url with user := [], password := [] }
  else url

/-- The user as it stands before a host. -/
def userChars (url : Url) : List Char :=
  if url.user.isEmpty && url.password.isEmpty then []
  else if url.password.isEmpty then url.user ++ ['@']
  else url.user ++ ':' :: url.password ++ ['@']

/-- The text of a path.  One that would look like a host is kept apart from the colon. -/
def pathChars (hasHost : Bool) : UrlPath → List Char
  | .plain text => text
  | .segments list =>
    let written := list.flatMap ('/' :: ·)
    if !hasHost && 1 < list.length && list.head? == some [] then '/' :: '.' :: written else written

/-- The text of a URL up to its query. -/
def requestChars (url : Url) : List Char :=
  url.scheme ++ [':'] ++
    (match url.host with
      | some host => ['/', '/'] ++ url.userChars ++ host
      | none => []) ++
    (match url.port with
      | some port => ':' :: Decimal.digitChars port
      | none => []) ++
    pathChars url.host.isSome url.path ++
    match url.query with
    | some query => '?' :: query
    | none => []

/-- The text of a URL as a request names it: without its fragment. -/
def requestText (url : Url) : String :=
  String.ofList url.requestChars

/-- The text of a URL. -/
def text (url : Url) : String :=
  String.ofList <|
    url.requestChars ++
      match url.fragment with
      | some fragment => '#' :: fragment
      | none => []

/-- The greatest number of characters of an address. -/
def greatestAddress : Nat := 65534

/-- A character of a host that no address holds, though a URL may. -/
def isOutsideAddress (c : Char) : Bool :=
  c == '"' || c.toNat == 0x60 || c == '\x7b' || c == '\x7d'

/-- The URL is an address that a request can be sent to. -/
def isAddress (url : Url) : Bool :=
  !(url.host.getD []).any isOutsideAddress && url.text.length ≤ greatestAddress

/-- The scheme is one that requests are sent by. -/
def isWeb (url : Url) : Bool :=
  url.scheme == "http".toList || url.scheme == "https".toList

end Url

end Http
end KnowledgeClient
