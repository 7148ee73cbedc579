import ClusterInfra.Net.Address
/-!
Addresses of web resources.

A URL is read as browsers read it: blanks at its ends and line ends within it do not count, a
backslash is as good as a slash, characters that may not stand in a URL are percent-encoded, and the
segments `.` and `..` of a path are resolved. Only the schemes `http` and `https` are known.
-/

namespace ClusterInfra.Net

/-- The schemes of the web. -/
inductive Scheme
  | http
  | https
  deriving DecidableEq, Repr

namespace Scheme

/-- The name of a scheme. -/
def name : Scheme → String
  | .http => "http"
  | .https => "https"

/-- The port of a scheme that need not be written. -/
def port : Scheme → Nat
  | .http => 80
  | .https => 443

/-- The scheme of a name. -/
def ofName? (name : String) : Option Scheme := [http, https].find? (·.name = name)

end Scheme

/-- The address of a web resource. The parts are written as they are kept. -/
structure Url where
  scheme : Scheme
  /-- User, host and port. -/
  authority : String
  /-- The segments between the slashes of the path. -/
  path : List String
  query : Option String
  fragment : Option String
  deriving DecidableEq, Repr

namespace Url

/-! ### Writing -/

/-- Path and query: what a request asks a server for. -/
def target (url : Url) : String :=
  "/" ++ "/".intercalate url.path ++ url.query.elim "" ("?" ++ ·)

/-- The text of a URL. -/
def text (url : Url) : String :=
  url.scheme.name ++ "://" ++ url.authority ++ url.target ++ url.fragment.elim "" ("#" ++ ·)

/-! ### Percent-encoding -/

/-- A byte as a percent sign and two hexadecimal digits in upper case. -/
def encodeByte (byte : UInt8) : List Char :=
  '%' :: [byte.toNat / 16, byte.toNat % 16].map fun n => (Text.hexDigit n).toUpper

/-- Whether a character is a control character or not of ASCII; such a one is always encoded. -/
def isForeign (c : Char) : Bool := c.toNat < 32 || 126 < c.toNat

/-- Encodes the foreign characters and some more. -/
def encode (more : List Char) (cs : List Char) : List Char :=
  cs.flatMap fun c =>
    if isForeign c || more.contains c then c.toString.toUTF8.toList.flatMap encodeByte else [c]

/-- What else is encoded in a fragment. -/
def fragmentSet : List Char := [' ', '"', '<', '>', '`']

/-- What else is encoded in a path. -/
def pathSet : List Char := fragmentSet ++ ['#', '?', '\x7b', '\x7d']

/-- What else is encoded in a query. -/
def querySet : List Char := [' ', '"', '#', '<', '>', '\'']

/-- What else is encoded in the name of a user. -/
def userSet : List Char := pathSet ++ ['/', ':', ';', '=', '@', '[', '\\', ']', '^', '|']

/-! ### Reading -/

/-- Whether a character is a slash of either kind. -/
def isSlash (c : Char) : Bool := c = '/' || c = '\\'

/-- The text without blanks at its ends and without tabs and line ends anywhere. -/
def clean (cs : List Char) : List Char :=
  let isBlank (c : Char) : Bool := c.toNat ≤ 32
  let trimmed := ((cs.dropWhile isBlank).reverse.dropWhile isBlank).reverse
  trimmed.filter fun c => c ≠ '\t' && c ≠ '\n' && c ≠ '\r'

/-- Splits at the first character that satisfies a test; that character is dropped. -/
def splitAt? (test : Char → Bool) (cs : List Char) : Option (List Char × List Char) :=
  match cs.dropWhile (!test ·) with
  | [] => none
  | _ :: rest => some (cs.takeWhile (!test ·), rest)

/-- Splits at every character that satisfies a test. -/
def splitOn (test : Char → Bool) : List Char → List (List Char)
  | [] => [[]]
  | c :: rest =>
    match splitOn test rest with
    | [] => [[c]]
    | first :: others => if test c then [] :: first :: others else (c :: first) :: others

/-- Whether a segment stands for the segment it is in. -/
def isSingleDot (segment : List Char) : Bool :=
  [".", "%2e"].contains (String.ofList (segment.map Char.toLower))

/-- Whether a segment stands for the one above. -/
def isDoubleDot (segment : List Char) : Bool :=
  ["..", ".%2e", "%2e.", "%2e%2e"].contains (String.ofList (segment.map Char.toLower))

/-- Resolves the segments of a path after those that were read already. -/
def resolve : (read : List String) → List (List Char) → List String
  | read, [] => read
  | read, segment :: rest =>
    let ends := if rest.isEmpty then [""] else []
    if isDoubleDot segment then resolve (read.dropLast ++ ends) rest
    else if isSingleDot segment then resolve (read ++ ends) rest
    else resolve (read ++ [String.ofList (encode pathSet segment)]) rest

/-- Reads a path; the first slash may be left out where nothing follows. -/
def readPath : List Char → List String
  | [] => [""]
  | c :: rest => resolve [] (splitOn isSlash (if isSlash c then rest else c :: rest))

/-- The characters that no name of a host holds. -/
def forbidden : List Char :=
  [' ', '#', '%', '/', ':', '<', '>', '?', '@', '[', '\\', ']', '^', '|']

/-- Reads the name or address of a host. A name whose last part is a number is an IPv4 address. -/
def readHost? (cs : List Char) : Option String :=
  match cs with
  | '[' :: rest =>
    match ipv6 rest with
    | some (address, [']']) => some ("[" ++ address.text ++ "]")
    | _ => none
  | _ =>
    let name := String.ofList (cs.map Char.toLower)
    if cs.isEmpty || cs.any fun c => isForeign c || forbidden.contains c then none
    else
      let last := ((splitOn (· = '.') cs).filter (!·.isEmpty)).getLast?.getD []
      if !last.isEmpty && last.all Char.isDigit then
        (ipv4.all? name).map Ipv4.text
      else some name

/-- Reads a port; the one of the scheme is not kept. -/
def readPort? (scheme : Scheme) (cs : List Char) : Option String :=
  if cs.isEmpty then some ""
  else if cs.all Char.isDigit then
    let port := Text.decimalValue cs
    if port < UInt16.size then some (if port = scheme.port then "" else ":" ++ toString port) else none
  else none

/-- Reads a host with a port. -/
def readServer? (scheme : Scheme) (cs : List Char) : Option String := do
  let host :=
    if cs.head? = some '[' then cs.takeWhile (· ≠ ']') ++ [']'] else cs.takeWhile (· ≠ ':')
  let port ← match cs.drop host.length with
    | [] => some []
    | ':' :: port => some port
    | _ => none
  return (← readHost? host) ++ (← readPort? scheme port)

/-- Reads what stands before the path: a user may come in front of the host. -/
def readAuthority? (scheme : Scheme) (cs : List Char) : Option String :=
  match (splitOn (· = '@') cs).getLast? with
  | some server =>
    let user := cs.take (cs.length - server.length - 1)
    let userText :=
      if user.isEmpty then "" else String.ofList (encode (userSet.erase ':') user) ++ "@"
    (readServer? scheme server).map (userText ++ ·)
  | none => none

/-- Reads what follows a scheme and its colon. -/
def readRest? (scheme : Scheme) (cs : List Char) : Option Url := do
  let rest := cs.dropWhile isSlash
  let (rest, fragment) := match splitAt? (· = '#') rest with
    | some (rest, fragment) => (rest, some (String.ofList (encode fragmentSet fragment)))
    | none => (rest, none)
  let (rest, query) := match splitAt? (· = '?') rest with
    | some (rest, query) => (rest, some (String.ofList (encode querySet query)))
    | none => (rest, none)
  let authority ← readAuthority? scheme (rest.takeWhile (!isSlash ·))
  return { scheme, authority, path := readPath (rest.dropWhile (!isSlash ·)), query, fragment }

/-- Reads a URL. -/
def read? (text : String) : Option Url := do
  let (name, rest) ← splitAt? (· = ':') (clean text.toList)
  let scheme ← Scheme.ofName? (String.ofList (name.map Char.toLower))
  readRest? scheme rest

end Url

end ClusterInfra.Net
