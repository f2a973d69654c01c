import InstanceCatalog.Text.Hex
import InstanceCatalog.Text.Utf8

namespace InstanceCatalog

attribute [local instance (high)] instPowNat

structure WebUrl where
  isSecure : Bool
  host : Text
  portNumber : Option Nat
  /-- The segments of the path in their written form; there is always one. -/
  path : List Text
  query : Option Text
deriving DecidableEq, Repr

namespace WebUrl

/-! ### Percent encoding -/

def hexDigit (n : Nat) : Char := (Nat.digitChar n).toUpper

def escapeByte (b : UInt8) : Text := ['%', hexDigit (b.toNat / 16), hexDigit (b.toNat % 16)]

def percentEncode (mustEncode : Char → Bool) (s : Text) : Text :=
  s.flatMap fun c => if mustEncode c then (Utf8.encodeChar c).flatMap escapeByte else [c]

/-- The bytes of a text with its escapes read; a percent sign that begins none stands for itself. -/
def percentDecode : Text → Bytes
  | '%' :: a :: b :: rest =>
    match Text.valueIn? 16 [a, b] with
    | some byte => byte.toUInt8 :: percentDecode rest
    | none => Utf8.encodeChar '%' ++ percentDecode (a :: b :: rest)
  | c :: rest => Utf8.encodeChar c ++ percentDecode rest
  | [] => []

/-- Control characters and all beyond ASCII. -/
def isBeyondPrint (c : Char) : Bool := c.toNat < 0x20 || 0x7E < c.toNat

def encodeInPath (c : Char) : Bool := isBeyondPrint c || " \"#<>?^`\x7b\x7d".toList.contains c

def encodeInQuery (c : Char) : Bool := isBeyondPrint c || " \"#<>'".toList.contains c

/-! ### Hosts -/

/-- The number of an address part: hexadecimal behind `0x`, octal behind `0`, or decimal. -/
def partValue? (s : Text) : Option Nat :=
  match s with
  | [] => none
  | '0' :: x :: rest =>
    if x = 'x' || x = 'X' then Text.valueIn? 16 rest else Text.valueIn? 8 (x :: rest)
  | _ => Text.valueIn? 10 s

/-- The labels of a host name, without the empty one behind a last dot. -/
def labels (host : Text) : List Text :=
  let all := List.splitOn '.' host
  if 1 < all.length && all.getLast? = some [] then all.dropLast else all

/-- A host whose last label is a number must be an address of four bytes. -/
def endsInNumber (host : Text) : Bool :=
  match (labels host).getLast? with
  | some last => (!last.isEmpty && last.all Char.isDigit) ||
      (("0x".toList.isPrefixOf last || "0X".toList.isPrefixOf last) && (partValue? last).isSome)
  | none => false

/-- Up to four numbers; the last one fills the bytes that are left. -/
def isFourByteAddress (host : Text) : Bool :=
  match (labels host).mapM partValue? with
  | some values =>
    values.length ≤ 4 && values.dropLast.all (· ≤ 255) &&
      values.getLast?.any (· < 256 ^ (5 - values.length))
  | none => false

/-- How many 16-bit groups a run between double colons has. -/
def groupCount? (s : Text) : Option Nat :=
  if s.isEmpty then some 0
  else
    let groups := List.splitOn ':' s
    let isGroup := fun g : Text => !g.isEmpty && g.length ≤ 4 && g.all Text.isHexDigit
    let isDotted := fun g : Text =>
      let parts := List.splitOn '.' g
      parts.length = 4 && parts.all fun p =>
        !p.isEmpty && p.all Char.isDigit && (p.length = 1 || p.head? != some '0') &&
          Text.decimalValue p ≤ 255
    if groups.all isGroup then some groups.length
    else if groups.dropLast.all isGroup && groups.getLast?.any isDotted then
      some (groups.length + 1)
    else none

/-- Eight groups, of which one run of zeros may be left out between two colons. -/
def isSixteenByteAddress (s : Text) : Bool :=
  let rec runs : Text → Text × Option Text
    | ':' :: ':' :: rest => ([], some rest)
    | c :: rest => ((c :: (runs rest).1), (runs rest).2)
    | [] => ([], none)
  match runs s with
  | (all, none) => groupCount? all = some 8
  | (before, some after) =>
    match groupCount? before, groupCount? after with
    | some m, some n => m + n < 8 && !(before.contains '.')
    | _, _ => false

def isForbiddenInHost (c : Char) : Bool :=
  c.toNat ≤ 0x20 || c.toNat = 0x7F || "#/:<>?@[\\]^|%".toList.contains c

/-- A host in lower case, none if no host is written so. -/
def host? (written : Text) : Option Text :=
  match written with
  | '[' :: rest =>
    if rest.getLast? = some ']' && isSixteenByteAddress rest.dropLast then some written else none
  | _ => do
    let host := (← Utf8.decode (percentDecode written)).map Char.toLower
    if host.isEmpty || host.any isForbiddenInHost then none
    else if endsInNumber host && !isFourByteAddress host then none
    else return host

/-- The number behind a host: digits up to 65535, or none. -/
def portNumber? (s : Text) : Option (Option Nat) :=
  if s.isEmpty then some none
  else if s.all Char.isDigit && Text.decimalValue s ≤ 65535 then some (some (Text.decimalValue s))
  else none

def splitHost (s : Text) : Text × Text :=
  match s with
  | '[' :: _ =>
    let length := (s.takeWhile (· != ']')).length + 1
    (s.take length, s.drop length)
  | _ => (s.takeWhile (· != ':'), s.dropWhile (· != ':'))

/-- The host and the number behind it, from what stands between the slashes and the path; a user
name is passed over. -/
def authority? (s : Text) : Option (Text × Option Nat) := do
  let (host, rest) := splitHost ((List.splitOn '@' s).getLastD [])
  let host ← host? host
  match rest with
  | [] => return (host, none)
  | ':' :: digits => return (host, ← portNumber? digits)
  | _ => none

/-! ### Paths -/

def isSlash (c : Char) : Bool := c == '/' || c == '\\'

/-- A segment with its escaped dots read, in lower case. -/
def dotForm : Text → Text
  | '%' :: '2' :: 'e' :: rest | '%' :: '2' :: 'E' :: rest => '.' :: dotForm rest
  | '.' :: rest => '.' :: dotForm rest
  | s => s

def isSingleDot (segment : Text) : Bool := dotForm segment == ['.']

def isDoubleDot (segment : Text) : Bool := dotForm segment == ['.', '.']

/-- Resolves dot segments. A dot segment at the end leaves an empty one. -/
def resolveDots (path : List Text) : List Text → List Text
  | [] => path
  | segment :: rest =>
    let path := if isDoubleDot segment then path.dropLast else path
    if isDoubleDot segment || isSingleDot segment then
      resolveDots (if rest.isEmpty then path ++ [[]] else path) rest
    else resolveDots (path ++ [segment]) rest

def pathSegments (s : Text) : List Text :=
  let s := match s with
    | c :: rest => if isSlash c then rest else s
    | [] => []
  resolveDots [] ((List.splitOnP isSlash s).map (percentEncode encodeInPath))

/-! ### Whole addresses -/

/-- Without control characters and blanks around it, and without tabs and line breaks. -/
def cleaned (s : Text) : Text :=
  (Text.strip (·.toNat ≤ 0x20) s).filter fun c => c != '\t' && c != '\n' && c != '\r'

def scheme? (s : Text) : Option (Bool × Text) :=
  let scheme := (s.takeWhile (· != ':')).map Char.toLower
  match s.dropWhile (· != ':') with
  | ':' :: rest =>
    if scheme = "http".toList then some (false, rest)
    else if scheme = "https".toList then some (true, rest)
    else none
  | _ => none

def isEndOfPath (c : Char) : Bool := c == '?' || c == '#'

/-- Reads a web address; addresses of other schemes are none. What stands behind a `#` is
dropped. -/
def parse? (s : Text) : Option WebUrl := do
  let (isSecure, rest) ← scheme? (cleaned s)
  let rest := rest.dropWhile isSlash
  let isEndOfAuthority := fun c : Char => isSlash c || isEndOfPath c
  let (host, portNumber) ← authority? (rest.takeWhile (!isEndOfAuthority ·))
  let rest := rest.dropWhile (!isEndOfAuthority ·)
  let path := pathSegments (rest.takeWhile (!isEndOfPath ·))
  let query := match rest.dropWhile (!isEndOfPath ·) with
    | '?' :: rest => some (percentEncode encodeInQuery (rest.takeWhile (· != '#')))
    | _ => none
  return { isSecure, host, portNumber, path, query }

/-- What a request asks its server for: path and query. -/
def target (url : WebUrl) : Text :=
  '/' :: List.intercalate ['/'] url.path ++ (match url.query with
    | some query => '?' :: query
    | none => [])

end WebUrl
end InstanceCatalog
