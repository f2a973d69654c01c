import InstanceCatalog.Text.Utf8
import InstanceCatalog.Text.Windows1252

namespace InstanceCatalog

inductive Charset
  | utf8
  | utf16 (bigEndian : Bool)
  | windows1252
deriving DecidableEq, Repr

namespace Charset

def replacement : Char := '\uFFFD'

def windows1252Labels : List String := [
  "ansi_x3.4-1968", "ascii", "cp1252", "cp819", "csisolatin1", "ibm819", "iso-8859-1",
  "iso-ir-100", "iso8859-1", "iso88591", "iso_8859-1", "iso_8859-1:1987", "l1", "latin1",
  "us-ascii", "windows-1252", "x-cp1252"]

def utf16LittleLabels : List String := [
  "csunicode", "iso-10646-ucs-2", "ucs-2", "unicode", "unicodefeff", "utf-16", "utf-16le"]

def utf16BigLabels : List String := ["unicodefffe", "utf-16be"]

/-- The charset of a label. A label without a charset here counts as UTF-8. -/
def ofLabel (label : Text) : Charset :=
  let label := String.ofList (label.map Char.toLower)
  if windows1252Labels.contains label then windows1252
  else if utf16LittleLabels.contains label then utf16 false
  else if utf16BigLabels.contains label then utf16 true
  else utf8

def secondRange (lead : Nat) : Nat × Nat :=
  if lead = 0xE0 then (0xA0, 0xBF)
  else if lead = 0xED then (0x80, 0x9F)
  else if lead = 0xF0 then (0x90, 0xBF)
  else if lead = 0xF4 then (0x80, 0x8F)
  else (0x80, 0xBF)

/-- How many bytes of a broken character are replaced together: as many as could begin one. -/
def brokenLength : Bytes → Nat
  | a :: b :: rest =>
    let lead := a.toNat
    let (low, high) := secondRange lead
    if lead < 0xE0 || 0xF4 < lead || b.toNat < low || high < b.toNat then 1
    else match rest with
      | c :: _ => if 0xF0 ≤ lead && Utf8.isContinuation c then 3 else 2
      | [] => 2
  | _ => 1

def decodeUtf8Within : Nat → Bytes → Text
  | 0, _ => []
  | _, [] => []
  | steps + 1, bytes =>
    match Utf8.decodeChar bytes with
    | some (c, rest) => c :: decodeUtf8Within steps rest
    | none => replacement :: decodeUtf8Within steps (bytes.drop (brokenLength bytes))

def units (bigEndian : Bool) : Bytes → List Nat
  | a :: b :: rest =>
    (if bigEndian then 256 * a.toNat + b.toNat else 256 * b.toNat + a.toNat) :: units bigEndian rest
  | _ => []

def isHighUnit (n : Nat) : Bool := 0xD800 ≤ n && n < 0xDC00
def isLowUnit (n : Nat) : Bool := 0xDC00 ≤ n && n < 0xE000

def ofUnits : List Nat → Text
  | [] => []
  | n :: rest =>
    if isLowUnit n then replacement :: ofUnits rest
    else if !isHighUnit n then Char.ofNat n :: ofUnits rest
    else match rest with
      | m :: rest' =>
        if isLowUnit m then
          Char.ofNat (0x10000 + (n - 0xD800) * 1024 + (m - 0xDC00)) :: ofUnits rest'
        else replacement :: ofUnits (m :: rest')
      | [] => [replacement]

/-- UTF-16 text. A byte at the end is half a unit and replaced, as one with a half pair before
it. -/
def decodeUtf16 (bigEndian : Bool) (bytes : Bytes) : Text :=
  let units := units bigEndian bytes
  let isHalf := bytes.length % 2 = 1 && !units.getLast?.any isHighUnit
  ofUnits units ++ (if isHalf then [replacement] else [])

def decode (charset : Charset) (bytes : Bytes) : Text :=
  match charset with
  | utf8 => decodeUtf8Within bytes.length bytes
  | utf16 bigEndian => decodeUtf16 bigEndian bytes
  | windows1252 => bytes.map fun b => Text.windows1252Char b.toNat

/-- Decodes by the byte order mark, if there is one, or by the given charset. -/
def decodeMarked (charset : Charset) : Bytes → Text
  | 0xEF :: 0xBB :: 0xBF :: rest => utf8.decode rest
  | 0xFF :: 0xFE :: rest => (utf16 false).decode rest
  | 0xFE :: 0xFF :: rest => (utf16 true).decode rest
  | bytes => charset.decode bytes

/-- The charset that a content type names, UTF-8 if it names none. -/
def ofContentType (contentType : Text) : Charset :=
  let isBlank := fun c : Char => c == ' ' || c == '\t'
  let label? := fun parameter : Text =>
    let parameter := Text.strip isBlank parameter
    let name := parameter.takeWhile (· != '=')
    if name.map Char.toLower = "charset".toList then
      some (Text.strip (· == '"') (parameter.drop (name.length + 1)))
    else none
  ((((List.splitOn ';' contentType).drop 1).findSome? label?).map ofLabel).getD utf8

end Charset
end InstanceCatalog
