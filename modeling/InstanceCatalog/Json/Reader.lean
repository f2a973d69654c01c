import InstanceCatalog.Json.Value
import InstanceCatalog.Number.Numeral
import InstanceCatalog.Text.Hex

namespace InstanceCatalog
namespace Json

def isSpace (c : Char) : Bool := c == ' ' || c == '\n' || c == '\t' || c == '\r'

def skipSpace (s : Text) : Text := s.dropWhile isSpace

def word? (w : String) (s : Text) : Option Text :=
  if w.toList.isPrefixOf s then some (s.drop w.length) else none

def unit? (s : Text) : Option (Nat × Text) :=
  let digits := s.take 4
  if digits.length = 4 && digits.all Text.isHexDigit then
    some (Text.hexValue digits, s.drop 4)
  else none

def simpleEscapes : List (Char × Char) := [
  ('"', '"'), ('\\', '\\'), ('/', '/'), ('b', '\x08'), ('f', '\x0c'), ('n', '\n'), ('r', '\r'),
  ('t', '\t')]

/-- The character of a `\u` escape; two surrogates make one character. -/
def unicodeEscape? (s : Text) : Option (Char × Text) := do
  let (high, rest) ← unit? s
  if high < 0xD800 || 0xDFFF < high then return (Char.ofNat high, rest)
  else if high < 0xDC00 then
    match rest with
    | '\\' :: 'u' :: rest =>
      let (low, rest) ← unit? rest
      if 0xDC00 ≤ low && low ≤ 0xDFFF then
        return (Char.ofNat (0x10000 + (high - 0xD800) * 1024 + (low - 0xDC00)), rest)
      else none
    | _ => none
  else none

def readStringWithin : Nat → Text → Option (Text × Text)
  | 0, _ => none
  | steps + 1, s =>
    match s with
    | [] => none
    | '"' :: rest => some ([], rest)
    | '\\' :: 'u' :: rest => do
      let (c, rest) ← unicodeEscape? rest
      let (read, rest) ← readStringWithin steps rest
      return (c :: read, rest)
    | '\\' :: mark :: rest => do
      let c ← simpleEscapes.lookup mark
      let (read, rest) ← readStringWithin steps rest
      return (c :: read, rest)
    | c :: rest =>
      if c = '\\' || c.toNat < 0x20 then none
      else do
        let (read, rest) ← readStringWithin steps rest
        return (c :: read, rest)

def readString? (s : Text) : Option (Text × Text) := readStringWithin s.length s

def digits? (s : Text) : Option (Text × Text) :=
  let digits := s.takeWhile Char.isDigit
  if digits.isEmpty then none else some (digits, s.dropWhile Char.isDigit)

/-- A part of a number that begins with this character, or nothing. -/
def part? (mark : Char) (s : Text) (read : Text → Option (Text × Text)) : Option (Text × Text) :=
  match s with
  | c :: rest => if c = mark then (read rest).map fun (t, rest) => (c :: t, rest) else some ([], s)
  | [] => some ([], [])

def readExponent? (s : Text) : Option (Text × Text) :=
  match s with
  | '-' :: rest => (digits? rest).map fun (t, rest) => ('-' :: t, rest)
  | '+' :: rest => (digits? rest).map fun (t, rest) => ('+' :: t, rest)
  | _ => digits? s

/-- A number as it is written. Zero begins no other whole number. -/
def readNumber? (s : Text) : Option (Text × Text) := do
  let (sign, s) ← part? '-' s fun rest => some ([], rest)
  let (whole, s) ← digits? s
  if whole.head? = some '0' && whole.length != 1 then none
  let (fraction, s) ← part? '.' s digits?
  let (lower, s) ← part? 'e' s readExponent?
  let (upper, s) ← if lower.isEmpty then part? 'E' s readExponent? else some ([], s)
  let written := sign ++ whole ++ fraction ++ lower ++ upper
  if (Binary64.read? written).any Binary64.isFinite then return (written, s) else none

mutual

/-- A value; `levels` is how many more levels of brackets it may have, and one. -/
def readValue : Nat → (levels : Nat) → Text → Option (JsonValue × Text)
  | 0, _, _ => none
  | steps + 1, levels, s =>
    match skipSpace s with
    | '\x7b' :: rest =>
      if levels ≤ 1 then none
      else (readMembers steps (levels - 1) true rest).map fun (ms, rest) => (.object ms, rest)
    | '[' :: rest =>
      if levels ≤ 1 then none
      else (readItems steps (levels - 1) true rest).map fun (is, rest) => (.array is, rest)
    | '"' :: rest => (readString? rest).map fun (t, rest) => (.string t, rest)
    | 'n' :: rest => (word? "ull" rest).map (.null, ·)
    | 't' :: rest => (word? "rue" rest).map (.bool true, ·)
    | 'f' :: rest => (word? "alse" rest).map (.bool false, ·)
    | s => (readNumber? s).map fun (t, rest) => (.number t, rest)

def readItems : Nat → (levels : Nat) → (first : Bool) → Text → Option (List JsonValue × Text)
  | 0, _, _, _ => none
  | steps + 1, levels, first, s =>
    match skipSpace s, first with
    | ']' :: rest, _ => some ([], rest)
    | ',' :: s, false => do
      let (item, s) ← readValue steps levels s
      let (items, s) ← readItems steps levels false s
      return (item :: items, s)
    | s, true => do
      let (item, s) ← readValue steps levels s
      let (items, s) ← readItems steps levels false s
      return (item :: items, s)
    | _, false => none

def readMembers : Nat → (levels : Nat) → (first : Bool) → Text →
    Option (List (Text × JsonValue) × Text)
  | 0, _, _, _ => none
  | steps + 1, levels, first, s =>
    match skipSpace s, first with
    | '\x7d' :: rest, _ => some ([], rest)
    | ',' :: s, false => do
      let (member, s) ← readMember steps levels (skipSpace s)
      let (members, s) ← readMembers steps levels false s
      return (member :: members, s)
    | s, true => do
      let (member, s) ← readMember steps levels s
      let (members, s) ← readMembers steps levels false s
      return (member :: members, s)
    | _, false => none

def readMember : Nat → (levels : Nat) → Text → Option ((Text × JsonValue) × Text)
  | 0, _, _ => none
  | steps + 1, levels, s =>
    match s with
    | '"' :: rest => do
      let (name, s) ← readString? rest
      match skipSpace s with
      | ':' :: s => do
        let (value, s) ← readValue steps levels s
        return ((name, value), s)
      | _ => none
    | _ => none

end

/-- The value that a whole text holds. Every step passes a character of it, but for a few at the
end. -/
def read? (s : Text) : Option JsonValue := do
  let (value, rest) ← readValue (2 * s.length + 4) 128 s
  if (skipSpace rest).isEmpty then return value else none

end Json
end InstanceCatalog
