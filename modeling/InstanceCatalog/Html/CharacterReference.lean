import InstanceCatalog.Html.References
import InstanceCatalog.Html.Token
import InstanceCatalog.Text.Windows1252

namespace InstanceCatalog
namespace Html

/-- The character with a code. Codes that are no characters give the replacement character. -/
def codeChar (n : Nat) : Char :=
  if n = 0 || !decide n.isValidChar then replacement
  else Text.windows1252Char n

/-- The end of a numeric reference; its semicolon may be missing. -/
def dropSemicolon : Text → Text
  | ';' :: rest => rest
  | rest => rest

def numericReference? (s : Text) : Option (Text × Text) :=
  match s with
  | x :: rest =>
    if x = 'x' || x = 'X' then
      let digits := rest.takeWhile Text.isHexDigit
      if digits.isEmpty then none
      else some ([codeChar (Text.hexValue digits)], dropSemicolon (rest.dropWhile Text.isHexDigit))
    else
      let digits := s.takeWhile Char.isDigit
      if digits.isEmpty then none
      else some ([codeChar (Text.decimalValue digits)], dropSemicolon (s.dropWhile Char.isDigit))
  | [] => none

/-- A carriage return right behind an ampersand or a name without a semicolon is lost. -/
def dropLoneReturn : Text → Text
  | '\r' :: rest => rest
  | rest => rest

/-- A name without a semicolon is no reference in an attribute when it could go on. -/
def goesOn : Text → Bool
  | [] => false
  | c :: _ => c == '=' || c.isAlphanum

/-- A reference by name, from the longest name of the table the text starts with, and its
characters. -/
def referenceOf (inAttribute : Bool) (s : Text) : Option (Text × Text) → Option (Text × Text)
  | none => none
  | some (name, chars) =>
    let rest := s.drop name.length
    if name.getLast? = some ';' then some (chars, rest)
    else if inAttribute && goesOn rest then none
    else some (chars, dropLoneReturn rest)

def namedReference? (inAttribute : Bool) (s : Text) : Option (Text × Text) :=
  referenceOf inAttribute s (longestReference? s)

/-- What an ampersand and the text behind it stand for, with what is left of the text. An
ampersand that begins no reference stands for itself. -/
def readAmpersand (inAttribute : Bool) (s : Text) : Text × Text :=
  let found := match s with
    | '#' :: rest => numericReference? rest
    | _ => namedReference? inAttribute s
  found.getD (['&'], dropLoneReturn s)

/-- The value of an attribute from its written form. Each step consumes a character, so the
length of the form bounds their number. -/
def attributeValueWithin : Nat → Text → Text
  | 0, _ | _, [] => []
  | steps + 1, c :: rest =>
    if c = '&' then
      let (chars, rest) := readAmpersand true rest
      chars ++ attributeValueWithin steps rest
    else
      let c := if c = '\x00' then replacement else if c = '\r' then '\n' else c
      c :: attributeValueWithin steps rest

def attributeValue (written : Text) : Text := attributeValueWithin written.length written

end Html
end InstanceCatalog
