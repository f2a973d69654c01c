import InstanceCatalog.Text.Classes

namespace InstanceCatalog.Text

/-- A character by its code in lowercase hexadecimal. -/
def codeEscape (c : Char) : Text :=
  "\\u\x7b".toList ++ Nat.toDigits 16 c.toNat ++ "\x7d".toList

def escapeChar (c : Char) : Text :=
  if c = '\x00' then "\\0".toList
  else if c = '\t' then "\\t".toList
  else if c = '\r' then "\\r".toList
  else if c = '\n' then "\\n".toList
  else if c = '"' || c = '\\' then ['\\', c]
  else if isExtender c || !isPrintable c then codeEscape c
  else [c]

def quoted (s : Text) : Text := '"' :: s.flatMap escapeChar ++ ['"']

def quotedList (texts : List Text) : Text :=
  '[' :: List.intercalate ", ".toList (texts.map quoted) ++ [']']

end InstanceCatalog.Text
