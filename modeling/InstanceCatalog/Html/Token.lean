import InstanceCatalog.Text.Basic

namespace InstanceCatalog
namespace Html

/-- The blanks of HTML. A carriage return is among them because a reference may denote one. -/
def isSpace (c : Char) : Bool :=
  c == ' ' || c == '\t' || c == '\n' || c == '\x0c' || c == '\r'

/-- What stands for a character that a text cannot hold. -/
def replacement : Char := '\uFFFD'

structure Tag where
  name : String
  attributes : List (String × Text)
  selfClosing : Bool
deriving DecidableEq, Repr

namespace Tag

def attribute? (tag : Tag) (name : String) : Option Text := tag.attributes.lookup name

/-- The same name with the same attributes in any order. -/
def alike (s t : Tag) : Bool :=
  s.name == t.name && s.attributes.length == t.attributes.length &&
    s.attributes.all (t.attributes.contains ·)

end Tag

structure Doctype where
  name : Option Text
  publicId : Option Text
  systemId : Option Text
  /-- Set when the declaration is malformed. -/
  forceOldStyle : Bool
deriving DecidableEq, Repr

inductive Token
  | doctype (d : Doctype)
  | start (tag : Tag)
  | finish (tag : Tag)
  | comment
  | char (c : Char)
  /-- A NUL character, which most places drop. -/
  | nul
  /-- The end of the document. -/
  | eof
deriving DecidableEq, Repr

end Html
end InstanceCatalog
