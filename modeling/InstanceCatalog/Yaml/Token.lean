import InstanceCatalog.Text.Basic

namespace InstanceCatalog
namespace Yaml

inductive ScalarStyle
  | plain
  | quoted
  | literal
  | folded
deriving DecidableEq, Repr

inductive Token
  | version (major minor : Nat)
  | tagDirective (handle start : Text)
  | documentStart
  | documentEnd
  | blockSequenceStart
  | blockMappingStart
  | blockEnd
  | flowSequenceStart
  | flowSequenceEnd
  | flowMappingStart
  | flowMappingEnd
  | blockEntry
  | flowEntry
  | key
  | value
  | alias_ (name : Text)
  | anchor (name : Text)
  | tag (handle suffix : Text)
  | scalar (style : ScalarStyle) (text : Text)
  | streamEnd
deriving DecidableEq, Repr

def isAllowed (c : Char) : Bool :=
  let n := c.toNat
  n == 0x09 || n == 0x0A || n == 0x0D || (0x20 ≤ n && n ≤ 0x7E) || n == 0x85 ||
    (0xA0 ≤ n && n ≤ 0xFFFD) || 0x10000 ≤ n

def isBlank (c : Char) : Bool := c == ' ' || c == '\t'

def isBreak (c : Char) : Bool :=
  c == '\r' || c == '\n' || c == '\u0085' || c == '\u2028' || c == '\u2029'

/-- Letters, digits and the two marks that names may hold. -/
def isNameChar (c : Char) : Bool := c.isAlphanum || c == '_' || c == '-'

def startsWith (p : Char → Bool) : Text → Bool
  | [] => false
  | c :: _ => p c

/-- Whether nothing, a blank or a break follows. -/
def atGap : Text → Bool
  | [] => true
  | c :: _ => isBlank c || isBreak c

def atLineEnd : Text → Bool
  | [] => true
  | c :: _ => isBreak c

/-- Whether three dashes or dots stand here with a gap behind them. -/
def atDocumentMark (s : Text) : Bool :=
  (s.take 3 == "---".toList || s.take 3 == "...".toList) && atGap (s.drop 3)

end Yaml
end InstanceCatalog
