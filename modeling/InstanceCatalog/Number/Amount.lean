import InstanceCatalog.Number.Binary64
import InstanceCatalog.Text.Blank
import InstanceCatalog.Text.Lowercase

namespace InstanceCatalog
namespace Amount

/-- A word ends here: the text is over or goes on with no word character. -/
def atWordEnd : Text → Bool
  | [] => true
  | c :: _ => !Text.isWordChar c

/-- The digits that may follow a point, with the rest; a point without digits is not consumed. -/
def fraction : Text → Text × Text
  | '.' :: rest =>
    let digits := rest.takeWhile Char.isDigit
    if digits.isEmpty then ([], '.' :: rest) else (digits, rest.dropWhile Char.isDigit)
  | rest => ([], rest)

/-- The number before a leading shorthand for thousands, such as `1.5 k`. The `k` must be a word
of its own, so `16kb` is no shorthand. -/
def thousands? (s : Text) : Option Decimal :=
  let whole := s.takeWhile Char.isDigit
  let (places, rest) := fraction (s.dropWhile Char.isDigit)
  match rest.dropWhile Text.isBlank with
  | 'k' :: after =>
    if !whole.isEmpty && atWordEnd after then some (Decimal.ofParts whole places) else none
  | _ => none

def isChunkChar (c : Char) : Bool := c.isDigit || c == ',' || c == '.'

/-- The runs of digits, commas and points that begin with a digit, read from left to right. The
first argument is the run being read, last character first. -/
def chunksFrom : Text → Text → List Text
  | [], [] => []
  | run, [] => [run.reverse]
  | [], c :: rest => if c.isDigit then chunksFrom [c] rest else chunksFrom [] rest
  | run, c :: rest =>
    if isChunkChar c then chunksFrom (c :: run) rest else run.reverse :: chunksFrom [] rest

def chunks (s : Text) : List Text := chunksFrom [] s

/-- The count of a chunk: commas are separators of thousands, decimals are cut off, and a chunk
with two points is no number. -/
def chunkValue? (chunk : Text) : Option Nat :=
  (Decimal.read? (chunk.filter (· != ','))).map fun d => (Binary64.ofDecimal d).truncate

/-- The amount of a cell: a leading shorthand for thousands if there is one, else the largest of
its numbers. -/
def largest (text : Text) : Option Nat :=
  let s := Text.lowercase (Text.trim text)
  match thousands? s with
  | some d => some ((Binary64.ofDecimal d).timesNat 1000).truncate
  | none => ((chunks s).filterMap chunkValue?).max?

/-- All digits and points of a cell read as one number; none if that is no finite numeral. -/
def joined (text : Text) : Option Binary64 :=
  match Decimal.read? (text.filter fun c => c.isDigit || c == '.') with
  | some d =>
    let value := Binary64.ofDecimal d
    if value.isFinite then some value else none
  | none => none

/-- The integer part of `joined`, zero when there is none. -/
def joinedCount (text : Text) : Nat :=
  match joined text with
  | some value => value.truncate
  | none => 0

end Amount
end InstanceCatalog
