import InstanceCatalog.Yaml.Token

namespace InstanceCatalog
namespace Yaml

structure Cursor where
  rest : Text
  index : Nat
  line : Nat
  column : Nat
deriving DecidableEq, Repr

namespace Cursor

def start (s : Text) : Cursor := ⟨s, 0, 0, 0⟩

def skip (c : Cursor) (n : Nat) : Cursor :=
  { c with rest := c.rest.drop n, index := c.index + n, column := c.column + n }

/-- Moves behind a line break; a carriage return and a line feed are one. -/
def skipLine (c : Cursor) : Cursor :=
  match c.rest with
  | '\r' :: '\n' :: rest => ⟨rest, c.index + 2, c.line + 1, 0⟩
  | _ :: rest => ⟨rest, c.index + 1, c.line + 1, 0⟩
  | [] => c

def breakText (c : Cursor) : Text :=
  match c.rest with
  | [] => []
  | b :: _ => if b = '\u2028' || b = '\u2029' then [b] else if isBreak b then ['\n'] else []

def skipWhile (c : Cursor) (p : Char → Bool) : Cursor := c.skip (c.rest.takeWhile p).length

/-- Moves to the end of the line if a comment stands here. -/
def skipComment (c : Cursor) : Cursor :=
  if startsWith (· == '#') c.rest then c.skipWhile (!isBreak ·) else c

end Cursor

structure Gap where
  blanks : Text
  /-- Whether a line break is among them. -/
  broken : Bool
  /-- The text of the first break. -/
  first : Text
  /-- The texts of the other breaks. -/
  others : Text
deriving DecidableEq, Repr

namespace Gap

def none : Gap := ⟨[], false, [], []⟩

/-- What a gap means: a single line feed is a space, further ones stand for themselves. -/
def meaning (g : Gap) : Text :=
  if !g.broken then g.blanks
  else if g.first = ['\n'] then (if g.others.isEmpty then [' '] else g.others)
  else g.first ++ g.others

def addBlank (g : Gap) (c : Char) : Gap :=
  if g.broken then g else { g with blanks := g.blanks ++ [c] }

def addBreak (g : Gap) (text : Text) : Gap :=
  if g.broken then { g with others := g.others ++ text } else ⟨[], true, text, []⟩

end Gap
end Yaml
end InstanceCatalog
