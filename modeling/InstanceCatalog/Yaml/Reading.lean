import InstanceCatalog.Number.Count
import InstanceCatalog.Yaml.Document

/-!
Reading values of a given form from a YAML document. The form decides what a plain scalar means:
where a text is wanted, `true` and `5` are texts. Tags count only where a null may stand, and for
literal numbers.
-/

namespace InstanceCatalog
namespace Yaml

/-- The state is how many more aliases may be followed. -/
abbrev Reading := ReaderT Document (StateT Nat Option)

namespace Reading

def follow : Node → Reading Node
  | .alias_ anchor => do
    match ← get with
    | 0 => failure
    | more + 1 =>
      set more
      match (← read).node? anchor with
      | some node => return node
      | none => failure
  | node => return node

/-- Any scalar is a text. -/
def text (node : Node) : Reading Text := do
  match ← follow node with
  | .scalar _ _ _ text => return text
  | _ => failure

def digits? (radix : Nat) (s : Text) : Option Nat :=
  if s.isEmpty then none
  else do
    let n ← Text.valueIn? radix s
    if n ≤ greatestCount then some n else none

def withoutPlus : Text → Text
  | '+' :: rest => rest
  | s => s

/-- A count, with an optional plus: in base 16, 8 or 2 behind `0x`, `0o` or `0b`, or else in
decimal, where zero begins no other number. -/
def count? (s : Text) : Option Nat :=
  match withoutPlus s with
  | '0' :: 'x' :: rest => digits? 16 rest
  | '0' :: 'o' :: rest => digits? 8 rest
  | '0' :: 'b' :: rest => digits? 2 rest
  | '0' :: _ :: _ => none
  | rest => digits? 10 rest

def coreTag (name : String) : Text := "tag:yaml.org,2002:".toList ++ name.toList

/-- A count is plain, or a literal block with the tag of whole numbers. -/
def count (node : Node) : Reading Nat := do
  match ← follow node with
  | .scalar _ tag style text =>
    if style = .plain || (style = .literal && tag = some (coreTag "int")) then
      match count? text with
      | some n => return n
      | none => failure
    else failure
  | _ => failure

def isNullWord (s : Text) : Bool :=
  s == "null".toList || s == "Null".toList || s == "NULL".toList || s == "~".toList

/-- Whether a node stands for the absence of a value. One with the tag of null must be null, and
one with any other tag is not. -/
def isNull : Node → Reading Bool
  | .scalar _ tag .plain text =>
    match tag with
    | none => return text.isEmpty || isNullWord text
    | some tag =>
      if tag != coreTag "null" then return false
      else if isNullWord text then return true
      else failure
  | _ => return false

def optional (read : Node → Reading α) (node : Node) : Reading (Option α) := do
  let node ← follow node
  if ← isNull node then return none
  else some <$> read node

/-- Whether nothing is written, which is also an empty list or mapping. -/
def isEmpty : Node → Bool
  | .scalar _ _ .plain [] => true
  | _ => false

def list (read : Node → Reading α) (node : Node) : Reading (List α) := do
  match ← follow node with
  | .sequence _ items => items.mapM read
  | node => if isEmpty node then return [] else failure

/-- The fields of a mapping. Their names must be scalars. -/
def fields (node : Node) : Reading (List (Text × Node)) := do
  match ← follow node with
  | .mapping _ pairs => pairs.mapM fun (key, value) => return (← text key, value)
  | node => if isEmpty node then return [] else failure

/-- The field of a name, which may stand there once at most. -/
def field? (read : Node → Reading α) (fields : List (Text × Node)) (name : String) :
    Reading (Option α) := do
  match fields.filter (·.1 == name.toList) with
  | [] => return none
  | [(_, node)] => some <$> read node
  | _ => failure

def field (read : Node → Reading α) (fields : List (Text × Node)) (name : String) :
    Reading α := do
  match ← field? read fields name with
  | some a => return a
  | none => failure

def fieldD (read : Node → Reading α) (fields : List (Text × Node)) (name : String)
    (standard : α) : Reading α := do
  return (← field? read fields name).getD standard

end Reading

def read? (read : Node → Reading α) (s : Text) : Option α := do
  let document ← Document.ofText? s
  ((read document.root).run document).run' document.followLimit

end Yaml
end InstanceCatalog
