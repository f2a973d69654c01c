import InstanceCatalog.Yaml.Lexer
import InstanceCatalog.Yaml.Node

namespace InstanceCatalog
namespace Yaml

structure TreeInput where
  tokens : List Token
  /-- The number of each anchor name. -/
  anchors : List (Text × Nat)

abbrev TreeReader := StateT TreeInput Option

/-- What the handles of tags stand for. -/
abbrev Handles := List (Text × Text)

namespace TreeReader

def peek : TreeReader Token := do
  match (← get).tokens with
  | [] => failure
  | token :: _ => return token

def advance : TreeReader Unit := modify fun c => { c with tokens := c.tokens.drop 1 }

def skipIf (token : Token) : TreeReader Bool := do
  if (← peek) = token then advance; return true
  else return false

def expect (token : Token) : TreeReader Unit := do
  unless ← skipIf token do failure

/-- A node, which is left out where one of these tokens follows. -/
def unlessAt (stops : List Token) (read : TreeReader Node) : TreeReader Node := do
  if stops.contains (← peek) then return .missing else read

/-- The number of an anchor's name, from here on. -/
def declare (name : Text) : TreeReader Nat := do
  let c ← get
  let number := c.anchors.length
  set { c with anchors := (name, number) :: c.anchors.filter (·.1 != name) }
  return number

def readAnchor? : TreeReader (Option Text) := do
  match ← peek with
  | .anchor name => advance; return some name
  | _ => return none

def readTag? : TreeReader (Option (Text × Text)) := do
  match ← peek with
  | .tag handle suffix => advance; return some (handle, suffix)
  | _ => return none

def readProperties : TreeReader (Option Text × Option (Text × Text)) := do
  match ← readAnchor? with
  | some name => return (some name, ← readTag?)
  | none =>
    let tag ← readTag?
    return (← if tag.isSome then readAnchor? else pure none, tag)

/-- The full text of a tag; a handle that stands for nothing is an error. -/
def expandTag (handles : Handles) : Option (Text × Text) → TreeReader (Option Text)
  | none => return none
  | some ([], suffix) => return some suffix
  | some (handle, suffix) =>
    match handles.lookup handle with
    | some start => return some (start ++ suffix)
    | none => failure

/-- A node of which only an anchor or tag is written. -/
def readNothing (anchor : Option Nat) (tag : Option Text) : TreeReader Node :=
  if anchor.isSome || tag.isSome then return .scalar anchor tag .plain [] else failure

mutual

/-- A node. Outside brackets it may be a block, and as part of a pair a list without indentation
of its own. -/
def readNode (handles : Handles) : Nat → (block bare : Bool) → TreeReader Node
  | 0, _, _ => failure
  | steps + 1, block, bare => do
    if let .alias_ name ← peek then
      advance
      match (← get).anchors.lookup name with
      | some number => return .alias_ number
      | none => failure
    let (name, written) ← readProperties
    let tag ← expandTag handles written
    let anchor ← name.mapM declare
    match ← peek with
    | .blockEntry =>
      if bare then .sequence anchor <$> readBareItems handles steps
      else readNothing anchor tag
    | .scalar style text => advance; return .scalar anchor tag style text
    | .flowSequenceStart => advance; .sequence anchor <$> readFlowItems handles steps true
    | .flowMappingStart => advance; .mapping anchor <$> readFlowPairs handles steps true
    | .blockSequenceStart =>
      if block then advance; .sequence anchor <$> readItems handles steps
      else readNothing anchor tag
    | .blockMappingStart =>
      if block then advance; .mapping anchor <$> readPairs handles steps
      else readNothing anchor tag
    | _ => readNothing anchor tag

def readItems (handles : Handles) : Nat → TreeReader (List Node)
  | 0 => failure
  | steps + 1 => do
    if ← skipIf .blockEnd then return []
    expect .blockEntry
    let item ← unlessAt [.blockEntry, .blockEnd] (readNode handles steps true false)
    return item :: (← readItems handles steps)

/-- The items of a list in a mapping's block, as long as dashes follow. -/
def readBareItems (handles : Handles) : Nat → TreeReader (List Node)
  | 0 => failure
  | steps + 1 => do
    if ← skipIf .blockEntry then
      let item ←
        unlessAt [.blockEntry, .key, .value, .blockEnd] (readNode handles steps true false)
      return item :: (← readBareItems handles steps)
    else return []

def readPairs (handles : Handles) : Nat → TreeReader (List (Node × Node))
  | 0 => failure
  | steps + 1 => do
    if ← skipIf .blockEnd then return []
    expect .key
    let stops := [.key, .value, .blockEnd]
    let key ← unlessAt stops (readNode handles steps true true)
    let value ←
      if ← skipIf .value then unlessAt stops (readNode handles steps true true)
      else pure .missing
    return (key, value) :: (← readPairs handles steps)

/-- The items of a list in brackets; a key mark begins a mapping of one pair. When nothing follows
the mark, the token that shows it is passed over. -/
def readFlowItems (handles : Handles) : Nat → (first : Bool) → TreeReader (List Node)
  | 0, _ => failure
  | steps + 1, first => do
    if ← skipIf .flowSequenceEnd then return []
    unless first do expect .flowEntry
    if ← skipIf .flowSequenceEnd then return []
    let item ←
      if ← skipIf .key then
        let key ←
          if [.value, .flowEntry, .flowSequenceEnd].contains (← peek) then
            advance
            pure .missing
          else readNode handles steps false false
        let value ← readFlowValue handles steps .flowSequenceEnd
        pure (.mapping none [(key, value)])
      else readNode handles steps false false
    return item :: (← readFlowItems handles steps false)

def readFlowPairs (handles : Handles) : Nat → (first : Bool) → TreeReader (List (Node × Node))
  | 0, _ => failure
  | steps + 1, first => do
    if ← skipIf .flowMappingEnd then return []
    unless first do expect .flowEntry
    if ← skipIf .flowMappingEnd then return []
    let pair ←
      if ← skipIf .key then
        let key ←
          unlessAt [.value, .flowEntry, .flowMappingEnd] (readNode handles steps false false)
        pure (key, ← readFlowValue handles steps .flowMappingEnd)
      else pure (← readNode handles steps false false, .missing)
    return pair :: (← readFlowPairs handles steps false)

/-- The value of a pair inside brackets that end with this token. -/
def readFlowValue (handles : Handles) : Nat → (closing : Token) → TreeReader Node
  | 0, _ => failure
  | steps + 1, closing => do
    if ← skipIf .value then
      unlessAt [.flowEntry, closing] (readNode handles steps false false)
    else return .missing

end

/-- The document itself: nothing may stand behind it but end marks. -/
def readDocument (handles : Handles) (steps : Nat) (explicit : Bool) : TreeReader Node := do
  let root ←
    if explicit then unlessAt [.documentEnd, .streamEnd] (readNode handles steps true false)
    else readNode handles steps true false
  match (← get).tokens.dropWhile (· == .documentEnd) with
  | [.streamEnd] => return root
  | _ => failure

end TreeReader

def standardHandles : Handles :=
  [("!".toList, "!".toList), ("!!".toList, "tag:yaml.org,2002:".toList)]

/-- Reads the directives before a document: one version at most, 1.1 or 1.2, and each handle
once. -/
def readDirectives (versionSeen : Bool) (handles : Handles) :
    List Token → Option (Handles × List Token)
  | .version major minor :: rest =>
    if versionSeen || major != 1 || (minor != 1 && minor != 2) then none
    else readDirectives true handles rest
  | .tagDirective handle start :: rest =>
    if (handles.lookup handle).isSome then none
    else readDirectives versionSeen ((handle, start) :: handles) rest
  | rest => some (handles ++ standardHandles, rest)

/-- The root of the document that tokens form. Directives need a document mark behind them. -/
def rootOf? (tokens : List Token) : Option Node := do
  let (handles, rest) ← readDirectives false [] tokens
  let read := fun (explicit : Bool) (tokens : List Token) =>
    (TreeReader.readDocument handles (2 * tokens.length + 4) explicit).run' ⟨tokens, []⟩
  match rest with
  | .documentStart :: body => read true body
  | [.streamEnd] => if rest.length = tokens.length then some .missing else none
  | _ => if rest.length = tokens.length then read false rest else none

structure Document where
  root : Node
  /-- The nodes with an anchor's number, in the order in which they begin. -/
  anchored : List (Nat × Node)

namespace Document

def ofText? (s : Text) : Option Document := do
  let root ← rootOf? (← tokens? s)
  return ⟨root, root.preorder.filterMap fun node => node.anchor?.map (·, node)⟩

def node? (document : Document) (anchor : Nat) : Option Node :=
  document.anchored.reverse.lookup anchor

/-- How many aliases may be followed while reading: a hundred for each mark. -/
def followLimit (document : Document) : Nat :=
  100 * document.root.preorder.foldl (fun marks node => marks + node.marks) 0

end Document
end Yaml
end InstanceCatalog
