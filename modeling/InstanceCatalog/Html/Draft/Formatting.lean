import InstanceCatalog.Html.Draft.Insert

namespace InstanceCatalog
namespace Html
namespace Draft

/-- The formatting elements of the innermost scope, the newest first. -/
def scopeEntries (entries : List FormatEntry) : List (Nat × Tag) :=
  (entries.takeWhile (· != .marker)).filterMap fun
    | .element id tag => some (id, tag)
    | .marker => none

def isEntryFor (id : Nat) : FormatEntry → Bool
  | .element other _ => other == id
  | .marker => false

def dropEntry (d : Draft) (id : Nat) : Draft :=
  { d with formatting := d.formatting.eraseP (isEntryFor id) }

def isFormatting (d : Draft) (id : Nat) : Bool := d.formatting.any (isEntryFor id)

def entryTag? (d : Draft) (id : Nat) : Option Tag :=
  d.formatting.findSome? fun
    | .element other tag => if other = id then some tag else none
    | .marker => none

def replaceEntry (d : Draft) (id : Nat) (entry : FormatEntry) : Draft :=
  { d with formatting := d.formatting.map fun e => if isEntryFor id e then entry else e }

def addEntryAfter (d : Draft) (id : Nat) (entry : FormatEntry) : Draft :=
  { d with formatting :=
      d.formatting.flatMap fun e => if isEntryFor id e then [entry, e] else [e] }

/-- Whether nothing before this entry needs to be opened again. -/
def isSettled (d : Draft) : FormatEntry → Bool
  | .marker => true
  | .element id _ => d.stack.contains id

def reopen (d : Draft) : List FormatEntry → Draft
  | [] => d
  | .marker :: rest => reopen d rest
  | .element id tag :: rest =>
    let (d, new) := d.insertNew .html tag.name
    reopen (d.replaceEntry id (.element new tag)) rest

/-- Opens the formatting elements that a closed parent has closed. -/
def reconstruct (d : Draft) : Draft :=
  d.reopen (d.formatting.takeWhile (!d.isSettled ·)).reverse

/-- Opens a formatting element. Of four alike in one scope the oldest is dropped. -/
def openFormatting (d : Draft) (tag : Tag) : Draft :=
  let alike := (scopeEntries d.formatting).filter (tag.alike ·.2)
  let d := match alike.getLast? with
    | some (oldest, _) => if 3 ≤ alike.length then d.dropEntry oldest else d
    | none => d
  let (d, id) := d.insertNew .html tag.name
  { d with formatting := .element id tag :: d.formatting }

/-- Closes the innermost HTML element of a name, unless a special element stands inside it. -/
def closeAny (d : Draft) (name : String) : Draft :=
  let stop := fun id => d.isNamed id [name] || d.isNamed id specials
  match d.stack.dropWhile (!stop ·) with
  | [] => d
  | id :: outer =>
    if d.isNamed id [name] then { d with stack := outer } else d

/-- What the walk from the furthest block up to a formatting element has done. -/
structure Rewrapped where
  draft : Draft
  /-- The elements that stay open, the innermost first. -/
  kept : List Nat
  last : Nat
  /-- The copy after which the new formatting element is entered, if there is one. -/
  bookmark : Option Nat

/-- Walks outwards over the open elements between: up to three formatting elements are copied
around the content, all others are closed. -/
def rewrap (furthest : Nat) (walked : Nat) (r : Rewrapped) : List Nat → Rewrapped
  | [] => r
  | id :: outer =>
    match r.draft.entryTag? id with
    | none => rewrap furthest (walked + 1) r outer
    | some tag =>
      if 3 ≤ walked then
        rewrap furthest (walked + 1) { r with draft := r.draft.dropEntry id } outer
      else
        let (d, copy) := r.draft.make .html tag.name
        let d := d.replaceEntry id (.element copy tag)
        let d := d.append copy r.last
        rewrap furthest (walked + 1)
          { draft := d
            kept := r.kept ++ [copy]
            last := copy
            bookmark := if r.last = furthest then some copy else r.bookmark } outer

/-- What is left to do after one round of closing a formatting element. -/
inductive Adoption
  | finished (d : Draft)
  | again (d : Draft)

/-- The formatting element is open and a special element stands inside it: the content moves out
of it and a copy of it moves into the special element. -/
def adopt (d : Draft) (id : Nat) (tag : Tag) (inner : List Nat) (furthest : Nat)
    (between outer : List Nat) : Draft :=
  let r := rewrap furthest 0 ⟨d, [], furthest, none⟩ between
  let target := outer.headD root
  let d := r.draft.detach r.last
  let d := d.put (d.placeIn target) r.last
  let (d, copy) := d.make .html tag.name
  let d := (d.moveChildren furthest copy).append furthest copy
  let d := match r.bookmark with
    | none => d.replaceEntry id (.element copy tag)
    | some mark => (d.addEntryAfter mark (.element copy tag)).dropEntry id
  { d with stack := inner ++ [copy, furthest] ++ r.kept ++ outer }

def adoptRound (d : Draft) (name : String) : Adoption :=
  match (scopeEntries d.formatting).find? (·.2.name == name) with
  | none => .finished (d.closeAny name)
  | some (id, tag) =>
    if !d.stack.contains id then .finished (d.dropEntry id)
    else if !d.inScopeWhere .standard (· == id) then .finished d
    else
      let above := d.stack.takeWhile (· != id)
      let outer := (d.stack.dropWhile (· != id)).drop 1
      let beforeSpecial := above.reverse.takeWhile (!d.isNamed · specials)
      match above.reverse.dropWhile (!d.isNamed · specials) with
      | [] => .finished { d.dropEntry id with stack := outer }
      | furthest :: innerReversed =>
        .again (d.adopt id tag innerReversed.reverse furthest beforeSpecial.reverse outer)

def adoptRounds (name : String) : Nat → Draft → Draft
  | 0, d => d
  | rounds + 1, d =>
    match d.adoptRound name with
    | .finished d => d
    | .again d => adoptRounds name rounds d

def closeFormatting (d : Draft) (name : String) : Draft :=
  match d.current? with
  | some id =>
    if d.isNamed id [name] && !d.isFormatting id then d.pop else adoptRounds name 8 d
  | none => adoptRounds name 8 d

/-- A link inside a link ends the outer one. -/
def closeOpenLink (d : Draft) : Draft :=
  match (scopeEntries d.formatting).find? (d.isNamed ·.1 ["a"]) with
  | none => d
  | some (id, _) => ((d.closeFormatting "a").dropEntry id).closeElement id

end Draft
end Html
end InstanceCatalog
