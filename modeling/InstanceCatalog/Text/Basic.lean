namespace InstanceCatalog

abbrev Text := List Char

namespace Text

/-- Whether `needle` occurs in the text as a run of consecutive characters. -/
def occursIn (needle : Text) : Text → Bool
  | [] => needle.isEmpty
  | c :: rest => needle.isPrefixOf (c :: rest) || occursIn needle rest

def dropEndWhile (p : Char → Bool) (s : Text) : Text :=
  (s.reverse.dropWhile p).reverse

/-- Drops the characters that satisfy `p` from both ends. -/
def strip (p : Char → Bool) (s : Text) : Text :=
  dropEndWhile p (s.dropWhile p)

def digitValue (c : Char) : Nat := c.toNat - 48

def decimalValue (digits : Text) : Nat :=
  digits.foldl (fun value c => 10 * value + digitValue c) 0

def ofNat (n : Nat) : Text := Nat.toDigits 10 n

/-- Equality of texts in which `A` to `Z` count as `a` to `z`. -/
def equalsIgnoringAsciiCase (s t : Text) : Bool :=
  s.map Char.toLower == t.map Char.toLower

/-- Byte order of the UTF-8 forms, which is the order of the code points. -/
def precedes : Text → Text → Bool
  | [], [] => false
  | [], _ :: _ => true
  | _ :: _, [] => false
  | c :: s, d :: t => if c = d then precedes s t else c.toNat < d.toNat

/-- A sorted list with `s` added, without a second copy of it. -/
def insertSorted (s : Text) : List Text → List Text
  | [] => [s]
  | t :: ts =>
    if s = t then t :: ts
    else if precedes s t then s :: t :: ts
    else t :: insertSorted s ts

theorem mem_insertSorted (a s : Text) (ts : List Text) :
    a ∈ insertSorted s ts ↔ a = s ∨ a ∈ ts := by
  induction ts with
  | nil => simp [insertSorted]
  | cons t ts ih =>
    simp only [insertSorted]
    split
    · next h => simp [h]
    · split
      · simp
      · simp only [List.mem_cons, ih]
        exact or_left_comm

def sortedSet (texts : List Text) : List Text :=
  texts.foldr insertSorted []

theorem mem_sortedSet (a : Text) (texts : List Text) : a ∈ sortedSet texts ↔ a ∈ texts := by
  induction texts with
  | nil => simp [sortedSet]
  | cons s rest ih =>
    simp only [sortedSet, List.foldr_cons, mem_insertSorted, List.mem_cons] at ih ⊢
    exact or_congr_right ih

end Text
end InstanceCatalog
