import InstanceCatalog.Number.Binary64

namespace InstanceCatalog

attribute [local instance (high)] instPowNat

namespace Binary64

def decimalLength (n : Nat) : Nat := (Nat.toDigits 10 n).length

/-- The least `k` with `num / den < 10 ^ k`. -/
def decimalMagnitude (num den : Nat) : Int :=
  if den ≤ num then decimalLength (num / den) else 1 - (decimalLength ((den - 1) / num) : Int)

def ofScaled (digits : Nat) (scale : Int) : Binary64 :=
  ofRatio (digits * 10 ^ scale.toNat) (10 ^ (-scale).toNat)

/-- The one of the two multiples of `10 ^ scale` around `num / den` that reads back as `x`, the
nearer one if both do. -/
def neighbour? (x : Binary64) (num den : Nat) (scale : Int) : Option Nat :=
  let n := num * 10 ^ (-scale).toNat
  let d := den * 10 ^ scale.toNat
  let below := n / d
  let readsBack := fun digits : Nat => ofScaled digits scale == x
  if readsBack below && readsBack (below + 1) then
    some (if 2 * (n % d) < d then below else below + 1)
  else if readsBack below then some below
  else if readsBack (below + 1) then some (below + 1)
  else none

/-- Tries `count` digits, then one more, up to 17 digits, which always read back. -/
def shortestFrom (x : Binary64) (num den : Nat) (magnitude : Int) : Nat → Nat → Nat × Int
  | 0, _ => (0, 0)
  | tries + 1, count =>
    let scale := magnitude - count
    match neighbour? x num den scale with
    | some digits => (digits, scale)
    | none => shortestFrom x num den magnitude tries (count + 1)

/-- Digits and scale of the shortest decimal of the positive number `m * 2 ^ e`. -/
def shortest (m : Nat) (e : Int) : Nat × Int :=
  let num := m * 2 ^ e.toNat
  let den := 2 ^ (-e).toNat
  shortestFrom (finite false m e) num den (decimalMagnitude num den) 17 1

/-- Digits with a point after the first `position` of them, and at least one on either side. -/
def positional (digits : Text) (position : Int) : Text :=
  if position ≤ 0 then
    "0.".toList ++ List.replicate (-position).toNat '0' ++ digits
  else if digits.length ≤ position.toNat then
    digits ++ List.replicate (position.toNat - digits.length) '0' ++ ".0".toList
  else digits.take position.toNat ++ '.' :: digits.drop position.toNat

/-- Digits in scientific notation, with a point only if it has digits after it. -/
def scientific (digits : Text) (position : Int) : Text :=
  let exponent := position - 1
  let sign := if exponent < 0 then ['-'] else []
  let fraction := if digits.length ≤ 1 then [] else '.' :: digits.drop 1
  digits.take 1 ++ fraction ++ 'e' :: sign ++ Text.ofNat exponent.natAbs

/-- Numbers from `10 ^ -4` to below `10 ^ 16` are written with all their places, others in
scientific notation. -/
def magnitudeText (m : Nat) (e : Int) : Text :=
  if m = 0 then "0.0".toList
  else
    let (number, scale) := shortest m e
    let allDigits := Text.ofNat number
    let digits := Text.dropEndWhile (· == '0') allDigits
    let position := allDigits.length + scale
    if -3 ≤ position && position ≤ 16 then positional digits position
    else scientific digits position

def toText : Binary64 → Text
  | nan => "NaN".toList
  | infinite negative => (if negative then ['-'] else []) ++ "inf".toList
  | finite negative m e => (if negative then ['-'] else []) ++ magnitudeText m e

end Binary64
end InstanceCatalog
