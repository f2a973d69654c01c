import InstanceCatalog.Number.Count
import InstanceCatalog.Number.Decimal

/-!
Binary floating point numbers of 64 bits as exact values: a finite number is a mantissa below
`2 ^ 53` times a power of two. Every operation computes with natural numbers and rounds once, to
the nearest representable number, a half going to the even mantissa.
-/

namespace InstanceCatalog

attribute [local instance (high)] instPowNat

inductive Binary64
  | nan
  | infinite (negative : Bool)
  | finite (negative : Bool) (mantissa : Nat) (exponent : Int)
deriving DecidableEq, Repr

/-- The quotient rounded to the nearest integer, a half to the even one. -/
def roundDiv (num den : Nat) : Nat :=
  let quotient := num / den
  let twice := 2 * (num % den)
  if twice < den then quotient
  else if den < twice then quotient + 1
  else quotient + quotient % 2

/-- The greatest `e` with `2 ^ e ≤ num / den`, for positive `num` and `den`. -/
def floorLog2 (num den : Nat) : Int :=
  let e : Int := (num.log2 : Int) - den.log2
  if den * 2 ^ e.toNat ≤ num * 2 ^ (-e).toNat then e else e - 1

namespace Binary64

def leastExponent : Int := -1074
def greatestExponent : Int := 971

def zero : Binary64 := finite false 0 leastExponent

/-- A mantissa that rounding has carried to `2 ^ 53` moves to the next exponent; an exponent
beyond the greatest is an infinity. -/
def normalize (mantissa : Nat) (exponent : Int) : Binary64 :=
  let (m, e) :=
    if mantissa = 2 ^ (53 : Nat) then (2 ^ (52 : Nat), exponent + 1) else (mantissa, exponent)
  if greatestExponent < e then infinite false else finite false m e

/-- The representable number nearest to `num / den`. -/
def ofRatio (num den : Nat) : Binary64 :=
  if num = 0 then zero
  else
    let e := max (floorLog2 num den - 52) leastExponent
    normalize (roundDiv (num * 2 ^ (-e).toNat) (den * 2 ^ e.toNat)) e

def ofNat (n : Nat) : Binary64 := ofRatio n 1

def ofDecimal (d : Decimal) : Binary64 := ofRatio d.digits (10 ^ d.places)

def isFinite : Binary64 → Bool
  | finite .. => true
  | _ => false

def negate : Binary64 → Binary64
  | nan => nan
  | infinite negative => infinite !negative
  | finite negative m e => finite (!negative) m e

/-- The product with a positive natural number, rounded once. -/
def timesNat (x : Binary64) (k : Nat) : Binary64 :=
  match x with
  | nan => nan
  | infinite negative => infinite negative
  | finite negative m e =>
    let product := ofRatio (m * k * 2 ^ e.toNat) (2 ^ (-e).toNat)
    if negative then product.negate else product

/-- The integer part of a positive number, cut off at the greatest count; everything that is not
a positive number counts as zero. -/
def truncate : Binary64 → Nat
  | finite false m e => min (m * 2 ^ e.toNat / 2 ^ (-e).toNat) greatestCount
  | _ => 0

end Binary64
end InstanceCatalog
