import InstanceCatalog.Number.Binary64

namespace InstanceCatalog

attribute [local instance (high)] instPowNat

namespace Binary64

/-- The number `d * 10 ^ exponent`. Far outside the range no power is computed. -/
def ofDecimalScaled (d : Decimal) (exponent : Int) : Binary64 :=
  let scale := exponent - d.places
  let length : Int := (Nat.toDigits 10 d.digits).length
  if d.digits = 0 then zero
  else if 400 < length + scale then infinite false
  else if length + scale < -400 then zero
  else ofRatio (d.digits * 10 ^ scale.toNat) (10 ^ (-scale).toNat)

def readExponent? (s : Text) : Option Int :=
  let digits? := fun digits : Text =>
    if digits.isEmpty || !digits.all Char.isDigit then none
    else some (Text.decimalValue digits : Int)
  match s with
  | '-' :: rest => (digits? rest).map (- ·)
  | '+' :: rest => digits? rest
  | _ => digits? s

def readMagnitude? (s : Text) : Option Binary64 :=
  let lower := s.map Char.toLower
  if lower = "inf".toList || lower = "infinity".toList then some (infinite false)
  else if lower = "nan".toList then some nan
  else
    let isMark := fun c : Char => c = 'e' || c = 'E'
    match s.dropWhile (!isMark ·) with
    | [] => (Decimal.read? s).map ofDecimal
    | _ :: exponent => do
      let d ← Decimal.read? (s.takeWhile (!isMark ·))
      let e ← readExponent? exponent
      return ofDecimalScaled d e

/-- Reads a numeral with an optional sign and exponent. -/
def read? (s : Text) : Option Binary64 :=
  match s with
  | '-' :: rest => (readMagnitude? rest).map negate
  | '+' :: rest => readMagnitude? rest
  | _ => readMagnitude? s

end Binary64
end InstanceCatalog
