import InstanceCatalog.Text.Basic

namespace InstanceCatalog

abbrev Bytes := List UInt8

namespace Utf8

def byteOrderMark : Bytes := [0xEF, 0xBB, 0xBF]

def encodeChar (c : Char) : Bytes :=
  let n := c.toNat
  if n < 0x80 then [n.toUInt8]
  else if n < 0x800 then [(0xC0 + n / 64).toUInt8, (0x80 + n % 64).toUInt8]
  else if n < 0x10000 then
    [(0xE0 + n / 4096).toUInt8, (0x80 + n / 64 % 64).toUInt8, (0x80 + n % 64).toUInt8]
  else
    [(0xF0 + n / 262144).toUInt8, (0x80 + n / 4096 % 64).toUInt8, (0x80 + n / 64 % 64).toUInt8,
      (0x80 + n % 64).toUInt8]

def encode (s : Text) : Bytes := s.flatMap encodeChar

def isContinuation (b : UInt8) : Bool := 0x80 ≤ b.toNat && b.toNat < 0xC0

/-- The character with code `n`, if `n` is a character that needs at least `least` as its code. -/
def charAbove (least n : Nat) : Option Char :=
  if h : n.isValidChar ∧ least ≤ n then some (Char.ofNatAux n h.1) else none

def decodeChar : Bytes → Option (Char × Bytes)
  | [] => none
  | a :: rest =>
    let n := a.toNat
    if n < 0x80 then (charAbove 0 n).map (·, rest)
    else if n < 0xC0 then none
    else match rest with
      | [] => none
      | b :: rest =>
        let m := b.toNat % 64
        if !isContinuation b then none
        else if n < 0xE0 then (charAbove 0x80 (n % 32 * 64 + m)).map (·, rest)
        else match rest with
          | [] => none
          | c :: rest =>
            let l := c.toNat % 64
            if !isContinuation c then none
            else if n < 0xF0 then (charAbove 0x800 ((n % 16 * 64 + m) * 64 + l)).map (·, rest)
            else match rest with
              | [] => none
              | d :: rest =>
                let k := d.toNat % 64
                if isContinuation d && n < 0xF8 then
                  (charAbove 0x10000 (((n % 8 * 64 + m) * 64 + l) * 64 + k)).map (·, rest)
                else none

/-- Decodes with one step for each byte, which is enough because every character has one. -/
def decodeWithin : Nat → Bytes → Option Text
  | _, [] => some []
  | 0, _ :: _ => none
  | fuel + 1, bytes => do
    let (c, rest) ← decodeChar bytes
    let text ← decodeWithin fuel rest
    return c :: text

/-- The text that well-formed bytes encode; overlong forms and surrogates are refused. -/
def decode (bytes : Bytes) : Option Text := decodeWithin bytes.length bytes

end Utf8
end InstanceCatalog
