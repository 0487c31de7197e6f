import RequestRouter.Text.Utf8

/-!
# Percent escapes

In a form-encoded text a plus sign is a space, and a percent sign with two hexadecimal digits is a
byte.

* `Percent.decodeBytes`: the bytes with every escape resolved.
* `Percent.decode`: the text that a form-encoded text stands for.
-/

namespace RequestRouter.Text.Percent

/-- The value of a byte that is a hexadecimal digit. -/
def hexValue? (b : UInt8) : Option UInt8 :=
  if 0x30 ≤ b ∧ b ≤ 0x39 then some (b - 0x30)
  else if 0x41 ≤ b ∧ b ≤ 0x46 then some (b - 0x41 + 10)
  else if 0x61 ≤ b ∧ b ≤ 0x66 then some (b - 0x61 + 10)
  else none

/-- The bytes with every escape resolved. A percent sign without two digits after it stays. -/
def decodeBytes : List UInt8 → List UInt8
  | [] => []
  | b :: rest =>
    if b = 0x25 then
      match rest with
      | h :: l :: after =>
        match hexValue? h, hexValue? l with
        | some high, some low => (16 * high + low) :: decodeBytes after
        | _, _ => b :: decodeBytes (h :: l :: after)
      | rest => b :: decodeBytes rest
    else b :: decodeBytes rest

/-- The text that a form-encoded text stands for. -/
def decode (cs : List Char) : List Char :=
  Utf8.decodeLossy
    (decodeBytes ((Utf8.encode cs).map fun b => if b = 0x2B then 0x20 else b))

end RequestRouter.Text.Percent
