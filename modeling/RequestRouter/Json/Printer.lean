import RequestRouter.Json.Basic

/-!
# Writing JSON

Values are written without blanks, members in the order of their keys.

* `Json.render`: the text of a value.
-/

namespace RequestRouter

namespace JsonNumber

/-- The digits of a fraction without the zeros at its end, and the power of ten that goes with
them. `fuel` bounds the number of zeros. -/
def trim : Nat → Nat → Int → Nat × Int
  | 0, digits, exponent => (digits, exponent)
  | fuel + 1, digits, exponent =>
    if digits ≠ 0 ∧ digits % 10 = 0 then trim fuel (digits / 10) (exponent + 1)
    else (digits, exponent)

/-- Decimal digits with a point, or with a power of ten where the number is below a hundred
thousandth or from ten to the sixteenth on. -/
def renderDecimal (digits : Nat) (exponent : Int) : String :=
  let (digits, exponent) := trim (toString digits).length digits exponent
  if digits = 0 then "0.0"
  else
    let text := toString digits
    let length : Int := text.length
    let point := length + exponent
    if 0 ≤ exponent ∧ point ≤ 16 then
      text ++ .ofList (List.replicate exponent.toNat '0') ++ ".0"
    else if 0 < point ∧ point ≤ 16 then
      .ofList (text.toList.take point.toNat) ++ "." ++ .ofList (text.toList.drop point.toNat)
    else if -5 < point ∧ point ≤ 0 then
      "0." ++ .ofList (List.replicate (-point).toNat '0') ++ text
    else
      let mantissa := match text.toList with
        | d :: [] => String.ofList [d]
        | d :: rest => .ofList (d :: '.' :: rest)
        | [] => ""
      mantissa ++ "e" ++ toString (point - 1)

/-- The text of a number. A double always shows that it is one. -/
def render : JsonNumber → String
  | integer value => toString value
  | double negative size =>
    (if negative then "-" else "") ++ renderDecimal size.shortest.1 size.shortest.2

end JsonNumber

namespace Json

/-- One character of a string: quotes, backslashes and controls are escaped. -/
def renderChar (c : Char) : List Char :=
  if c = '"' then ['\\', '"']
  else if c = '\\' then ['\\', '\\']
  else if c = '\n' then ['\\', 'n']
  else if c = '\r' then ['\\', 'r']
  else if c = '\t' then ['\\', 't']
  else if c = '\x08' then ['\\', 'b']
  else if c = '\x0c' then ['\\', 'f']
  else if c.toNat < 32 then
    ['\\', 'u', '0', '0', Nat.digitChar (c.toNat / 16), Nat.digitChar (c.toNat % 16)]
  else [c]

/-- The text of a string. -/
def renderString (text : String) : String :=
  .ofList ('"' :: text.toList.flatMap renderChar ++ ['"'])

mutual

/-- The text of a value. -/
def render : Json → String
  | null => "null"
  | bool true => "true"
  | bool false => "false"
  | number value => value.render
  | string value => renderString value
  | array elements => "[" ++ ",".intercalate (renderElements elements) ++ "]"
  | object members => "\x7b" ++ ",".intercalate (renderMembers members) ++ "\x7d"

/-- The texts of several values. -/
def renderElements : List Json → List String
  | [] => []
  | v :: rest => v.render :: renderElements rest

/-- The texts of several members. -/
def renderMembers : List (String × Json) → List String
  | [] => []
  | (k, v) :: rest => (renderString k ++ ":" ++ v.render) :: renderMembers rest

end

end Json

end RequestRouter
