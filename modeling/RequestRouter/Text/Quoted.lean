import RequestRouter.Unicode.Additions

/-!
# Quoted text

A text in double quotes, as it appears in messages and reports. Quotes, backslashes and everything
that would not show on its own are escaped; all else stands as it is.

* `quote`: a text in quotes.
-/

namespace RequestRouter.Text

/-- Whether a character stands as it is. The space does, and ASCII needs no table. -/
def isVisible (c : Char) : Bool :=
  if c.toNat < 127 then 32 ≤ c.toNat else !Unicode.isHidden c

/-- The lower-case hexadecimal digits of a character's number. -/
def hexDigits (c : Char) : List Char :=
  Nat.toDigits 16 c.toNat

/-- One character inside quotes. -/
def quoteChar (c : Char) : List Char :=
  if c = '\x00' then ['\\', '0']
  else if c = '\t' then ['\\', 't']
  else if c = '\r' then ['\\', 'r']
  else if c = '\n' then ['\\', 'n']
  else if c = '\\' ∨ c = '"' then ['\\', c]
  else if isVisible c then [c]
  else ['\\', 'u', '{'] ++ hexDigits c ++ ['}']

/-- A text in quotes. -/
def quote (text : String) : String :=
  .ofList ('"' :: text.toList.flatMap quoteChar ++ ['"'])

end RequestRouter.Text
