/-!
# Reading scalars

Values of a variable read as a number, a truth value or a character. The whole text has to be one.

* `readNat?`, `readInt?`: numbers within bounds.
* `readBool?`, `readChar?`: truth values and characters.
-/

namespace RequestRouter.Text

/-- The number that decimal digits spell, of which there is at least one. -/
def digitsValue? (cs : List Char) : Option Nat :=
  if cs.isEmpty || !cs.all Char.isDigit then none
  else some (cs.foldl (fun acc c => 10 * acc + (c.toNat - '0'.toNat)) 0)

/-- A number of at most `limit`. It may have a plus sign. -/
def readNat? (limit : Nat) (text : String) : Option Nat :=
  let digits := match text.toList with
    | '+' :: rest => rest
    | cs => cs
  (digitsValue? digits).filter (· ≤ limit)

/-- A number from `-limit - 1` to `limit`. It may have a sign. -/
def readInt? (limit : Nat) (text : String) : Option Int :=
  match text.toList with
  | '-' :: rest => ((digitsValue? rest).filter (· ≤ limit + 1)).map fun n => -(n : Int)
  | '+' :: rest => ((digitsValue? rest).filter (· ≤ limit)).map Int.ofNat
  | cs => ((digitsValue? cs).filter (· ≤ limit)).map Int.ofNat

/-- A truth value, by its English name in lower case. -/
def readBool? (text : String) : Option Bool :=
  if text = "true" then some true
  else if text = "false" then some false
  else none

/-- A text of exactly one character. -/
def readChar? (text : String) : Option Char :=
  match text.toList with
  | [c] => some c
  | _ => none

end RequestRouter.Text
