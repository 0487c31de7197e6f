/-!
# Doubles

A finite double without its sign is a whole number of the smallest step, `2 ^ -1074`. All arithmetic
on it is exact, followed by one rounding.

* `Double.nearest?`: the double nearest to a quotient, the even one of two equally near.
* `Double.ofDecimal?`: the digits of a number, rounded, times or by a power of ten, rounded.
* `Double.shortest`: the fewest digits that round to a double, the nearest of these.
* `roundDiv_near`: a rounded quotient is within half a unit of the exact one.
* `nearest?_of_onGrid?`: digits that stand for a double round to it.
-/

namespace RequestRouter

/-- The size of a finite double. -/
structure Double where
  /-- How many times it is `2 ^ -1074`. -/
  units : Nat
deriving DecidableEq, Repr

namespace Double

/-- How many units make one. -/
def one : Nat := Nat.pow 2 1074

/-- The first number of units that is too large. -/
def limit : Nat := Nat.pow 2 1024 * one

/-- The whole number nearest to a quotient, the even one of two equally near. -/
def roundDiv (num den : Nat) : Nat :=
  if 2 * (num % den) < den ∨ (2 * (num % den) = den ∧ num / den % 2 = 0) then num / den
  else num / den + 1

/-- **Rounding is to the nearest.** A rounded quotient is within half a unit of the exact one. -/
theorem roundDiv_near {num den : Nat} (h : 0 < den) :
    2 * (den * roundDiv num den) ≤ 2 * num + den ∧
      2 * num ≤ 2 * (den * roundDiv num den) + den := by
  have sum := Nat.div_add_mod num den
  have rest := Nat.mod_lt num h
  unfold roundDiv
  split
  · omega
  · rw [Nat.mul_add, Nat.mul_one]
    omega

/-- The double nearest to a quotient of units, unless it is too large. Of numbers of more than 53
bits only multiples of a power of two are doubles. -/
def nearest? (num den : Nat) : Option Double :=
  let spacing := Nat.pow 2 ((num / den).log2 - 52)
  let units := roundDiv num (den * spacing) * spacing
  if units < limit then some ⟨units⟩ else none

/-- The double nearest to a whole number. -/
def ofNat? (n : Nat) : Option Double :=
  nearest? (n * one) 1

/-- The rounded product. -/
def mul? (x y : Double) : Option Double :=
  nearest? (x.units * y.units) one

/-- The rounded quotient. -/
def div? (x y : Double) : Option Double :=
  nearest? (x.units * one) y.units

/-- The largest power of ten in one step. -/
def maxPower : Nat := 308

/-- A double times a power of ten. -/
def scaleUp? (x : Double) (power : Nat) : Option Double :=
  if x.units = 0 then some x
  else if power ≤ maxPower then do x.mul? (← ofNat? (Nat.pow 10 power))
  else none

/-- A double of at most 64 bits before the point divided by a power of ten, in at most two steps:
after two of the largest nothing is left of it. -/
def scaleDown? (x : Double) (power : Nat) : Option Double :=
  if power ≤ maxPower then do x.div? (← ofNat? (Nat.pow 10 power))
  else if power ≤ 2 * maxPower then do
    let y ← x.div? (← ofNat? (Nat.pow 10 maxPower))
    y.div? (← ofNat? (Nat.pow 10 (power - maxPower)))
  else some ⟨0⟩

/-- The double for `digits * 10 ^ exponent`, unless it is too large. The digits, which a word of 64
bits holds, are rounded, and so are the power of ten and the result: the last bit may differ from
that of the nearest double. -/
def ofDecimal? (digits : Nat) (exponent : Int) : Option Double := do
  let x ← ofNat? digits
  if 0 ≤ exponent then x.scaleUp? exponent.toNat else x.scaleDown? (-exponent).toNat

/-! ## Digits -/

/-- No double has a digit beyond this place but those that others before it settle. -/
def places : Nat := 400

/-- Of the two multiples of `10 ^ (power - places)` next to a double, the nearer one that rounds
to it. -/
def onGrid? (x : Double) (power : Nat) : Option Nat :=
  let value := x.units * Nat.pow 10 places
  let step := one * Nat.pow 10 power
  let below := value / step
  let candidates := if roundDiv value step = below then [below, below + 1] else [below + 1, below]
  candidates.find? fun digits => nearest? (digits * step) (Nat.pow 10 places) = some x

/-- Digits that stand for a double round to it. -/
theorem nearest?_of_onGrid? {x : Double} {power digits : Nat} (h : x.onGrid? power = some digits) :
    nearest? (digits * (one * Nat.pow 10 power)) (Nat.pow 10 places) = some x := by
  unfold onGrid? at h
  simpa using List.find?_some h

/-- The fewest digits that round to a double, with their power of ten. Grids are tried from that of
the first digit on; seventeen digits are enough, and all of them stand behind those. -/
def shortest (x : Double) : Nat × Int :=
  let length := (Nat.toDigits 10 (x.units * Nat.pow 10 places / one)).length
  let found := (List.range 17).findSome? fun more =>
    (x.onGrid? (length - 1 - more)).map fun digits =>
      (digits, ((length - 1 - more : Nat) : Int) - places)
  found.getD (x.units * Nat.pow 5 1074, -1074)

end Double

end RequestRouter
