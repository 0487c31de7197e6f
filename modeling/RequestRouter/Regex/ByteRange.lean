import RequestRouter.Regex.CharSet

/-!
# Character sets by bytes

A text that is read byte by byte gives a character of a set away in up to four steps. The characters
of a range have encodings that are told by a few rows of byte ranges: a character belongs to the
range when its bytes are, one by one, in the ranges of a row.

* `ByteRange.rows`: the rows of a range of numbers with a fixed count of continuation bytes.
* `CharSet.byteRows`: the rows of a set, in ascending order.
-/

namespace RequestRouter.Regex

/-- The values from `lo` to `hi` that one byte may have. -/
structure ByteRange where
  lo : Nat
  hi : Nat
deriving DecidableEq, Repr

namespace ByteRange

/-- A continuation byte of any value. -/
def continuation : ByteRange := ⟨0x80, 0xBF⟩

/-- The rows of the numbers from `lo` to `hi`, which are written as one leading byte, counted from
`mark`, and `count` continuation bytes of six bits each. Where the leading bytes of `lo` and `hi`
differ, the numbers between that run through all continuations make one row. -/
def rows (mark : Nat) : Nat → Nat → Nat → List (List ByteRange)
  | 0, lo, hi => [[⟨mark + lo, mark + hi⟩]]
  | count + 1, lo, hi =>
    let unit := Nat.pow 64 (count + 1)
    let (first, low) := (lo / unit, lo % unit)
    let (last, high) := (hi / unit, hi % unit)
    let under (lead lo hi : Nat) : List (List ByteRange) :=
      (rows 0x80 count lo hi).map (⟨mark + lead, mark + lead⟩ :: ·)
    if first = last then under first low high
    else
      let start := if low = 0 then first else first + 1
      let stop := if high = unit - 1 then last + 1 else last
      (if low = 0 then [] else under first low (unit - 1)) ++
        (if start < stop then
          [⟨mark + start, mark + stop - 1⟩ :: List.replicate (count + 1) continuation] else []) ++
        (if high = unit - 1 then [] else under last 0 high)

/-- The lengths of encodings: the numbers with an encoding of one to four bytes, the mark of the
leading byte, and the count of bytes after it. Surrogates have no encoding. -/
def lengths : List (Nat × Nat × Nat × Nat) :=
  [(0, 0x7F, 0, 0), (0x80, 0x7FF, 0xC0, 1), (0x800, 0xD7FF, 0xE0, 2),
   (0xE000, 0xFFFF, 0xE0, 2), (0x10000, 0x10FFFF, 0xF0, 3)]

end ByteRange

/-- The rows of a set in ascending order. -/
def CharSet.byteRows (set : CharSet) : List (List ByteRange) :=
  set.ranges.flatMap fun (lo, hi) =>
    ByteRange.lengths.flatMap fun (least, greatest, mark, count) =>
      let (lo, hi) := (Nat.max lo least, Nat.min hi greatest)
      if lo ≤ hi then ByteRange.rows mark count lo hi else []

end RequestRouter.Regex
