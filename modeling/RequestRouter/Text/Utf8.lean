/-!
# UTF-8

Texts as bytes, and bytes as texts. Bytes that are no UTF-8 can still be read: whatever can no
longer become a character is replaced.

* `Utf8.encode`: the bytes of a text.
* `Utf8.decodeLossy`: the text of any bytes.
-/

namespace RequestRouter.Text.Utf8

/-- The bytes of a text. -/
def encode (cs : List Char) : List UInt8 :=
  cs.flatMap String.utf8EncodeChar

/-- What stands for bytes that are no character. -/
def replacement : Char := '\ufffd'

/-- A character of several bytes that has begun. -/
structure Pending where
  /-- The bits read so far. -/
  bits : Nat
  /-- How many bytes are to come, less one. -/
  more : Nat
  /-- The least and the greatest byte that may come next. -/
  low : UInt8
  high : UInt8
deriving DecidableEq, Repr

/-- What a first byte beyond ASCII begins. The bounds on the second byte rule out overlong forms,
surrogates and numbers beyond the last code point. -/
def lead? (b : UInt8) : Option Pending :=
  if 0xC2 ≤ b ∧ b ≤ 0xDF then some ⟨b.toNat % 32, 0, 0x80, 0xBF⟩
  else if b = 0xE0 then some ⟨0, 1, 0xA0, 0xBF⟩
  else if b = 0xED then some ⟨13, 1, 0x80, 0x9F⟩
  else if 0xE1 ≤ b ∧ b ≤ 0xEF then some ⟨b.toNat % 16, 1, 0x80, 0xBF⟩
  else if b = 0xF0 then some ⟨0, 2, 0x90, 0xBF⟩
  else if 0xF1 ≤ b ∧ b ≤ 0xF3 then some ⟨b.toNat % 8, 2, 0x80, 0xBF⟩
  else if b = 0xF4 then some ⟨4, 2, 0x80, 0x8F⟩
  else none

/-- A byte where a character may begin: the characters it completes and what it leaves begun. -/
def first (b : UInt8) : List Char × Option Pending :=
  if b < 0x80 then ([.ofNat b.toNat], none)
  else match lead? b with
    | some pending => ([], some pending)
    | none => ([replacement], none)

/-- The byte after a character has begun. One that cannot continue it begins the next character. -/
def continued (pending : Pending) (b : UInt8) : List Char × Option Pending :=
  if pending.low ≤ b ∧ b ≤ pending.high then
    let bits := 64 * pending.bits + b.toNat % 64
    match pending.more with
    | 0 => ([.ofNat bits], none)
    | more + 1 => ([], some ⟨bits, more, 0x80, 0xBF⟩)
  else
    let (cs, next) := first b
    (replacement :: cs, next)

/-- The text of bytes of which the start of a character may already have been read. -/
def decodeFrom : Option Pending → List UInt8 → List Char
  | none, [] => []
  | some _, [] => [replacement]
  | state, b :: rest =>
    let (cs, next) := match state with
      | none => first b
      | some pending => continued pending b
    cs ++ decodeFrom next rest

/-- The text of bytes, with a replacement for each longest run of bytes that begins a character and
does not complete it, and for each byte that begins none. -/
def decodeLossy (bytes : List UInt8) : List Char :=
  decodeFrom none bytes

end RequestRouter.Text.Utf8
