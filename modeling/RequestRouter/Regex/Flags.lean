/-!
# Flags

Flags change how the rest of the group they stand in is read.

* `Flags.set`: one flag switched on or off.
* `Flags.change`: several, in order.
-/

namespace RequestRouter.Regex

/-- What can be switched. -/
inductive Flag where
  /-- Letters match in either case. -/
  | ignoreCase
  /-- The line anchors match at every line. -/
  | multiLine
  /-- The dot matches line feeds too. -/
  | dotAll
  /-- Repetition is lazy unless marked. -/
  | swapGreed
  /-- Classes and case are those of all characters, not of ASCII alone. -/
  | unicode
  /-- A carriage return ends a line too. -/
  | crlf
  /-- Blanks and comments in the pattern are skipped. -/
  | verbose
deriving DecidableEq, Repr

/-- The letter that stands for a flag. -/
def Flag.ofChar? : Char → Option Flag
  | 'i' => some .ignoreCase
  | 'm' => some .multiLine
  | 's' => some .dotAll
  | 'U' => some .swapGreed
  | 'u' => some .unicode
  | 'R' => some .crlf
  | 'x' => some .verbose
  | _ => none

/-- The flags in force at a place of a pattern. -/
structure Flags where
  ignoreCase : Bool
  multiLine : Bool
  dotAll : Bool
  swapGreed : Bool
  unicode : Bool
  crlf : Bool
  verbose : Bool
deriving DecidableEq, Repr

namespace Flags

/-- The flags in force where a pattern starts. -/
def initial : Flags := ⟨false, false, false, false, true, false, false⟩

/-- The flags with one of them switched. -/
def set (flags : Flags) (flag : Flag) (on : Bool) : Flags :=
  match flag with
  | .ignoreCase => { flags with ignoreCase := on }
  | .multiLine => { flags with multiLine := on }
  | .dotAll => { flags with dotAll := on }
  | .swapGreed => { flags with swapGreed := on }
  | .unicode => { flags with unicode := on }
  | .crlf => { flags with crlf := on }
  | .verbose => { flags with verbose := on }

/-- The flags after several switches. -/
def change (flags : Flags) (switches : List (Flag × Bool)) : Flags :=
  switches.foldl (fun acc s => acc.set s.1 s.2) flags

end Flags

end RequestRouter.Regex
