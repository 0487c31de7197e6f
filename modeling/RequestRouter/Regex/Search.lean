import RequestRouter.Regex.Program

/-!
# Running a program

A search follows the threads of a program depth first, in order of preference, and enters no pair of
address and position twice: what failed once fails again, whatever was captured on the way. So it
takes no more rounds than there are pairs.

* `Program.run`: the search itself.
* `Program.search`: the slots of the preferred match among those that start earliest.
-/

namespace RequestRouter.Regex

/-- The positions noted on the way, latest first. -/
abbrev Slots := List (Nat × Nat)

/-- A place in a program and in a text. -/
structure Thread where
  address : Nat
  position : Nat
  slots : Slots
deriving DecidableEq, Repr

/-- The pairs of address and position that a search has entered: a row for every position, in which
each number has a bit for each of a block of addresses. A row is as long as it has to be. -/
structure Entered where
  rows : Array (Array Nat)
deriving DecidableEq, Repr

namespace Entered

/-- The number of addresses in a block. -/
def block : Nat := 1024

/-- No pair, for positions up to the length of a text. -/
def none (length : Nat) : Entered := ⟨Array.replicate (length + 1) #[]⟩

/-- Whether a pair has been entered. -/
def contains (entered : Entered) (address position : Nat) : Bool :=
  match entered.rows[position]? with
  | some row => (row[address / block]?.getD 0).testBit (address % block)
  | .none => false

/-- A row with an address. -/
def extend (address : Nat) (row : Array Nat) : Array Nat :=
  let long := if address / block < row.size then row
    else row ++ Array.replicate (address / block + 1 - row.size) 0
  long.modify (address / block) fun bits => bits ||| (1 <<< (address % block))

/-- The pairs after entering one more. -/
def insert (entered : Entered) (address position : Nat) : Entered :=
  ⟨entered.rows.modify position (extend address)⟩

end Entered

namespace Program

/-- The threads that go on from a thread, in order of preference. -/
def successors (program : Program) (text : Array Char) (t : Thread) : List Thread :=
  match program[t.address]? with
  | some (.char expected next) =>
    if text[t.position]? = some expected then [⟨next, t.position + 1, t.slots⟩] else []
  | some (.one set next) =>
    match text[t.position]? with
    | some c => if set.contains c then [⟨next, t.position + 1, t.slots⟩] else []
    | none => []
  | some (.assert a next) =>
    if a.holds text t.position then [⟨next, t.position, t.slots⟩] else []
  | some (.save slot next) => [⟨next, t.position, (slot, t.position) :: t.slots⟩]
  | some (.split first second) =>
    [⟨first, t.position, t.slots⟩, ⟨second, t.position, t.slots⟩]
  | some (.jump next) => [⟨next, t.position, t.slots⟩]
  | some .accept => []
  | none => []

/-- Whether a thread has arrived. -/
def accepts (program : Program) (t : Thread) : Bool :=
  match program[t.address]? with
  | some .accept => true
  | _ => false

/-- Follows threads depth first, up to `fuel` rounds. -/
def run (program : Program) (text : Array Char) : Nat → List Thread → Entered → Option Slots
  | 0, _, _ => none
  | _ + 1, [], _ => none
  | fuel + 1, t :: rest, entered =>
    if entered.contains t.address t.position then program.run text fuel rest entered
    else if program.accepts t then some t.slots
    else program.run text fuel (program.successors text t ++ rest)
      (entered.insert t.address t.position)

/-- The number of rounds after which every pair has been entered and left. -/
def rounds (program : Program) (text : Array Char) : Nat :=
  (2 * program.size + 1) * (text.size + 1) + 1

/-- The slots of the preferred match that starts earliest. -/
def search (program : Program) (text : Array Char) : Option Slots :=
  program.run text (program.rounds text)
    ((List.range (text.size + 1)).map fun start => ⟨0, start, []⟩) (.none text.size)

end Program

end RequestRouter.Regex
