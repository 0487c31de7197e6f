import Std.Data.TreeMap.Basic
import RequestRouter.Regex.ByteRange
import RequestRouter.Regex.Pattern
import RequestRouter.Text.Utf8

/-!
# Room

How large a pattern is, is measured by the room of two automata that read a text byte by byte: one
forward, which notes where groups start and end, and one backward, which does not. Counted repetition
is written out. States that have the same ways on are shared as far as they are still remembered.

* `Room.ofSet`: what a set of characters takes.
* `Room.ofWords`: what alternatives that are all texts take.
* `Pattern.room`: what a whole pattern takes in one direction.
* `Pattern.fits`: whether a pattern keeps to a limit in both.
-/

namespace RequestRouter.Regex

/-- The direction in which a text is read. -/
inductive Direction where
  | forward
  | backward
deriving DecidableEq, Repr

/-- What has been built: a number of states, and the bytes that they take beyond their own size. -/
structure Room where
  states : Nat
  extra : Nat
deriving DecidableEq, Repr

namespace Room

/-- The room of one state. -/
def stateSize : Nat := 32

/-- The room of a way on that depends on the next byte, in a state that has several. -/
def rangeSize : Nat := 8

/-- The room of a way on from a state that branches without reading. -/
def linkSize : Nat := 4

/-- The room in bytes. -/
def bytes (room : Room) : Nat := stateSize * room.states + room.extra

/-- More states, and more bytes beyond these. -/
def add (room : Room) (states extra : Nat) : Room :=
  ⟨room.states + states, room.extra + extra⟩

/-- Builds something `n` times over, or until the limit is passed. -/
def replicate (limit : Nat) (build : Room → Room) : Nat → Room → Room
  | 0, room => room
  | n + 1, room => if limit < room.bytes then room else replicate limit build n (build room)

end Room

/-- States by what they do. There is a fixed number of slots, and a state that falls into the slot of
another takes its place. -/
structure Remembered where
  slots : Nat
  states : Std.TreeMap Nat (List Nat × Nat)

namespace Remembered

/-- No state. -/
def none (slots : Nat) : Remembered := ⟨slots, {}⟩

/-- The slot of a list of numbers. The numbers are mixed one by one, modulo `2 ^ 64`. -/
def slot (remembered : Remembered) (key : List Nat) : Nat :=
  let mixed := key.foldl (fun acc n => (acc ^^^ n.toUInt64) * 1099511628211)
    (14695981039346656037 : UInt64)
  mixed.toNat % remembered.slots

/-- The state that does what a key tells. -/
def find? (remembered : Remembered) (key : List Nat) : Option Nat :=
  match remembered.states[remembered.slot key]? with
  | some (known, state) => if known = key then some state else Option.none
  | Option.none => Option.none

/-- One more state. -/
def insert (remembered : Remembered) (key : List Nat) (state : Nat) : Remembered :=
  { remembered with states := remembered.states.insert (remembered.slot key) (key, state) }

end Remembered

/-- The states of a set of characters while it is being built. -/
structure SetRoom where
  room : Room
  remembered : Remembered

namespace SetRoom

/-- The state that does what a key tells, which is built if it is not remembered. -/
def state (built : SetRoom) (key : List Nat) (extra : Nat) : Nat × SetRoom :=
  match built.remembered.find? key with
  | some state => (state, built)
  | none =>
    let state := built.room.states
    (state, ⟨built.room.add 1 extra, built.remembered.insert key state⟩)

/-- The state from which the rows lead on to `goal`. Rows that start with the same range share the
state after it. -/
def forward (goal : Nat) : Nat → List (List ByteRange) → SetRoom → Nat × SetRoom
  | 0, _, built => (goal, built)
  | depth + 1, rows, built =>
    let groups := rows.splitBy fun row other => row.head? == other.head?
    let (ways, built) := groups.foldl (fun (ways, built) group =>
      match group with
      | (range :: _) :: _ =>
        let rests := group.map List.tail
        let (next, built) :=
          if rests.all List.isEmpty then (goal, built) else forward goal depth rests built
        ((range, next) :: ways, built)
      | _ => (ways, built)) (([] : List (ByteRange × Nat)), built)
    built.state (ways.reverse.flatMap fun (range, next) => [range.lo, range.hi, next])
      (Room.rangeSize * ways.length)

/-- The states that lead through a row to `next`, from its end to its start. Rows that start with the
same ranges share them. -/
def backward : List ByteRange → Nat → SetRoom → SetRoom
  | [], _, built => built
  | range :: rest, next, built =>
    let (state, built) := built.state [next, range.lo, range.hi] 0
    backward rest state built

end SetRoom

namespace Room

/-- The room after a set of characters. ASCII takes one state. Other sets are shared from the end of
their rows where they are read forward, and from the start where they are read backward. -/
def ofSet (direction : Direction) (set : CharSet) (room : Room) : Room :=
  let goal := room.add 1 0
  if set.isAscii then goal.add 1 (rangeSize * set.ranges.length)
  else match direction with
    | .forward =>
      (SetRoom.forward room.states 4 set.byteRows ⟨goal, .none 10000⟩).2.room
    | .backward =>
      let rows := set.byteRows
      let start := goal.add 1 (linkSize * rows.length)
      (rows.foldl (fun built row => SetRoom.backward row goal.states built)
        ⟨start, .none 1000⟩).room

/-- Words in the runs between those that have ended. -/
def runs : List (List UInt8) → List (List (List UInt8))
  | [] => [[]]
  | [] :: rest => [] :: runs rest
  | word :: rest =>
    match runs rest with
    | run :: more => (word :: run) :: more
    | [] => [[word]]

/-- The words of a run that start with a byte, without it. -/
def after (byte : UInt8) (run : List (List UInt8)) : List (List UInt8) :=
  run.filterMap fun
    | first :: rest => if first = byte then some rest else none
    | [] => none

/-- The room after the tree of words that have not all ended. A word that ends between others keeps
those before it from sharing states with those after it, since it is preferred to the latter. -/
def tree : Nat → List (List UInt8) → Room → Room
  | 0, _, room => room
  | depth + 1, words, room =>
    let words := match words with
      | [] :: rest => [] :: rest.dropWhile List.isEmpty
      | words => words
    let runs := runs words
    let pending := runs.filter fun run => !run.isEmpty
    let room := pending.foldl (fun room run =>
      let firsts := (run.filterMap List.head?).eraseDups
      let room := firsts.foldl (fun room byte =>
        let rests := after byte run
        if rests.all List.isEmpty then room else tree depth rests room) room
      room.add 1 (if firsts.length = 1 then 0 else rangeSize * firsts.length)) room
    room.add 1 (linkSize * (pending.length + (runs.length - 1)))

/-- The room after alternatives that are all texts. -/
def ofWords (direction : Direction) (words : List (List UInt8)) (room : Room) : Room :=
  let words := match direction with
    | .forward => words
    | .backward => words.map List.reverse
  tree ((words.map List.length).foldl Nat.max 0) words (room.add 1 0)

end Room

/-- Where a pattern stands among alternatives. -/
inductive Place where
  /-- It is none of several, or the first. -/
  | alone
  /-- It is the second. -/
  | second
  /-- It is the third or a later one. -/
  | later
deriving DecidableEq, Repr

namespace Pattern

/-- Whether what is built last for a pattern is a state that branches. -/
def endsBranching (direction : Direction) : Pattern → Bool
  | empty => false
  | text _ _ => false
  | one _ _ => false
  | assert _ => false
  | seq p q => match direction with
    | .forward => q.endsBranching direction
    | .backward => p.endsBranching direction
  | alt _ _ => false
  | times min none _ p => min != 0 || p.consumes
  | times min (some max) _ p => min == max && p.endsBranching direction
  | capture _ p => direction == .backward && p.endsBranching direction

/-- The words of alternatives that are all texts. -/
def words? : Pattern → Option (List (List UInt8))
  | text c rest => some [Text.Utf8.encode (c :: rest)]
  | alt p q => p.words?.bind fun v => q.words?.map fun w => v ++ w
  | _ => none

/-- The room after the way on from the end of a pattern to what follows. -/
def linked (direction : Direction) (p : Pattern) (room : Room) : Room :=
  if p.endsBranching direction then room.add 0 Room.linkSize else room

/-- The room after a pattern has been put in its place. With the second of several alternatives come
the state that branches to them and the one where they meet. -/
def placed (direction : Direction) (p : Pattern) (place : Place) (room : Room) : Room :=
  match place with
  | .alone => room
  | .second => (p.linked direction room).add 2 (2 * Room.linkSize)
  | .later => (p.linked direction room).add 0 Room.linkSize

/-- The room after a pattern has been built in its place. -/
def build (direction : Direction) (limit : Nat) : Pattern → Place → Room → Room
  | empty, place, room => placed direction empty place (room.add 1 0)
  | text c rest, place, room =>
    placed direction (text c rest) place (room.add (Text.Utf8.encode (c :: rest)).length 0)
  | one ascii set, place, room =>
    placed direction (one ascii set) place (room.ofSet direction set)
  | assert a, place, room => placed direction (assert a) place (room.add 1 0)
  | seq p q, place, room =>
    placed direction (seq p q) place <| match direction with
      | .forward => q.build direction limit .alone
          (p.linked direction (p.build direction limit .alone room))
      | .backward => p.build direction limit .alone
          (q.linked direction (q.build direction limit .alone room))
  | alt p q, .alone, room =>
    match (alt p q).words? with
    | some words => room.ofWords direction words
    | none => q.build direction limit .second
        (p.linked direction (p.build direction limit .alone room))
  | alt p q, place, room =>
    q.build direction limit .later
      (placed direction p place (p.build direction limit .alone room))
  | times min max greedy p, place, room =>
    let once := fun room => p.linked direction (p.build direction limit .alone room)
    placed direction (times min max greedy p) place <| match min, max with
      | 0, some 1 => (once (room.add 1 0)).add 1 (2 * Room.linkSize)
      | 0, none =>
        if p.consumes then (once (room.add 1 0)).add 0 Room.linkSize
        else (once room).add 3 (4 * Room.linkSize)
      | n + 1, none => (room.replicate limit once (n + 1)).add 1 Room.linkSize
      | n, some m =>
        if n = m then
          p.build direction limit .alone (room.replicate limit once (n - 1))
        else
          let least := if n = 0 then room.add 1 0 else room.replicate limit once n
          (least.add 1 0).replicate limit (fun room => once (room.add 1 (2 * Room.linkSize))) (m - n)
  | capture _ p, place, room =>
    match direction with
    | .forward => placed direction empty place
        ((p.linked direction (p.build direction limit .alone (room.add 1 0))).add 1 0)
    | .backward => placed direction p place (p.build direction limit .alone room)

/-- Whether every match touches the end of the text at which reading starts. -/
def anchored (direction : Direction) : Pattern → Bool
  | empty => false
  | text _ _ => false
  | one _ _ => false
  | assert a => a == match direction with
    | .forward => .textStart
    | .backward => .textEnd
  | seq p q => match direction with
    | .forward => p.anchored direction || (p.zeroWidth && q.anchored direction)
    | .backward => q.anchored direction || (q.zeroWidth && p.anchored direction)
  | alt p q => p.anchored direction && q.anchored direction
  | times min _ _ p => min != 0 && p.anchored direction
  | capture _ p => p.anchored direction

/-- The room of a whole pattern. What is not anchored starts with a loop that skips any byte, and
what matches ends in a state of its own. Beyond the limit the count may stop early. -/
def room (direction : Direction) (limit : Nat) (p : Pattern) : Room :=
  let start : Room := if p.anchored direction then ⟨1, 0⟩
    else ⟨3, Room.rangeSize + 2 * Room.linkSize⟩
  let whole := capture 0 p
  (whole.linked direction (whole.build direction limit .alone start)).add 1 0

/-- More room than a pattern takes, found without building it. -/
def roomBound : Pattern → Nat
  | empty => 256
  | text _ rest => 512 * (rest.length + 1)
  | one _ set => 4096 * (set.ranges.length + 1)
  | assert _ => 256
  | seq p q => p.roomBound + q.roomBound
  | alt p q => p.roomBound + q.roomBound
  | times min max _ p => Nat.max (max.getD min) 1 * (p.roomBound + 64) + 256
  | capture _ p => p.roomBound + 256

/-- Whether the room of a pattern keeps to a limit in both directions. -/
def fits (limit : Nat) (p : Pattern) : Bool :=
  p.roomBound + 512 ≤ limit ||
    ((p.room .forward limit).bytes ≤ limit && (p.room .backward limit).bytes ≤ limit)

end Pattern

end RequestRouter.Regex
