import RequestRouter.Regex.Pattern

/-!
# Programs

A pattern is compiled to a list of instructions. Compiling is compositional: the code of a pattern
has a length that does not depend on its place, starts at its base address and leaves only towards
the address after it.

* `Pattern.code`: the instructions of a pattern at a base address.
* `length_code`: how many there are.
-/

namespace RequestRouter.Regex

/-- The instructions. Each names the addresses where it goes on; a split prefers its first. -/
inductive Instruction where
  | char (c : Char) (next : Nat)
  | one (set : CharSet) (next : Nat)
  | assert (assertion : Assertion) (next : Nat)
  /-- Notes the position in a slot. -/
  | save (slot next : Nat)
  | split (first second : Nat)
  | jump (next : Nat)
  | accept
deriving DecidableEq, Repr

/-- Instructions by address. -/
abbrev Program := Array Instruction

namespace Instruction

/-- The choice between going on inside a repetition and leaving it. -/
def branch (greedy : Bool) (inside outside : Nat) : Instruction :=
  if greedy then split inside outside else split outside inside

end Instruction

namespace Pattern

/-- The number of instructions of a pattern. -/
def size : Pattern → Nat
  | empty => 1
  | text _ rest => rest.length + 1
  | one _ _ => 1
  | assert _ => 1
  | seq p q => p.size + q.size
  | alt p q => 1 + p.size + q.size
  | times min (some max) _ p => min * p.size + (max - min) * (1 + p.size) + 1
  | times 0 none _ p => p.size + if p.consumes then 1 else 2
  | times (n + 1) none _ p => (n + 1) * p.size + 1
  | capture _ p => p.size + 2

/-- The characters of a text, one after the other. -/
def spell : Char → List Char → Nat → Nat → List Instruction
  | c, [], _, next => [.char c next]
  | c, d :: rest, base, next => .char c (base + 1) :: spell d rest (base + 1) next

/-- `n` copies of a body of the given size, each going on to the one after it. -/
def copies (n size base : Nat) (body : Nat → Nat → List Instruction) : List Instruction :=
  (List.range n).flatMap fun i => body (base + i * size) (base + (i + 1) * size)

/-- `n` copies of a body, before each of which it is possible to leave. -/
def optionals (n size base exit : Nat) (greedy : Bool) (body : Nat → Nat → List Instruction) :
    List Instruction :=
  (List.range n).flatMap fun i =>
    let here := base + i * (1 + size)
    .branch greedy (here + 1) exit :: body (here + 1) (here + (1 + size))

/-- The instructions of a pattern from `base` on, which go on at `next`. The slots of a group are
twice its index and the one after that. A body that is not known to consume a character is repeated
by a branch of its own after it, so that a round that consumes nothing ends the repetition. -/
def code : Pattern → Nat → Nat → List Instruction
  | empty, _, next => [.jump next]
  | text c rest, base, next => spell c rest base next
  | one _ set, _, next => [.one set next]
  | assert a, _, next => [.assert a next]
  | seq p q, base, next => p.code base (base + p.size) ++ q.code (base + p.size) next
  | alt p q, base, next =>
    let second := base + 1 + p.size
    .split (base + 1) second :: (p.code (base + 1) next ++ q.code second next)
  | times min (some max) greedy p, base, next =>
    let after := base + min * p.size
    copies min p.size base p.code ++ optionals (max - min) p.size after next greedy p.code ++
      [.jump next]
  | times 0 none greedy p, base, next =>
    let enter := Instruction.branch greedy (base + 1) next
    if p.consumes then enter :: p.code (base + 1) base
    else enter :: (p.code (base + 1) (base + 1 + p.size) ++ [enter])
  | times (n + 1) none greedy p, base, next =>
    copies (n + 1) p.size base p.code ++ [.branch greedy (base + n * p.size) next]
  | capture i p, base, next =>
    let close := base + 1 + p.size
    .save (2 * i) (base + 1) :: (p.code (base + 1) close ++ [.save (2 * i + 1) next])

theorem length_spell (c : Char) (rest : List Char) (base next : Nat) :
    (spell c rest base next).length = rest.length + 1 := by
  induction rest generalizing c base with
  | nil => rfl
  | cons d rest ih => simp [spell, ih]

theorem length_copies (n size base : Nat) (body : Nat → Nat → List Instruction)
    (h : ∀ b k, (body b k).length = size) : (copies n size base body).length = n * size := by
  simp only [copies, List.length_flatMap, h, List.map_const', List.length_range,
    List.sum_replicate_nat]

theorem length_optionals (n size base exit : Nat) (greedy : Bool)
    (body : Nat → Nat → List Instruction) (h : ∀ b k, (body b k).length = size) :
    (optionals n size base exit greedy body).length = n * (1 + size) := by
  simp only [optionals, List.length_flatMap, List.length_cons, h, List.map_const', List.length_range,
    List.sum_replicate_nat, Nat.add_comm size]

/-- The code of a pattern has as many instructions as its size says, wherever it stands. -/
theorem length_code (p : Pattern) (base next : Nat) : (p.code base next).length = p.size := by
  induction p generalizing base next with
  | empty => rfl
  | text c rest => exact length_spell c rest base next
  | one ascii set => rfl
  | assert a => rfl
  | seq p q hp hq => simp [code, size, hp, hq]
  | alt p q hp hq => simp [code, size, hp, hq]; omega
  | times min max greedy p hp =>
    match min, max with
    | _, some _ =>
      simp [code, size, length_copies _ _ _ _ hp, length_optionals _ _ _ _ _ _ hp, Nat.add_assoc]
    | 0, none => by_cases h : p.consumes <;> simp [code, size, hp, h]
    | _ + 1, none => simp [code, size, length_copies _ _ _ _ hp]
  | capture i p hp => simp [code, size, hp]

end Pattern

/-- The program of a pattern: the whole match is group zero, after which it accepts. -/
def Program.ofPattern (p : Pattern) : Program :=
  let whole := Pattern.capture 0 p
  (whole.code 0 whole.size ++ [Instruction.accept]).toArray

end RequestRouter.Regex
