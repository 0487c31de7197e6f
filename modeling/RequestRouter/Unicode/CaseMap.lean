import RequestRouter.Unicode.RangeTable

/-!
# Simple case maps

A map of code points to code points that moves few of them is kept as a list of runs: equally
spaced code points that all move by the same distance.

* `CaseMap.apply`: where a character goes.
* `CaseMap.preimages`: which moved characters go to a given one.
* `CaseMap.decode`: the map that a text of hexadecimal numbers spells.
* `CaseMap.fold`: simple case folding, as of version 16 of the standard.
* `CaseMap.upper`, `CaseMap.lower`: the two case maps, as of version 17.
-/

namespace RequestRouter.Unicode

/-- The code points `first, first + step, …`, `steps` of them after the first, move so that `first`
goes to `target`. -/
structure CaseRun where
  first : Nat
  target : Nat
  steps : Nat
  step : Nat
deriving DecidableEq, Repr

/-- Runs of moved code points. No code point is in two of them. -/
abbrev CaseMap := List CaseRun

namespace CaseRun

/-- The equally spaced code points from `first` on, as a test. -/
def spaced (first steps step n : Nat) : Bool :=
  first ≤ n && n ≤ first + steps * step && (n - first) % step = 0

/-- Where the run moves a code point, if it moves it. -/
def image? (run : CaseRun) (n : Nat) : Option Nat :=
  if spaced run.first run.steps run.step n then some (run.target + (n - run.first)) else none

/-- Which code point the run moves to a given one, if any. -/
def preimage? (run : CaseRun) (n : Nat) : Option Nat :=
  if spaced run.target run.steps run.step n then some (run.first + (n - run.target)) else none

end CaseRun

namespace CaseMap

/-- Where a character goes. Most stay. -/
def apply (table : CaseMap) (c : Char) : Char :=
  match table.findSome? (·.image? c.toNat) with
  | some n => Char.ofNat n
  | none => c

/-- The moved characters that go to a given one. -/
def preimages (table : CaseMap) (c : Char) : List Char :=
  (table.filterMap (·.preimage? c.toNat)).map Char.ofNat

/-- Reads runs, four numbers each. -/
def ofNumbers : List Nat → CaseMap
  | first :: target :: steps :: step :: rest => ⟨first, target, steps, step⟩ :: ofNumbers rest
  | _ => []

/-- The map that a text of hexadecimal numbers spells. -/
def decode (text : String) : CaseMap :=
  ofNumbers (RangeTable.numbers text.toList none)

/-- Simple case folding: characters that differ in case only go to the same one. -/
def fold : CaseMap := decode
    "41 61 19 1 b5 3bc 0 1 c0 e0 16 1 d8 f8 6 1 100 101 17 2 132 133 2 2 139 13a 7 2 14a 14b 16 2
     178 ff 0 1 179 17a 2 2 17f 73 0 1 181 253 0 1 182 183 1 2 186 254 0 1 187 188 0 1 189 256 1 1
     18b 18c 0 1 18e 1dd 0 1 18f 259 0 1 190 25b 0 1 191 192 0 1 193 260 0 1 194 263 0 1 196 269 0
     1 197 268 0 1 198 199 0 1 19c 26f 0 1 19d 272 0 1 19f 275 0 1 1a0 1a1 2 2 1a6 280 0 1 1a7 1a8
     0 1 1a9 283 0 1 1ac 1ad 0 1 1ae 288 0 1 1af 1b0 0 1 1b1 28a 1 1 1b3 1b4 1 2 1b7 292 0 1 1b8
     1b9 0 1 1bc 1bd 0 1 1c4 1c6 0 1 1c5 1c6 0 1 1c7 1c9 0 1 1c8 1c9 0 1 1ca 1cc 0 1 1cb 1cc 8 2
     1de 1df 8 2 1f1 1f3 0 1 1f2 1f3 1 2 1f6 195 0 1 1f7 1bf 0 1 1f8 1f9 13 2 220 19e 0 1 222 223
     8 2 23a 2c65 0 1 23b 23c 0 1 23d 19a 0 1 23e 2c66 0 1 241 242 0 1 243 180 0 1 244 289 0 1 245
     28c 0 1 246 247 4 2 345 3b9 0 1 370 371 1 2 376 377 0 1 37f 3f3 0 1 386 3ac 0 1 388 3ad 2 1
     38c 3cc 0 1 38e 3cd 1 1 391 3b1 10 1 3a3 3c3 8 1 3c2 3c3 0 1 3cf 3d7 0 1 3d0 3b2 0 1 3d1 3b8
     0 1 3d5 3c6 0 1 3d6 3c0 0 1 3d8 3d9 b 2 3f0 3ba 0 1 3f1 3c1 0 1 3f4 3b8 0 1 3f5 3b5 0 1 3f7
     3f8 0 1 3f9 3f2 0 1 3fa 3fb 0 1 3fd 37b 2 1 400 450 f 1 410 430 1f 1 460 461 10 2 48a 48b 1a
     2 4c0 4cf 0 1 4c1 4c2 6 2 4d0 4d1 2f 2 531 561 25 1 10a0 2d00 25 1 10c7 2d27 0 1 10cd 2d2d 0
     1 13f8 13f0 5 1 1c80 432 0 1 1c81 434 0 1 1c82 43e 0 1 1c83 441 1 1 1c85 442 0 1 1c86 44a 0 1
     1c87 463 0 1 1c88 a64b 0 1 1c89 1c8a 0 1 1c90 10d0 2a 1 1cbd 10fd 2 1 1e00 1e01 4a 2 1e9b
     1e61 0 1 1e9e df 0 1 1ea0 1ea1 2f 2 1f08 1f00 7 1 1f18 1f10 5 1 1f28 1f20 7 1 1f38 1f30 7 1
     1f48 1f40 5 1 1f59 1f51 3 2 1f68 1f60 7 1 1f88 1f80 7 1 1f98 1f90 7 1 1fa8 1fa0 7 1 1fb8 1fb0
     1 1 1fba 1f70 1 1 1fbc 1fb3 0 1 1fbe 3b9 0 1 1fc8 1f72 3 1 1fcc 1fc3 0 1 1fd3 390 0 1 1fd8
     1fd0 1 1 1fda 1f76 1 1 1fe3 3b0 0 1 1fe8 1fe0 1 1 1fea 1f7a 1 1 1fec 1fe5 0 1 1ff8 1f78 1 1
     1ffa 1f7c 1 1 1ffc 1ff3 0 1 2126 3c9 0 1 212a 6b 0 1 212b e5 0 1 2132 214e 0 1 2160 2170 f 1
     2183 2184 0 1 24b6 24d0 19 1 2c00 2c30 2f 1 2c60 2c61 0 1 2c62 26b 0 1 2c63 1d7d 0 1 2c64 27d
     0 1 2c67 2c68 2 2 2c6d 251 0 1 2c6e 271 0 1 2c6f 250 0 1 2c70 252 0 1 2c72 2c73 0 1 2c75 2c76
     0 1 2c7e 23f 1 1 2c80 2c81 31 2 2ceb 2cec 1 2 2cf2 2cf3 0 1 a640 a641 16 2 a680 a681 d 2 a722
     a723 6 2 a732 a733 1e 2 a779 a77a 1 2 a77d 1d79 0 1 a77e a77f 4 2 a78b a78c 0 1 a78d 265 0 1
     a790 a791 1 2 a796 a797 9 2 a7aa 266 0 1 a7ab 25c 0 1 a7ac 261 0 1 a7ad 26c 0 1 a7ae 26a 0 1
     a7b0 29e 0 1 a7b1 287 0 1 a7b2 29d 0 1 a7b3 ab53 0 1 a7b4 a7b5 7 2 a7c4 a794 0 1 a7c5 282 0 1
     a7c6 1d8e 0 1 a7c7 a7c8 1 2 a7cb 264 0 1 a7cc a7cd 0 1 a7d0 a7d1 0 1 a7d6 a7d7 2 2 a7dc 19b 0
     1 a7f5 a7f6 0 1 ab70 13a0 4f 1 fb05 fb06 0 1 ff21 ff41 19 1 10400 10428 27 1 104b0 104d8 23 1
     10570 10597 a 1 1057c 105a3 e 1 1058c 105b3 6 1 10594 105bb 1 1 10c80 10cc0 32 1 10d50 10d70
     15 1 118a0 118c0 1f 1 16e40 16e60 1f 1 1e900 1e922 21 1"

/-- The upper-case form, of the characters that have one of a single character. -/
def upper : CaseMap := decode
    "61 41 19 1 b5 39c 0 1 e0 c0 16 1 f8 d8 6 1 ff 178 0 1 101 100 17 2 131 49 0 1 133 132 2 2 13a
     139 7 2 14b 14a 16 2 17a 179 2 2 17f 53 0 1 180 243 0 1 183 182 1 2 188 187 0 1 18c 18b 0 1
     192 191 0 1 195 1f6 0 1 199 198 0 1 19a 23d 0 1 19b a7dc 0 1 19e 220 0 1 1a1 1a0 2 2 1a8 1a7
     0 1 1ad 1ac 0 1 1b0 1af 0 1 1b4 1b3 1 2 1b9 1b8 0 1 1bd 1bc 0 1 1bf 1f7 0 1 1c5 1c4 0 1 1c6
     1c4 0 1 1c8 1c7 0 1 1c9 1c7 0 1 1cb 1ca 0 1 1cc 1ca 0 1 1ce 1cd 7 2 1dd 18e 0 1 1df 1de 8 2
     1f2 1f1 0 1 1f3 1f1 0 1 1f5 1f4 0 1 1f9 1f8 13 2 223 222 8 2 23c 23b 0 1 23f 2c7e 1 1 242 241
     0 1 247 246 4 2 250 2c6f 0 1 251 2c6d 0 1 252 2c70 0 1 253 181 0 1 254 186 0 1 256 189 1 1
     259 18f 0 1 25b 190 0 1 25c a7ab 0 1 260 193 0 1 261 a7ac 0 1 263 194 0 1 264 a7cb 0 1 265
     a78d 0 1 266 a7aa 0 1 268 197 0 1 269 196 0 1 26a a7ae 0 1 26b 2c62 0 1 26c a7ad 0 1 26f 19c
     0 1 271 2c6e 0 1 272 19d 0 1 275 19f 0 1 27d 2c64 0 1 280 1a6 0 1 282 a7c5 0 1 283 1a9 0 1
     287 a7b1 0 1 288 1ae 0 1 289 244 0 1 28a 1b1 1 1 28c 245 0 1 292 1b7 0 1 29d a7b2 0 1 29e
     a7b0 0 1 345 399 0 1 371 370 1 2 377 376 0 1 37b 3fd 2 1 3ac 386 0 1 3ad 388 2 1 3b1 391 10 1
     3c2 3a3 0 1 3c3 3a3 8 1 3cc 38c 0 1 3cd 38e 1 1 3d0 392 0 1 3d1 398 0 1 3d5 3a6 0 1 3d6 3a0 0
     1 3d7 3cf 0 1 3d9 3d8 b 2 3f0 39a 0 1 3f1 3a1 0 1 3f2 3f9 0 1 3f3 37f 0 1 3f5 395 0 1 3f8 3f7
     0 1 3fb 3fa 0 1 430 410 1f 1 450 400 f 1 461 460 10 2 48b 48a 1a 2 4c2 4c1 6 2 4cf 4c0 0 1
     4d1 4d0 2f 2 561 531 25 1 10d0 1c90 2a 1 10fd 1cbd 2 1 13f8 13f0 5 1 1c80 412 0 1 1c81 414 0
     1 1c82 41e 0 1 1c83 421 1 1 1c85 422 0 1 1c86 42a 0 1 1c87 462 0 1 1c88 a64a 0 1 1c8a 1c89 0
     1 1d79 a77d 0 1 1d7d 2c63 0 1 1d8e a7c6 0 1 1e01 1e00 4a 2 1e9b 1e60 0 1 1ea1 1ea0 2f 2 1f00
     1f08 7 1 1f10 1f18 5 1 1f20 1f28 7 1 1f30 1f38 7 1 1f40 1f48 5 1 1f51 1f59 3 2 1f60 1f68 7 1
     1f70 1fba 1 1 1f72 1fc8 3 1 1f76 1fda 1 1 1f78 1ff8 1 1 1f7a 1fea 1 1 1f7c 1ffa 1 1 1fb0 1fb8
     1 1 1fbe 399 0 1 1fd0 1fd8 1 1 1fe0 1fe8 1 1 1fe5 1fec 0 1 214e 2132 0 1 2170 2160 f 1 2184
     2183 0 1 24d0 24b6 19 1 2c30 2c00 2f 1 2c61 2c60 0 1 2c65 23a 0 1 2c66 23e 0 1 2c68 2c67 2 2
     2c73 2c72 0 1 2c76 2c75 0 1 2c81 2c80 31 2 2cec 2ceb 1 2 2cf3 2cf2 0 1 2d00 10a0 25 1 2d27
     10c7 0 1 2d2d 10cd 0 1 a641 a640 16 2 a681 a680 d 2 a723 a722 6 2 a733 a732 1e 2 a77a a779 1
     2 a77f a77e 4 2 a78c a78b 0 1 a791 a790 1 2 a794 a7c4 0 1 a797 a796 9 2 a7b5 a7b4 7 2 a7c8
     a7c7 1 2 a7cd a7cc 7 2 a7f6 a7f5 0 1 ab53 a7b3 0 1 ab70 13a0 4f 1 ff41 ff21 19 1 10428 10400
     27 1 104d8 104b0 23 1 10597 10570 a 1 105a3 1057c e 1 105b3 1058c 6 1 105bb 10594 1 1 10cc0
     10c80 32 1 10d70 10d50 15 1 118c0 118a0 1f 1 16e60 16e40 1f 1 16ebb 16ea0 18 1 1e922 1e900 21
     1"

/-- The lower-case form, of the characters that have one of a single character. -/
def lower : CaseMap := decode
    "41 61 19 1 c0 e0 16 1 d8 f8 6 1 100 101 17 2 132 133 2 2 139 13a 7 2 14a 14b 16 2 178 ff 0 1
     179 17a 2 2 181 253 0 1 182 183 1 2 186 254 0 1 187 188 0 1 189 256 1 1 18b 18c 0 1 18e 1dd 0
     1 18f 259 0 1 190 25b 0 1 191 192 0 1 193 260 0 1 194 263 0 1 196 269 0 1 197 268 0 1 198 199
     0 1 19c 26f 0 1 19d 272 0 1 19f 275 0 1 1a0 1a1 2 2 1a6 280 0 1 1a7 1a8 0 1 1a9 283 0 1 1ac
     1ad 0 1 1ae 288 0 1 1af 1b0 0 1 1b1 28a 1 1 1b3 1b4 1 2 1b7 292 0 1 1b8 1b9 0 1 1bc 1bd 0 1
     1c4 1c6 0 1 1c5 1c6 0 1 1c7 1c9 0 1 1c8 1c9 0 1 1ca 1cc 0 1 1cb 1cc 8 2 1de 1df 8 2 1f1 1f3 0
     1 1f2 1f3 1 2 1f6 195 0 1 1f7 1bf 0 1 1f8 1f9 13 2 220 19e 0 1 222 223 8 2 23a 2c65 0 1 23b
     23c 0 1 23d 19a 0 1 23e 2c66 0 1 241 242 0 1 243 180 0 1 244 289 0 1 245 28c 0 1 246 247 4 2
     370 371 1 2 376 377 0 1 37f 3f3 0 1 386 3ac 0 1 388 3ad 2 1 38c 3cc 0 1 38e 3cd 1 1 391 3b1
     10 1 3a3 3c3 8 1 3cf 3d7 0 1 3d8 3d9 b 2 3f4 3b8 0 1 3f7 3f8 0 1 3f9 3f2 0 1 3fa 3fb 0 1 3fd
     37b 2 1 400 450 f 1 410 430 1f 1 460 461 10 2 48a 48b 1a 2 4c0 4cf 0 1 4c1 4c2 6 2 4d0 4d1 2f
     2 531 561 25 1 10a0 2d00 25 1 10c7 2d27 0 1 10cd 2d2d 0 1 13a0 ab70 4f 1 13f0 13f8 5 1 1c89
     1c8a 0 1 1c90 10d0 2a 1 1cbd 10fd 2 1 1e00 1e01 4a 2 1e9e df 0 1 1ea0 1ea1 2f 2 1f08 1f00 7 1
     1f18 1f10 5 1 1f28 1f20 7 1 1f38 1f30 7 1 1f48 1f40 5 1 1f59 1f51 3 2 1f68 1f60 7 1 1f88 1f80
     7 1 1f98 1f90 7 1 1fa8 1fa0 7 1 1fb8 1fb0 1 1 1fba 1f70 1 1 1fbc 1fb3 0 1 1fc8 1f72 3 1 1fcc
     1fc3 0 1 1fd8 1fd0 1 1 1fda 1f76 1 1 1fe8 1fe0 1 1 1fea 1f7a 1 1 1fec 1fe5 0 1 1ff8 1f78 1 1
     1ffa 1f7c 1 1 1ffc 1ff3 0 1 2126 3c9 0 1 212a 6b 0 1 212b e5 0 1 2132 214e 0 1 2160 2170 f 1
     2183 2184 0 1 24b6 24d0 19 1 2c00 2c30 2f 1 2c60 2c61 0 1 2c62 26b 0 1 2c63 1d7d 0 1 2c64 27d
     0 1 2c67 2c68 2 2 2c6d 251 0 1 2c6e 271 0 1 2c6f 250 0 1 2c70 252 0 1 2c72 2c73 0 1 2c75 2c76
     0 1 2c7e 23f 1 1 2c80 2c81 31 2 2ceb 2cec 1 2 2cf2 2cf3 0 1 a640 a641 16 2 a680 a681 d 2 a722
     a723 6 2 a732 a733 1e 2 a779 a77a 1 2 a77d 1d79 0 1 a77e a77f 4 2 a78b a78c 0 1 a78d 265 0 1
     a790 a791 1 2 a796 a797 9 2 a7aa 266 0 1 a7ab 25c 0 1 a7ac 261 0 1 a7ad 26c 0 1 a7ae 26a 0 1
     a7b0 29e 0 1 a7b1 287 0 1 a7b2 29d 0 1 a7b3 ab53 0 1 a7b4 a7b5 7 2 a7c4 a794 0 1 a7c5 282 0 1
     a7c6 1d8e 0 1 a7c7 a7c8 1 2 a7cb 264 0 1 a7cc a7cd 7 2 a7dc 19b 0 1 a7f5 a7f6 0 1 ff21 ff41
     19 1 10400 10428 27 1 104b0 104d8 23 1 10570 10597 a 1 1057c 105a3 e 1 1058c 105b3 6 1 10594
     105bb 1 1 10c80 10cc0 32 1 10d50 10d70 15 1 118a0 118c0 1f 1 16e40 16e60 1f 1 16ea0 16ebb 18
     1 1e900 1e922 21 1"

/-- The code points that folding moves, each with the one it goes to. -/
def foldPairs : List (Nat × Nat) :=
  fold.flatMap fun run =>
    (List.range (run.steps + 1)).map fun i =>
      (run.first + i * run.step, run.target + i * run.step)

/-- The characters that differ from `c` in case only, `c` among them. -/
def variants (c : Char) : List Char :=
  let folded := fold.apply c
  folded :: fold.preimages folded

end CaseMap

end RequestRouter.Unicode
