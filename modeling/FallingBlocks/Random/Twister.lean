/-
The Mersenne Twister with 32-bit words and a period of 2^19937 - 1.

The state is a block of 624 words.  A block is turned into the next one word by word,
each new word from three words of the old or the new block; a word that leaves the
generator is tempered first.  A seed of any size is taken apart into words and stirred
into the block twice.
-/

namespace FallingBlocks.Random

/-- A block of words and the position of the next one to leave it. -/
structure Twister where
  block : Array UInt32
  next : Nat

namespace Twister

/-- The number of words in a block. -/
def size : Nat := 624

/-- The distance of the third word that a new word depends on. -/
def shift : Nat := 397

/-- The word at a position of a block. -/
def wordAt (block : Array UInt32) (i : Nat) : UInt32 :=
  block.getD i 0

/-! ### Seeding -/

/-- A block grown from a single word. -/
def grow (seed : UInt32) : Array UInt32 :=
  (List.range (size - 1)).foldl (fun block i =>
    let last := wordAt block i
    block.push ((1812433253 : UInt32) * (last ^^^ (last >>> 30)) + UInt32.ofNat (i + 1))) #[seed]

/-- A number in words of 32 bits, the lowest first; zero is one word. -/
def words (n : Nat) : List UInt32 :=
  (List.range (n.log2 / 32 + 1)).map fun i => UInt32.ofNat (n / Nat.pow 2 (32 * i))

/-- The position after `i` in a block, going round past the first word, which is set anew. -/
def advance (block : Array UInt32) (i : Nat) : Array UInt32 × Nat :=
  if size ≤ i + 1 then (block.setIfInBounds 0 (wordAt block (size - 1)), 1) else (block, i + 1)

/-- The word before a position, as it enters the stirring of that position. -/
def mixed (block : Array UInt32) (i : Nat) : UInt32 :=
  wordAt block (i - 1) ^^^ (wordAt block (i - 1) >>> 30)

/-- Stirs the words of a key into a block, going round as often as the longer of the two asks. -/
def stirKey (key : Array UInt32) (block : Array UInt32) : Array UInt32 × Nat :=
  (List.range (max size key.size)).foldl (fun (block, i) step =>
    let j := step % key.size
    let word := (wordAt block i ^^^ (mixed block i * 1664525)) + key.getD j 0 + UInt32.ofNat j
    advance (block.setIfInBounds i word) i) (block, 1)

/-- Stirs a block once more, without a key. -/
def stir (start : Array UInt32 × Nat) : Array UInt32 :=
  ((List.range (size - 1)).foldl (fun (block, i) _ =>
    let word := (wordAt block i ^^^ (mixed block i * 1566083941)) - UInt32.ofNat i
    advance (block.setIfInBounds i word) i) start).1

/-- The generator for a seed; the sign of the seed does not matter. -/
def ofSeed (seed : Int) : Twister :=
  let key := (words seed.natAbs).toArray
  { block := (stir (stirKey key (grow 19650218))).setIfInBounds 0 0x80000000
    next := size }

/-! ### Drawing -/

/-- The next block. -/
def twist (block : Array UInt32) : Array UInt32 :=
  (List.range size).foldl (fun block i =>
    let joined := (wordAt block i &&& 0x80000000) ||| (wordAt block ((i + 1) % size) &&& 0x7fffffff)
    let word := wordAt block ((i + shift) % size) ^^^ (joined >>> 1)
    block.setIfInBounds i (if joined &&& 1 = 0 then word else word ^^^ 0x9908b0df)) block

/-- A word as it leaves the generator. -/
def temper (y : UInt32) : UInt32 :=
  let y := y ^^^ (y >>> 11)
  let y := y ^^^ ((y <<< 7) &&& 0x9d2c5680)
  let y := y ^^^ ((y <<< 15) &&& 0xefc60000)
  y ^^^ (y >>> 18)

/-- The next word. -/
def word (t : Twister) : UInt32 × Twister :=
  let t : Twister := if size ≤ t.next then ⟨twist t.block, 0⟩ else t
  (temper (wordAt t.block t.next), { t with next := t.next + 1 })

/--
How many words in a row may be refused.  Each is refused with a probability of less than
one half, so the limit is never met in practice.
-/
def patience : Nat := 4096

/--
A number below `limit`: the top bits of a word, as many as the number `limit` has, and
the next word again as long as they make a number too large.
-/
def below (limit : Nat) (t : Twister) : Nat × Twister :=
  go patience t
where
  go : Nat → Twister → Nat × Twister
    | 0, t => (0, t)
    | fuel + 1, t =>
        let (w, t) := t.word
        let n := w.toNat / Nat.pow 2 (31 - limit.log2)
        if n < limit then (n, t) else go fuel t

/-- The generator after `n` draws below `limit`. -/
def after (t : Twister) (limit : Nat) : Nat → Twister
  | 0 => t
  | n + 1 => (t.below limit).2.after limit n

end Twister

end FallingBlocks.Random
