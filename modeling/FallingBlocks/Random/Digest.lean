/-
The digest SHA-512: 64 bytes that depend on every byte of a message.

The message is padded to blocks of 128 bytes.  Eight words of 64 bits are stirred once for
each block, in 80 rounds with one word of a schedule and one constant each.  The constants
are no table: they are the first 64 bits behind the point of roots of the first primes.
-/

namespace FallingBlocks.Random.Digest

/-- The number of rounds. -/
def rounds : Nat := 80

/-- The number of bytes in a block. -/
def blockSize : Nat := 128

/-- Whether no number from two on divides `n`. -/
def isPrime (n : Nat) : Bool :=
  2 ≤ n && (List.range n).all fun d => d < 2 || n % d != 0

/-- The first 80 primes. -/
def primes : List Nat :=
  (List.range 410).filter isPrime

/-- The greatest number whose `k`-th power is at most `n`, among those of 72 bits. -/
def root (k n : Nat) : Nat :=
  (List.range 72).foldr (fun i r => if Nat.pow (r + Nat.pow 2 i) k ≤ n then r + Nat.pow 2 i else r) 0

/-- The first 64 bits behind the point of the `k`-th root of `n`. -/
def rootBits (k n : Nat) : UInt64 :=
  UInt64.ofNat (root k (n * Nat.pow 2 (64 * k)))

/-- The constants of the rounds, from cube roots. -/
def constants : Array UInt64 :=
  (primes.map (rootBits 3)).toArray

/-- The words before the first block, from square roots. -/
def start : List UInt64 :=
  (primes.take 8).map (rootBits 2)

/-- A word turned to the right. -/
def turn (x : UInt64) (n : UInt64) : UInt64 :=
  (x >>> n) ||| (x <<< (64 - n))

/-! ### One block -/

/-- The eight words that a block stirs. -/
structure Words where
  a : UInt64
  b : UInt64
  c : UInt64
  d : UInt64
  e : UInt64
  f : UInt64
  g : UInt64
  h : UInt64

/-- The words of a list, which has to have eight. -/
def Words.ofList : List UInt64 → Words
  | [a, b, c, d, e, f, g, h] => ⟨a, b, c, d, e, f, g, h⟩
  | _ => ⟨0, 0, 0, 0, 0, 0, 0, 0⟩

/-- The words as a list. -/
def Words.toList (w : Words) : List UInt64 :=
  [w.a, w.b, w.c, w.d, w.e, w.f, w.g, w.h]

/-- One round, with a word of the schedule and a constant. -/
def Words.step (w : Words) (word constant : UInt64) : Words :=
  let choice := (w.e &&& w.f) ^^^ (~~~w.e &&& w.g)
  let majority := (w.a &&& w.b) ^^^ (w.a &&& w.c) ^^^ (w.b &&& w.c)
  let first := w.h + (turn w.e 14 ^^^ turn w.e 18 ^^^ turn w.e 41) + choice + constant + word
  let second := (turn w.a 28 ^^^ turn w.a 34 ^^^ turn w.a 39) + majority
  { a := first + second, b := w.a, c := w.b, d := w.c
    e := w.d + first, f := w.e, g := w.f, h := w.g }

/-- A number from the bytes of a list, the highest byte first. -/
def number (bytes : List UInt8) : Nat :=
  bytes.foldl (fun n b => 256 * n + b.toNat) 0

/-- The sixteen words of a block. -/
def blockWords (block : List UInt8) : Array UInt64 :=
  ((List.range 16).map fun i => UInt64.ofNat (number ((block.drop (8 * i)).take 8))).toArray

/-- The schedule of a block: its own words first, then words made of earlier ones. -/
def schedule (block : List UInt8) : Array UInt64 :=
  (List.range (rounds - 16)).foldl (fun ws i =>
    let x := ws.getD (i + 1) 0
    let y := ws.getD (i + 14) 0
    ws.push (ws.getD i 0 + (turn x 1 ^^^ turn x 8 ^^^ (x >>> 7)) + ws.getD (i + 9) 0
      + (turn y 19 ^^^ turn y 61 ^^^ (y >>> 6)))) (blockWords block)

/-- The eight words after a block. -/
def stir (words : List UInt64) (block : List UInt8) : List UInt64 :=
  let ws := schedule block
  let stirred := (List.range rounds).foldl (fun (w : Words) i =>
    w.step (ws.getD i 0) (constants.getD i 0)) (Words.ofList words)
  words.zipWith (· + ·) stirred.toList

/-! ### A whole message -/

/-- A number in bytes, the highest first. -/
def bytesOf (count n : Nat) : List UInt8 :=
  (List.range count).reverse.map fun i => UInt8.ofNat (n / Nat.pow 256 i)

/-- The message with a mark, zeros, and its length in bits, up to whole blocks. -/
def padded (message : List UInt8) : List UInt8 :=
  let zeros := (2 * blockSize - 17 - message.length % blockSize) % blockSize
  message ++ 0x80 :: List.replicate zeros 0 ++ bytesOf 16 (8 * message.length)

/-- The digest of a message. -/
def sha512 (message : List UInt8) : List UInt8 :=
  let bytes := padded message
  let blocks := (List.range (bytes.length / blockSize)).map fun i =>
    (bytes.drop (blockSize * i)).take blockSize
  (blocks.foldl stir start).flatMap fun w => bytesOf 8 w.toNat

end FallingBlocks.Random.Digest
