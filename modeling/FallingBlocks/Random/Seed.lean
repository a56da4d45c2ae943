/-
Seeds: what a random source may be started with.

A whole number stands for its magnitude.  A floating-point number stands for its remainder
in the field of integers modulo the prime 2^61 - 1, where a division by two is a
multiplication; a text stands for its bytes followed by their digest, read as one number.
-/
import FallingBlocks.Document.Arithmetic
import FallingBlocks.Random.Digest
import FallingBlocks.Text.Bytes

namespace FallingBlocks.Random

/-- Why a document is no seed. -/
inductive SeedFault
  /-- Seeds of this kind are not supported. -/
  | unsupported
  /-- The text has no bytes. -/
  | unwritable (refusal : Text.Unwritable)
  deriving DecidableEq, Repr

/-- The wording of a fault. -/
def SeedFault.message : SeedFault → String
  | unsupported =>
      "The only supported seed types are: None,\nint, float, str, bytes, and bytearray."
  | unwritable refusal => refusal.message

/-- The prime that floating-point numbers are taken modulo. -/
def prime : Nat := Nat.pow 2 61 - 1

/-- The number of seeds that a machine word can tell apart. -/
def wordValues : Nat := Nat.pow 2 64

/-- What stands for the infinite numbers. -/
def infiniteSeed : Nat := 314159

/-- What stands for a magnitude with a sign; one of the negative ones is taken twice. -/
def signedSeed (negative : Bool) (n : Nat) : Nat :=
  if negative ∧ 0 < n then wordValues - (if n = 1 then 2 else n) else n

/-- What a floating-point number stands for. -/
def realSeed (x : Float) : Nat :=
  match Decimal.Binary.ofFloat x with
  | .nan => 0
  | .infinite negative => signedSeed negative infiniteSeed
  | .finite negative m e => signedSeed negative (m * Nat.pow 2 (e % 61).toNat % prime)

/-- What a document stands for as a seed; null, which asks for any seed, gives zero. -/
def seedOf (d : Document) : Except SeedFault Nat :=
  match d with
  | .float x => .ok (realSeed x)
  | .text t =>
      match t.toBytes with
      | .error refusal => .error (.unwritable refusal)
      | .ok bytes =>
          let message := bytes.toList
          .ok (Digest.number (message ++ Digest.sha512 message))
  | .null => .ok 0
  | d =>
      match d.integer? with
      | some n => .ok n.natAbs
      | none => .error .unsupported

end FallingBlocks.Random
