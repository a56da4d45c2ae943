/-
Tables: numbers in a block with several dimensions.

A table is made out of lists.  Lists within lists have to agree on their lengths, dimension by
dimension; the lengths are the extent of the table.  Two tables are brought together from the
last dimension on: where one of them has only one number, it serves for all of the other.

A table has to fit the memory, and one that does not is refused before it is made.
-/
import FallingBlocks.Document
import FallingBlocks.Machine

namespace FallingBlocks.Raw

/-- The numbers of a table. -/
inductive TableEntry
  | word | real
  deriving DecidableEq, Repr

/-- The size of a number in bytes. -/
def TableEntry.bytes : TableEntry → Nat
  | word => 4
  | real => 8

/-- What messages call the numbers. -/
def TableEntry.name : TableEntry → String
  | word => "uint32"
  | real => "float64"

/-- Why there is no table. -/
inductive TableFault
  /-- There are too many numbers to count. -/
  | tooMany
  /-- One of the dimensions is too large. -/
  | dimensionTooLarge
  /-- There are too many bytes to count. -/
  | tooManyBytes
  /-- The table does not fit the memory. -/
  | outOfMemory (extent : List Nat) (entry : TableEntry)
  /-- The lists agree on these lengths only. -/
  | ragged (extent : List Nat)
  /-- The lists lie too deep within each other. -/
  | tooDeep
  /-- There is no room for one more dimension. -/
  | noDimensionLeft
  /-- The tables cannot be brought together. -/
  | noMatch (left right : List Nat)
  deriving DecidableEq, Repr

/-! ### Extents and sizes in messages -/

/-- Numbers in round brackets; a single one is followed by a comma. -/
def extentText (between : String) : List Nat → String
  | [n] => "(" ++ toString n ++ ",)"
  | ns => "(" ++ between.intercalate (ns.map toString) ++ ")"

/-- The names of the multiples of bytes, each 1024 times the one before. -/
def byteUnits : List String := ["bytes", "KiB", "MiB", "GiB", "TiB", "PiB", "EiB"]

/-- A quotient brought to the nearest whole number, an even one if two are as near. -/
def roundedQuotient (n d : Nat) : Nat :=
  let q := n / d
  let twice := 2 * (n % d)
  if twice < d || (twice == d && q % 2 == 0) then q else q + 1

/-- A quotient from one to below 1024 in at least three digits, with a point. -/
def threeDigits (n d : Nat) : String :=
  let withPlaces (places : Nat) : Option String :=
    let r := roundedQuotient (n * Nat.pow 10 places) d
    if r < 1000 then
      let digits := (toString r).toList
      let whole := digits.length - places
      some (String.ofList (digits.take whole ++ '.' :: digits.drop whole))
    else none
  ([2, 1, 0].findSome? withPlaces).getD (toString (roundedQuotient n d) ++ ".")

/-- A number of bytes in the unit that suits it. -/
def bytesText (bytes : Nat) : String :=
  let unit := max bytes.log2 1 / 10
  let unit := if roundedQuotient bytes (Nat.pow 1024 unit) = 1024 then unit + 1 else unit
  if unit = 0 then toString bytes ++ " bytes"
  else threeDigits bytes (Nat.pow 1024 unit) ++ " " ++ byteUnits.getD unit ""

/-- The most dimensions that a table has. -/
def mostDimensions : Nat := 64

/-- What is said first of a list where a number should be. -/
def listInPlace : String :=
  "setting an array element with a sequence. "

/-- The wording of a fault. -/
def TableFault.message : TableFault → String
  | tooMany => "Maximum allowed size exceeded"
  | dimensionTooLarge => "Maximum allowed dimension exceeded"
  | tooManyBytes =>
      "array is too big; `arr.size * arr.dtype.itemsize` is larger than the maximum possible size."
  | outOfMemory extent entry =>
      "Unable to allocate " ++ bytesText (extent.foldl (· * ·) entry.bytes)
        ++ " for an array with shape " ++ extentText ", " extent ++ " and data type "
        ++ entry.name
  | ragged extent =>
      listInPlace ++ "The requested array has an inhomogeneous shape after "
        ++ toString extent.length ++ " dimensions. The detected shape was "
        ++ extentText ", " extent ++ " + inhomogeneous part."
  | tooDeep =>
      listInPlace ++ "The requested array would exceed the maximum number of dimension of "
        ++ toString mostDimensions ++ "."
  | noDimensionLeft =>
      "number of dimensions must be within [0, " ++ toString mostDimensions
        ++ "], indexing result would have " ++ toString (mostDimensions + 1)
  | noMatch left right =>
      "operands could not be broadcast together with shapes " ++ extentText "," left ++ " "
        ++ extentText "," right ++ " "

/-! ### Tables that fit -/

/-- Numbers and bytes are counted up to this. -/
def mostCounted : Int := Nat.pow 2 63

/-- Whether a table of some extent fits. -/
def checkExtent [Machine] (entry : TableEntry) (extent : List Int) : Except TableFault Unit :=
  let sizes := extent.map Int.toNat
  let bytes := sizes.foldl (· * ·) entry.bytes
  if extent.any fun n => mostCounted ≤ n then .error .dimensionTooLarge
  else if mostCounted ≤ bytes then .error .tooManyBytes
  else if Machine.bytes < bytes then .error (.outOfMemory sizes entry)
  else .ok ()

/-- Whether the numbers from zero up to a limit fit; below zero there are none. -/
def checkCount [Machine] (limit : Int) : Except TableFault Unit :=
  if limit < -mostCounted ∨ mostCounted ≤ limit then .error .tooMany
  else checkExtent .word [limit]

/-! ### Lists within lists -/

/-- What two lists have in common at their start. -/
def commonStart : List Nat → List Nat → List Nat
  | m :: ms, n :: ns => if m = n then m :: commonStart ms ns else []
  | _, _ => []

mutual

/-- The lengths that the lists in a document agree on, and whether they agree on all. -/
def extentOf : Document → List Nat × Bool
  | .array items =>
      let (inner, agree) := commonExtent items
      (items.length :: inner, agree)
  | _ => ([], true)

def commonExtent : List Document → List Nat × Bool
  | [] => ([], true)
  | [d] => extentOf d
  | d :: rest =>
      let (first, firstAgrees) := extentOf d
      let (others, othersAgree) := commonExtent rest
      (commonStart first others, firstAgrees && othersAgree && first == others)

end

mutual

/-- What stands in the lists of a document, in order. -/
def leaves : Document → List Document
  | .array items => leavesOf items
  | d => [d]

def leavesOf : List Document → List Document
  | [] => []
  | d :: rest => leaves d ++ leavesOf rest

end

/-- The extent of a list of documents, which may be lists. -/
def extentOfRows (rows : List Document) : Except TableFault (List Nat) :=
  let (inner, agree) := commonExtent rows
  let extent := rows.length :: inner
  if mostDimensions < extent.length then .error .tooDeep
  else if agree then .ok extent
  else if extent.length = mostDimensions then .error .tooDeep
  else .error (.ragged extent)

/-! ### Tables of bits -/

/-- Bits with the lengths of the dimensions, those of the last dimension next to each other. -/
structure Table where
  extent : List Nat
  bits : List Bool

/-- A number of pieces of one size, one after the other. -/
def pieces {α : Type} (size : Nat) : Nat → List α → List (List α)
  | 0, _ => []
  | n + 1, xs => xs.take size :: pieces size n (xs.drop size)

/-- Bits as lists within lists. -/
def Table.nested : List Nat → List Bool → Document
  | [], bits => .int (if bits.headD false then 1 else 0)
  | n :: extent, bits => .array ((pieces (extent.foldl (· * ·) 1) n bits).map (nested extent))

/-- The table as lists within lists. -/
def Table.items (t : Table) : Document :=
  nested t.extent t.bits

/-- The length of a dimension in which two tables are brought together, if they can be. -/
def joinedLength (m n : Nat) : Option Nat :=
  if m = n ∨ n = 1 then some m else if m = 1 then some n else none

/-- A line of words, each at one bit: words and bits go together, or one of them serves all. -/
def lineBits (length columns : Nat) (words : List Nat) : List Bool :=
  let words := if words.length = 1 then List.replicate length (words.headD 0) else words
  words.zipIdx.map fun (word, i) => word.testBit (if columns = 1 then 0 else i)

/--
The table of words with some extent, of which each last line is laid along the columns.  If
every row is a single word, the row is such a line.
-/
def Table.ofWords (columns : Nat) (extent words : List Nat) : Except TableFault Table :=
  let rows := extent.headD 0
  let inner := extent.tail
  let last := inner.getLastD 1
  match joinedLength last columns with
  | none => .error (.noMatch (rows :: 1 :: inner) [1, columns])
  | some length =>
      let lines := (rows :: inner.dropLast).foldl (· * ·) 1
      let middle := if inner.isEmpty then [] else 1 :: inner.dropLast
      .ok
        { extent := rows :: middle ++ [length]
          bits := (pieces last lines words).flatMap (lineBits length columns) }

end FallingBlocks.Raw
