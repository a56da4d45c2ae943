/-
Raw boards: rows that nobody has checked, under a width and a height of any size.

The width and the height are whole numbers, and the length of the list of rows is bounded
by the memory.  On an ordinary board, with ordinary places, every operation is the ordinary
one.
-/
import FallingBlocks.Board.Loading
import FallingBlocks.Board.Picture
import FallingBlocks.Raw.Piece

namespace FallingBlocks.Raw

/-- Rows of any sort, top row first. -/
structure Board where
  width : Int
  height : Int
  rows : List Document

namespace Board

/-- A board as raw values. -/
def ofOrdinary (b : FallingBlocks.Board) : Board :=
  { width := b.width, height := b.height, rows := b.rows.map .int }

variable [Machine]

/-- The ordinary board that raw values make. -/
def ordinary? (b : Board) : Option FallingBlocks.Board := do
  let width ← Raw.ordinary? (.int b.width)
  some { width, height := b.height, rows := ← b.rows.mapM anyWhole? }

/-- Whether there can be a list of as many rows as a height says. -/
def checkHeight (height : Int) : Except Fault Unit :=
  if height < -(Nat.pow 2 63 : Int) ∨ Nat.pow 2 63 ≤ height then .error (.operand .lengthTooLarge)
  else if Machine.items < height then .error (.operand .outOfMemory)
  else .ok ()

/-- A board of some width and height, with rows of its own or with empty ones. -/
def make (width height : Document) (rows : Option (List Document)) : Except Fault Board := do
  let width ← wholeOf width
  let height ← wholeOf height
  checkHeight height
  match rows with
  | none => .ok (ofOrdinary (FallingBlocks.Board.empty width height))
  | some rows => do
      let masks ← rows.mapM wholeOf
      .ok (ofOrdinary { width, height, rows := masks })

/-- The mask of a row, which has to be below the power of two for the width. -/
def readRow (width : Document) (power : Int) (i : Nat) :
    Document → Except FallingBlocks.Board.RowsFault Mask
  | .int m => if 0 ≤ m ∧ m < power then .ok m else .error (.outside i width m)
  | d => .error (.notAMask i d)

/--
A board whose rows are checked against its width and height.  Both appear in messages as
they were written, and they need not be whole numbers before they have passed the checks.
-/
def checked (width height : Document) (rows : List Document) :
    Except FallingBlocks.Board.RowsFault FallingBlocks.Board :=
  if !height.sameNumber (.int rows.length) then .error (.wrongCount height rows.length)
  else do
    let power ← (width.powerOfTwo).mapError .noMask
    let masks ← rows.zipIdx.mapM fun (row, i) => readRow width power i row
    .ok { width := width.integer?.getD 0, height := rows.length, rows := masks }

/-! ### Rows and bits of any sort -/

/-- The row at a position. -/
def rowAt (b : Board) (row : Document) : Except Fault Nat :=
  combined (Document.position .list b.rows.length (.nothingThere .list) row)

/-- Whether a bit of a row is set. -/
def bitOf (row col : Document) : Except Fault Bool :=
  match row.integer?, col.integer? with
  | some m, some c =>
      if c < 0 then .error (.operand .negativeShift) else .ok (Mask.has m c.toNat)
  | _, _ => .error (.operand (.unsupported ">>" row.kind col.kind))

/-- A row with one more bit set. -/
def withBit (row col : Document) : Except Fault Document := do
  let power ← combined col.powerOfTwo
  match row.integer?, row with
  | some m, _ => .ok (.int (Mask.insert m power.toNat.log2))
  | none, .object _ => .error (.operand (.noItems .int))
  | none, _ => .error (.operand (.unsupported "|=" row.kind .int))

/-- The board with one more cell filled. -/
def fill (b : Board) (c : Cell) : Except Fault Board := do
  let i ← b.rowAt c.row
  let row ← withBit (b.rows.getD i .null) c.col
  .ok { b with rows := b.rows.set i row }

/-- Fills the cells one after the other; those before a faulty one stay filled. -/
def mergeAny (b : Board) : List Cell → Board × Except Fault Unit
  | [] => (b, .ok ())
  | c :: rest =>
      match b.fill c with
      | .ok filled => filled.mergeAny rest
      | .error fault => (b, .error fault)

/-- The rows that are the same number as a full one, by position. -/
def rowsEqual (b : Board) (full : Int) : List Nat :=
  (b.rows.zipIdx.filter fun row => row.1.sameNumber (.int full)).map (·.2)

/-- The board without its full rows, brought back to its height. -/
def compact (b : Board) (full : Int) : Board × Int :=
  let kept := b.rows.filter fun row => !row.sameNumber (.int full)
  let cleared := b.height - kept.length
  if cleared = 0 then (b, 0)
  else ({ b with rows := List.replicate cleared.toNat (.int 0) ++ kept }, cleared)

/-- Why no holes can be counted, from the rows on; `full` is what the first row comes to. -/
def holesFault (full : Except Fault Int) : List Document → Fault
  | [] => .operand .tooManyDigits
  | row :: rest =>
      match row.integer?, full with
      | none, _ => .operand (.noComplement row.kind)
      | some _, .error fault => fault
      | some _, .ok _ => holesFault full rest

/-! ### Operations -/

/-- The mask of a completed row. -/
def fullMask (b : Board) : Except Fault Int := do
  .ok ((← combined (Document.powerOfTwo (.int b.width))) - 1)

/-- Whether a place is in bounds. -/
def inBounds (b : Board) (c : Cell) : Except Fault Bool :=
  match b.ordinary?, c.ordinary? with
  | some b, some c => .ok (b.inBounds c)
  | _, _ => combined do
      if !(← Document.isLE (.int 0) c.col) then .ok false
      else if !(← c.col.isLT (.int b.width)) then .ok false
      else c.row.isLT (.int b.height)

/-- Whether a cell is filled. -/
def occupied (b : Board) (c : Cell) : Except Fault Bool :=
  match b.ordinary?, c.ordinary? with
  | some b, some c => (b.occupied c).mapError .ofBoard
  | _, _ => do
      let i ← b.rowAt c.row
      bitOf (b.rows.getD i .null) c.col

/-- Fills the cells one after the other. -/
def merge (b : Board) (cells : List Cell) : Board × Except Fault Unit :=
  match b.ordinary?, cells.mapM Cell.ordinary? with
  | some b, some cells =>
      let (merged, outcome) := b.merge cells
      (ofOrdinary merged, outcome.mapError .ofBoard)
  | _, _ => b.mergeAny cells

/-- Fills the cells that documents give, each being looked at when its turn comes. -/
def mergeListed (b : Board) (cells : List Document) : Board × Except Fault Unit :=
  match cells.mapM Cell.read with
  | .ok cells => b.merge cells
  | .error fault =>
      let readable := cells.takeWhile fun d => (Cell.read d).isOk
      match b.merge (readable.filterMap fun d => (Cell.read d).toOption) with
      | (merged, .ok ()) => (merged, .error fault)
      | stopped => stopped

/-- The board with the whole mask of a row replaced. -/
def setRow (b : Board) (row mask : Document) : Except Fault Board :=
  match b.ordinary?, Raw.ordinary? row, anyWhole? mask with
  | some b, some row, some mask =>
      match b.setRow? row mask with
      | some b => .ok (ofOrdinary b)
      | none => .error (.operand .nothingToChange)
  | _, _, _ => do
      let i ← combined (Document.position .list b.rows.length .nothingToChange row)
      .ok { b with rows := b.rows.set i mask }

/-- The completed rows, top first. -/
def fullRows (b : Board) : Except Fault (List Nat) :=
  match b.ordinary? with
  | some b => b.fullRows.mapError .ofBoard
  | none => b.fullMask.map b.rowsEqual

/-- Clears the completed rows and says how many there were. -/
def clearFullRows (b : Board) : Except Fault (Board × Int) :=
  match b.ordinary? with
  | some b => (b.clearFullRows.mapError .ofBoard).map fun (b, n) => (ofOrdinary b, n)
  | none => b.fullMask.map b.compact

/-- How far the topmost row that counts as true is from the floor, 0 if there is none. -/
def maxHeight (b : Board) : Int :=
  match b.ordinary? with
  | some b => b.maxHeight
  | none =>
      match b.rows.findIdx? Document.isTrue with
      | some i => b.height - i
      | none => 0

/-- The number of free cells with a filled cell somewhere above them. -/
def holes (b : Board) : Except Fault Nat :=
  match b.ordinary?, b.rows.mapM Document.integer?, b.fullMask with
  | some b, _, _ => b.holes.mapError .ofBoard
  | none, some masks, .ok _ => .ok (FallingBlocks.Board.holesBelow b.width.toNat 0 masks)
  | none, _, full => if b.rows.isEmpty then .ok 0 else .error (holesFault full b.rows)

/-- The word of a row; a row that is no whole number is made one first. -/
def wordOf (row : Document) : Except Fault Nat := do
  (FallingBlocks.Board.word (← wholeOf row)).mapError .word

/-- The board as a table of bits, one row of bits for every row. -/
def bitmap (b : Board) : Except Fault FallingBlocks.Board.Bitmap :=
  match b.ordinary? with
  | some b => b.bitmap.mapError .word
  | none => do
      let words ← b.rows.mapM wordOf
      (checkCount b.width).mapError .table
      .ok (.ofWords b.width.toNat words)

/-- The board as a table, in which a row may be a list of rows. -/
def table (b : Board) : Except Fault Table := do
  let extent ← (extentOfRows b.rows).mapError .table
  let words ← (leavesOf b.rows).mapM wordOf
  if extent.length = mostDimensions then throw (.table .noDimensionLeft)
  (checkCount b.width).mapError .table
  (Table.ofWords b.width.toNat extent words).mapError .table

/-- The place that a cell of an overlay shows at, if it is one. -/
def shownAt? (c : Cell) : Option FallingBlocks.Cell := do
  some ⟨← c.row.whole?, ← c.col.whole?⟩

/-- The character shown for one cell of a board whose rows may be of any sort. -/
def mark (b : Board) (overlay : List FallingBlocks.Cell) (row col : Nat) : Except Fault Char :=
  if ⟨row, col⟩ ∈ overlay then .ok FallingBlocks.Board.palette.overlay
  else do
    let filled ← b.occupied ⟨.int row, .int col⟩
    .ok (if filled then FallingBlocks.Board.palette.filled else FallingBlocks.Board.palette.free)

/-- What comes of the numbers from `first` on, as many as are left; a fault stops it at once. -/
def fromNumber {α : Type} (f : Nat → Except Fault α) : Nat → Nat → Except Fault (List α)
  | 0, _ => .ok []
  | left + 1, first => do
      let a ← f first
      .ok (a :: (← fromNumber f left (first + 1)))

/--
The picture of a board.  Where there are fewer rows than the height says, there is nothing
to be found out behind the last of them.
-/
def render (b : Board) (overlay : List Cell) : Except Fault String :=
  let overlay := overlay.filterMap shownAt?
  let byCells : Except Fault String := do
    let lines ← fromNumber
      (fun row => fromNumber (b.mark overlay row) b.width.toNat 0) b.height.toNat 0
    .ok (String.ofList (['\n'].intercalate lines))
  match b.ordinary? with
  | some whole =>
      if b.height ≤ b.rows.length then (whole.render overlay).mapError .ofBoard else byCells
  | none => byCells

end Board

end FallingBlocks.Raw
