/-
Raw pieces: a known shape at a place that nobody has checked.
-/
import FallingBlocks.Piece
import FallingBlocks.Raw.Fault

namespace FallingBlocks.Raw

/-- A place given by raw values. -/
structure Cell where
  row : Document
  col : Document

/-- A place as raw values. -/
def Cell.ofOrdinary (c : FallingBlocks.Cell) : Cell := ⟨.int c.row, .int c.col⟩

/-- The ordinary place that raw values give. -/
def Cell.ordinary? [Machine] (c : Cell) : Option FallingBlocks.Cell := do
  some ⟨← Raw.ordinary? c.row, ← Raw.ordinary? c.col⟩

/-- The place that a document gives: a list of a row and a column. -/
def Cell.read (d : Document) : Except Fault Cell :=
  match d.items? with
  | none => .error (.noCell d.kind)
  | some [row, col] => .ok ⟨row, col⟩
  | some items => .error (.notTwo items.length)

/--
The place that a document gives, if it can be told from others by its value: a list or an
object cannot.
-/
def Cell.readFixed (d : Document) : Except Fault Cell := do
  let c ← Cell.read d
  for value in [c.row, c.col] do
    if value.kind = .array ∨ value.kind = .object then throw (.noValue value.kind)
  return c

/-- A piece whose place and rotation are raw values. -/
structure Piece where
  shape : Shape
  x : Document
  y : Document
  rotation : Document

namespace Piece

/-- A piece as raw values. -/
def ofOrdinary (p : FallingBlocks.Piece) : Piece :=
  { shape := p.shape, x := .int p.x, y := .int p.y, rotation := .int p.rotation }

/-- The ordinary piece that raw values give. -/
def ordinary? [Machine] (p : Piece) : Option FallingBlocks.Piece := do
  some
    { shape := p.shape
      x := ← Raw.ordinary? p.x
      y := ← Raw.ordinary? p.y
      rotation := ← Raw.ordinary? p.rotation }

/-- The piece as a document. -/
def toDocument (p : Piece) : Document :=
  .object
    [("shape", .text (String.singleton p.shape.letter)), ("x", p.x), ("y", p.y),
     ("rotation", p.rotation)]

variable [Machine]

/-- The cells of a shape at a raw rotation, which counts modulo four. -/
def offsetsOf (shape : Shape) (rotation : Document) : Except Fault (List Offset) := do
  match Raw.ordinary? rotation with
  | some n => .ok (shape.offsets n)
  | none =>
      let turns ← combined (rotation.remainder Shape.quarterTurns.toNat)
      let form := (List.range Shape.quarterTurns.toNat).find? fun (n : Nat) =>
        turns.sameNumber (.int n)
      match form with
      | some n => .ok (shape.turned n)
      | none => .error (.noForm shape turns)

/-- Where the cells of the piece lie relative to its pivot. -/
def offsets (p : Piece) : Except Fault (List Offset) :=
  offsetsOf p.shape p.rotation

/-- The four places the piece covers. -/
def cells (p : Piece) : Except Fault (List Cell) :=
  match p.ordinary? with
  | some q => .ok (q.cells.map Cell.ofOrdinary)
  | none => do
      (← p.offsets).mapM fun o => do
        let row ← combined (p.y.add (.int o.dy))
        let col ← combined (p.x.add (.int o.dx))
        .ok ⟨row, col⟩

/-- The piece `dx` columns to the right, `dy` rows down and `turns` quarter turns on. -/
def moved (p : Piece) (dx dy turns : Document) : Except Fault Piece :=
  match p.ordinary?, Raw.ordinary? dx, Raw.ordinary? dy, Raw.ordinary? turns with
  | some q, some dx, some dy, some turns => .ok (ofOrdinary (q.moved dx dy turns))
  | _, _, _, _ => do
      let x ← combined (p.x.add dx)
      let y ← combined (p.y.add dy)
      let turned ← combined (p.rotation.add turns)
      let rotation ← combined (turned.remainder Shape.quarterTurns.toNat)
      .ok { p with x, y, rotation }

end Piece

end FallingBlocks.Raw
