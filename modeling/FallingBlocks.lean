import FallingBlocks.Action
import FallingBlocks.Action.Reading
import FallingBlocks.Board
import FallingBlocks.Board.Bitmap
import FallingBlocks.Board.Loading
import FallingBlocks.Board.Picture
import FallingBlocks.CommandLine
import FallingBlocks.CommandLine.Options
import FallingBlocks.Config
import FallingBlocks.Config.Reading
import FallingBlocks.Decimal.Binary
import FallingBlocks.Decimal.Digit
import FallingBlocks.Decimal.Real
import FallingBlocks.Decimal.Shortest
import FallingBlocks.Decimal.Whole
import FallingBlocks.Document
import FallingBlocks.Document.Arithmetic
import FallingBlocks.Document.Draft
import FallingBlocks.Document.Limits
import FallingBlocks.Document.Number
import FallingBlocks.Document.Parser
import FallingBlocks.Document.Printer
import FallingBlocks.Environment
import FallingBlocks.Event
import FallingBlocks.Frame
import FallingBlocks.Lock
import FallingBlocks.Log
import FallingBlocks.Log.Setup
import FallingBlocks.Machine
import FallingBlocks.Main
import FallingBlocks.Mask
import FallingBlocks.Piece
import FallingBlocks.Proofs.Acts
import FallingBlocks.Proofs.Board.Bitmap
import FallingBlocks.Proofs.Board.Clearing
import FallingBlocks.Proofs.Board.Columns
import FallingBlocks.Proofs.Board.Compaction
import FallingBlocks.Proofs.Board.Counting
import FallingBlocks.Proofs.Board.Merging
import FallingBlocks.Proofs.Board.Picture
import FallingBlocks.Proofs.Board.Pile
import FallingBlocks.Proofs.CellGame
import FallingBlocks.Proofs.CellGame.Merging
import FallingBlocks.Proofs.CellGame.Step
import FallingBlocks.Proofs.CellGame.Unfinished
import FallingBlocks.Proofs.Change
import FallingBlocks.Proofs.Clearance
import FallingBlocks.Proofs.Conservation
import FallingBlocks.Proofs.Counters
import FallingBlocks.Proofs.Descent
import FallingBlocks.Proofs.Document.Reading
import FallingBlocks.Proofs.Drawing
import FallingBlocks.Proofs.Ending
import FallingBlocks.Proofs.Environment
import FallingBlocks.Proofs.Environment.Episode
import FallingBlocks.Proofs.Environment.Wide
import FallingBlocks.Proofs.Except
import FallingBlocks.Proofs.Forgetting
import FallingBlocks.Proofs.Integrity
import FallingBlocks.Proofs.Interchange
import FallingBlocks.Proofs.Lock
import FallingBlocks.Proofs.Mask
import FallingBlocks.Proofs.Past
import FallingBlocks.Proofs.Piece
import FallingBlocks.Proofs.Pile
import FallingBlocks.Proofs.Progress
import FallingBlocks.Proofs.Queue
import FallingBlocks.Proofs.Raw.Agreement
import FallingBlocks.Proofs.Raw.Atomicity
import FallingBlocks.Proofs.Raw.Landing
import FallingBlocks.Proofs.Raw.Loading
import FallingBlocks.Proofs.Raw.Locking
import FallingBlocks.Proofs.Raw.Refusal
import FallingBlocks.Proofs.Raw.Serving
import FallingBlocks.Proofs.Raw.Whole
import FallingBlocks.Proofs.Refinement
import FallingBlocks.Proofs.Report
import FallingBlocks.Proofs.Restart
import FallingBlocks.Proofs.Reversal
import FallingBlocks.Proofs.Runs
import FallingBlocks.Proofs.Safety
import FallingBlocks.Proofs.Service
import FallingBlocks.Proofs.Simulation
import FallingBlocks.Proofs.Snapshot
import FallingBlocks.Proofs.Snapshot.Boundary
import FallingBlocks.Proofs.Snapshot.Encoding
import FallingBlocks.Proofs.Snapshot.Escapes
import FallingBlocks.Proofs.Snapshot.Loading
import FallingBlocks.Proofs.Snapshot.Spelling
import FallingBlocks.Proofs.Storable
import FallingBlocks.Proofs.Store
import FallingBlocks.Proofs.Store.Disk
import FallingBlocks.Proofs.Unfinished
import FallingBlocks.Proofs.Well
import FallingBlocks.Random.Digest
import FallingBlocks.Random.Seed
import FallingBlocks.Random.Twister
import FallingBlocks.RandomPlay
import FallingBlocks.Raw.Board
import FallingBlocks.Raw.Environment
import FallingBlocks.Raw.Fault
import FallingBlocks.Raw.Frame
import FallingBlocks.Raw.Loading
import FallingBlocks.Raw.Lock
import FallingBlocks.Raw.Piece
import FallingBlocks.Raw.Rules
import FallingBlocks.Raw.Service
import FallingBlocks.Raw.Session
import FallingBlocks.Raw.Snapshot
import FallingBlocks.Raw.Table
import FallingBlocks.Raw.Well
import FallingBlocks.Rules
import FallingBlocks.Service
import FallingBlocks.Session
import FallingBlocks.Shape
import FallingBlocks.Shape.Reading
import FallingBlocks.Snapshot
import FallingBlocks.Snapshot.Encoding
import FallingBlocks.Snapshot.Loading
import FallingBlocks.Store
import FallingBlocks.Store.Disk
import FallingBlocks.Store.Disk.Path
import FallingBlocks.Supply
import FallingBlocks.Supply.Reading
import FallingBlocks.Supply.Seeded
import FallingBlocks.Text
import FallingBlocks.Text.Blank
import FallingBlocks.Text.Bytes
import FallingBlocks.Text.Capital
import FallingBlocks.Text.Class
import FallingBlocks.Text.Lines
import FallingBlocks.Text.Printable
import FallingBlocks.Text.Quoted
import FallingBlocks.Text.Template
import FallingBlocks.Well
