/-
The game on a set of cells.

This is the same game without row masks, frames or faults: a position holds the pile as
a set, and every operation says what becomes of that set.  A piece descends, moves and
turns where the pile admits it.  A piece that is locked joins the pile, the complete
rows are taken out and the rest sinks; a piece with a cell above the board ends the
game instead.

A game answers the same requests as a session, and refuses them for the same two
reasons: no game has begun, or what was asked for is no action.
-/
import FallingBlocks.Session
import FallingBlocks.Proofs.Pile

namespace FallingBlocks

/-- A game as a set of cells, two pieces and the counters. -/
structure Position where
  pile : Pile
  current : Piece
  next : Piece
  score : Int
  level : Int
  linesCleared : Int
  gameOver : Bool
  deriving DecidableEq

namespace Position

/-- Whether the pile admits a piece on the board of a configuration. -/
def Admits (x : Position) (c : Config) (p : Piece) : Prop :=
  x.pile.Admits c.width c.height p

instance (x : Position) (c : Config) (p : Piece) : Decidable (x.Admits c p) :=
  inferInstanceAs (Decidable (x.pile.Admits c.width c.height p))

/-- Puts the piece elsewhere if it is admitted there, and says whether it was. -/
def shift (x : Position) (c : Config) (dx dy turns : Int) : Position × Bool :=
  if x.Admits c (x.current.moved dx dy turns) then
    ({ x with current := x.current.moved dx dy turns }, true)
  else (x, false)

theorem shift_of_admits {x : Position} {c : Config} {dx dy turns : Int}
    (h : x.Admits c (x.current.moved dx dy turns)) :
    x.shift c dx dy turns = ({ x with current := x.current.moved dx dy turns }, true) := if_pos h

theorem shift_of_blocked {x : Position} {c : Config} {dx dy turns : Int}
    (h : ¬ x.Admits c (x.current.moved dx dy turns)) : x.shift c dx dy turns = (x, false) :=
  if_neg h

/-- Lets the piece descend for as long as it is admitted, and counts the rows. -/
def fall (x : Position) (c : Config) : Position × Nat :=
  let bottom := x.pile.fall c.width c.height x.current
  ({ x with current := bottom.1 }, bottom.2)

/-- A fallen piece is where it was, or some rows further down where it was admitted. -/
theorem fall_current (x : Position) (c : Config) :
    (x.fall c).1.current = x.current ∨
      ∃ rows, (x.fall c).1.current = x.current.moved 0 rows 0 ∧ x.Admits c (x.fall c).1.current := by
  refine Pile.fall_induction
    (P := fun p => p = x.current ∨ ∃ rows, p = x.current.moved 0 rows 0 ∧ x.Admits c p)
    (fun p hp hadmits => ?_) x.current (Or.inl rfl)
  refine Or.inr ?_
  rcases hp with rfl | ⟨rows, rfl, -⟩
  · exact ⟨1, rfl, hadmits⟩
  · exact ⟨rows + 1, Piece.moved_moved _ _ _ _ _ _ _, hadmits⟩

theorem fall_blocked (x : Position) (c : Config) :
    ¬ x.Admits c ((x.fall c).1.current.moved 0 1 0) :=
  x.pile.fall_blocked c.width c.height x.current

/-- What a lock leaves behind. -/
structure Locked where
  position : Position
  supply : Supply
  account : LockResult

/-- The game ended by a piece that rests above the board. -/
def restedAbove (x : Position) (supply : Supply) : Locked :=
  { position := { x with gameOver := true }, supply, account := { toppedOut := true } }

/-- The piece joins the pile, complete rows are taken out, and the next piece enters. -/
def landed (x : Position) (c : Config) (rules : Rules) (supply : Supply) : Locked :=
  let merged := x.pile ∪ x.current.cells.toFinset
  let full := merged.completed c.width c.height
  let pile := merged.sunk full
  let lines : Int := full.card
  let level := rules.levelAfter (x.linesCleared + lines) x.level
  let current := c.entering x.next.shape
  let gameOver := !decide (pile.Admits c.width c.height current)
  { position :=
      { pile
        current
        next := c.entering supply.draw.1
        score := x.score + rules.scoreForLines lines x.level
        level
        linesCleared := x.linesCleared + lines
        gameOver }
    supply := supply.draw.2
    account :=
      { linesCleared := lines
        scoreDelta := rules.scoreForLines lines x.level
        leveledUp := decide (level ≠ x.level)
        toppedOut := gameOver } }

/-- Locks the falling piece. -/
def lock (x : Position) (c : Config) (rules : Rules) (supply : Supply) : Locked :=
  if x.current.Above then x.restedAbove supply else x.landed c rules supply

theorem lock_of_above {x : Position} {c : Config} {rules : Rules} {supply : Supply}
    (h : x.current.Above) : x.lock c rules supply = x.restedAbove supply := if_pos h

theorem lock_of_not_above {x : Position} {c : Config} {rules : Rules} {supply : Supply}
    (h : ¬ x.current.Above) : x.lock c rules supply = x.landed c rules supply := if_neg h

end Position

/-- A game on a set of cells, with the supply it draws from and the account of its last lock. -/
structure CellGame where
  config : Config
  rules : Rules
  supply : Supply
  lastLock : Option LockResult
  position : Option Position

namespace CellGame

/-- What operations answer. -/
inductive Answer
  | position (x : Position)
  | done (moved : Bool)
  | rows (count : Nat)
  | report (after : Position) (gained : Int) (gameOver : Bool) (info : Option Session.StepInfo)

/-- The game after an operation, and the answer. -/
structure Turn where
  game : CellGame
  answer : Except Session.Fault Answer

/-- An operation on the falling piece; once the game is over it is answered with `idle`. -/
def act (g : CellGame) (idle : Answer) (op : Position → CellGame × Answer) : Turn :=
  match g.position with
  | none => ⟨g, .error .notInitialized⟩
  | some x => if x.gameOver then ⟨g, .ok idle⟩ else ⟨(op x).1, .ok (op x).2⟩

theorem act_none {g : CellGame} {idle : Answer} {op : Position → CellGame × Answer}
    (h : g.position = none) : g.act idle op = ⟨g, .error .notInitialized⟩ := by
  simp [act, h]

theorem act_over {g : CellGame} {idle : Answer} {op : Position → CellGame × Answer} {x : Position}
    (hx : g.position = some x) (hover : x.gameOver = true) : g.act idle op = ⟨g, .ok idle⟩ := by
  simp [act, hx, hover]

theorem act_running {g : CellGame} {idle : Answer} {op : Position → CellGame × Answer}
    {x : Position} (hx : g.position = some x) (hover : x.gameOver = false) :
    g.act idle op = ⟨(op x).1, .ok (op x).2⟩ := by
  simp [act, hx, hover]

/-- The game with its piece locked. -/
def settle (g : CellGame) (x : Position) : CellGame :=
  let l := x.lock g.config g.rules g.supply
  { g with supply := l.supply, lastLock := some l.account, position := some l.position }

/-- Begins a new game with nothing on the board and two shapes drawn. -/
def start (g : CellGame) : Turn :=
  let x : Position :=
    { pile := ∅
      current := g.config.entering g.supply.draw.1
      next := g.config.entering g.supply.draw.2.draw.1
      score := 0
      level := 1
      linesCleared := 0
      gameOver := false }
  ⟨{ g with supply := g.supply.draw.2.draw.2, lastLock := none, position := some x },
    .ok (.position x)⟩

/-- An answer made from the position of a game that has begun. -/
def observe (g : CellGame) (f : Position → Answer) : Turn :=
  match g.position with
  | none => ⟨g, .error .notInitialized⟩
  | some x => ⟨g, .ok (f x)⟩

theorem observe_game (g : CellGame) (f : Position → Answer) : (g.observe f).game = g := by
  unfold observe
  split <;> rfl

/-- The position of a game that has begun. -/
def look (g : CellGame) : Turn := g.observe .position

/-- Moves the piece if the pile admits it there. -/
def move (g : CellGame) (dx dy turns : Int) : Turn :=
  g.act (.done false) fun x =>
    let there := x.shift g.config dx dy turns
    ({ g with position := some there.1 }, .done there.2)

/-- One row down, or a lock. -/
def softDrop (g : CellGame) : Turn :=
  g.act (.done false) fun x =>
    let there := x.shift g.config 0 1 0
    if there.2 then ({ g with position := some there.1 }, .done true)
    else (g.settle x, .done false)

/-- Down as far as it goes, and a lock. -/
def hardDrop (g : CellGame) : Turn :=
  g.act (.rows 0) fun x =>
    let there := x.fall g.config
    (g.settle there.1, .rows there.2)

/-- What comes after an operation, unless the operation was refused. -/
def Turn.andThen (t next : Turn) : Turn :=
  match t.answer with
  | .error fault => ⟨t.game, .error fault⟩
  | .ok _ => next

/-- A soft drop that is answered with the position. -/
def tick (g : CellGame) : Turn :=
  g.softDrop.andThen g.softDrop.game.look

/-- Carries out a command. -/
def perform (g : CellGame) : Session.Command → Turn
  | .start => g.start
  | .look => g.look
  | .moveLeft => g.move (-1) 0 0
  | .moveRight => g.move 1 0 0
  | .rotate => g.move 0 0 1
  | .softDrop => g.softDrop
  | .hardDrop => g.hardDrop
  | .tick => g.tick

/-- The report on the step that led from one position to another. -/
def report (before after : Position) (lock : Option LockResult) : Answer :=
  .report after (after.score - before.score) after.gameOver
    (some
      { score := after.score
        level := after.level
        linesCleared := after.linesCleared
        locked := lock.map (·.linesCleared) })

/-- Carries out an action and reports on it. -/
def step (g : CellGame) (request : Except Action.Fault Action) : Turn :=
  match g.position with
  | none => ⟨g, .error .notInitialized⟩
  | some before =>
      if before.gameOver then ⟨g, .ok (.report before 0 true none)⟩
      else
        let fresh := { g with lastLock := none }
        match request with
        | .error fault => ⟨fresh, .error (.action fault)⟩
        | .ok action =>
            let t := fresh.perform (Session.commandOf action)
            t.andThen (t.game.observe fun after => report before after t.game.lastLock)

theorem step_none {g : CellGame} (h : g.position = none) (request : Except Action.Fault Action) :
    g.step request = ⟨g, .error .notInitialized⟩ := by
  simp [step, h]

theorem step_over {g : CellGame} {before : Position} (h : g.position = some before)
    (hover : before.gameOver = true) (request : Except Action.Fault Action) :
    g.step request = ⟨g, .ok (.report before 0 true none)⟩ := by
  simp [step, h, hover]

theorem step_refused {g : CellGame} {before : Position} (h : g.position = some before)
    (hover : before.gameOver = false) (fault : Action.Fault) :
    g.step (.error fault) = ⟨{ g with lastLock := none }, .error (.action fault)⟩ := by
  simp [step, h, hover]

theorem step_action {g : CellGame} {before : Position} (h : g.position = some before)
    (hover : before.gameOver = false) (action : Action) :
    g.step (.ok action) =
      let t := { g with lastLock := none }.perform (Session.commandOf action)
      t.andThen (t.game.observe fun after => report before after t.game.lastLock) := by
  simp [step, h, hover]

/-- Carries out a request. -/
def submit (g : CellGame) : Session.Request → Turn
  | .command c => g.perform c
  | .step request => g.step request

/-- The game after a list of requests, whether or not they were granted. -/
def after (g : CellGame) (requests : List Session.Request) : CellGame :=
  requests.foldl (fun g r => (g.submit r).game) g

/-- The answers to a list of requests, in order. -/
def replies (g : CellGame) : List Session.Request → List (Except Session.Fault Answer)
  | [] => []
  | r :: rest => (g.submit r).answer :: (g.submit r).game.replies rest

end CellGame

end FallingBlocks
