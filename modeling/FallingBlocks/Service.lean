/-
The service: a session kept in a store.

Every operation loads the stored document, checks it, plays on a session of its own, and
saves the new snapshot if it differs from the old one.  The supply of shapes is the only
thing that the service itself remembers between operations.

The store is read and written within limits.  A save comes last, so that what it refuses has
been played already.
-/
import FallingBlocks.Session
import FallingBlocks.Snapshot.Encoding
import FallingBlocks.Snapshot.Loading
import FallingBlocks.Store

namespace FallingBlocks

/-- A store and what is needed to play on what it holds. -/
structure Service where
  store : Store
  config : Config
  rules : Rules := {}
  supply : Supply
  /-- What the store is read and written within. -/
  limits : Document.Limits := .unlimited

namespace Service

/-- Why an operation of the service is refused. -/
inductive Fault
  | store (fault : Store.Fault)
  | snapshot (fault : Snapshot.Fault)
  | session (fault : Session.Fault)

/-- What an operation leaves behind; `saved` tells whether the store was written. -/
structure Turn where
  service : Service
  answer : Except Fault Session.Answer
  saved : Bool := false
  events : List Event := []

/-- A session of this service on a snapshot, or on none. -/
def sessionOn (s : Service) (snapshot : Option Snapshot) : Session :=
  { config := s.config, rules := s.rules, supply := s.supply, snapshot }

/-- The snapshot in the store. -/
def load (s : Service) : Except Fault Snapshot :=
  match s.store.loadWithin s.limits with
  | .error fault => .error (.store fault)
  | .ok .null => .error (.session .notInitialized)
  | .ok d => (Snapshot.load s.config d).mapError .snapshot

/-- The name of a command in the log. -/
def commandName : Session.Command → String
  | .start => "initialize"
  | .look => "get_state"
  | .moveLeft => "move_left"
  | .moveRight => "move_right"
  | .rotate => "rotate"
  | .softDrop => "soft_drop"
  | .hardDrop => "hard_drop"
  | .tick => "advance_tick"

/-- Saves a snapshot and answers `a` once that is done. -/
def commit (s : Service) (after : Snapshot) (a : Session.Answer) (events onSave : List Event) :
    Turn :=
  match s.store.saveWithin s.limits after.toDocument with
  | (store, .error fault) =>
      { service := { s with store }, answer := .error (.store fault), events }
  | (store, .ok ()) =>
      { service := { s with store }, answer := .ok a, saved := true, events := events ++ onSave }

/-- Begins a new game, whatever is in the store. -/
def start (s : Service) : Turn :=
  let t := (s.sessionOn none).start
  let s := { s with supply := t.session.supply }
  match t.answer with
  | .error fault => { service := s, answer := .error (.session fault), events := t.events }
  | .ok snapshot => s.commit snapshot (.snapshot snapshot) t.events []

/-- Plays one command on the stored snapshot. -/
def apply (s : Service) (c : Session.Command) : Turn :=
  match s.load with
  | .error fault => { service := s, answer := .error fault }
  | .ok before =>
      let t := (s.sessionOn (some before)).perform c
      let s := { s with supply := t.session.supply }
      match t.answer, t.session.snapshot with
      | .error fault, _ =>
          { service := s, answer := .error (.session fault), events := t.events }
      | .ok a, none => { service := s, answer := .ok a, events := t.events }
      | .ok a, some after =>
          if after = before then { service := s, answer := .ok a, events := t.events }
          else s.commit after a t.events [.committed (commandName c) after.score]

/-- Carries out a command. -/
def perform (s : Service) : Session.Command → Turn
  | .start => s.start
  | c => s.apply c

end Service

end FallingBlocks
