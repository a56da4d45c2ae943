/-
Raw services: a session kept in a store, with settings and rules that nobody has checked, and
with the limits on what is read and written.

What is stored is always checked, so that only the settings and the rules are raw.
-/
import FallingBlocks.Raw.Loading
import FallingBlocks.Service

namespace FallingBlocks.Raw

/-- A store and what is needed to play on what it holds. -/
structure Service where
  store : Store
  settings : Settings := {}
  rules : Rules := {}
  supply : Supply

namespace Service

/-- Why an operation of the service is refused. -/
inductive Fault
  | store (fault : Store.Fault)
  | game (fault : Raw.Fault)

/-- What an operation leaves behind; `saved` tells whether the store was written. -/
structure Turn where
  service : Service
  answer : Except Fault Session.Answer
  saved : Bool := false
  records : List Log.Record := []

/-- A session of this service on a snapshot, or on none. -/
def sessionOn (s : Service) (snapshot : Option Snapshot) : Session :=
  { settings := s.settings, rules := s.rules, supply := s.supply, snapshot }

variable [Machine]

/-- The snapshot in the store. -/
def load (s : Service) : Except Fault FallingBlocks.Snapshot :=
  match s.store.loadWithin .usual with
  | .error fault => .error (.store fault)
  | .ok .null => .error (.game .notInitialized)
  | .ok d => (Raw.load s.settings d).mapError .game

/-- Saves a snapshot and answers `a` once that is done. -/
def commit (s : Service) (after : Snapshot) (a : Session.Answer)
    (records onSave : List Log.Record) : Turn :=
  match s.store.saveWithin .usual after.toDocument with
  | (store, .error fault) =>
      { service := { s with store }, answer := .error (.store fault), records }
  | (store, .ok ()) =>
      { service := { s with store }
        answer := .ok a
        saved := true
        records := records ++ onSave }

/-- Begins a new game, whatever is in the store. -/
def start (s : Service) : Turn :=
  let t := (s.sessionOn none).start
  let s := { s with supply := t.session.supply }
  match t.answer with
  | .error fault => { service := s, answer := .error (.game fault), records := t.records }
  | .ok snapshot => s.commit snapshot (.snapshot snapshot) t.records []

/-- The record that a stored session was changed. -/
def committedRecord (c : FallingBlocks.Session.Command) (score : Document) : Log.Record :=
  ⟨.debug, .service,
    "committed " ++ FallingBlocks.Service.commandName c ++ " -> score="
      ++ ((numberText score).toOption.getD "")⟩

/-- Plays one command on the stored snapshot. -/
def apply (s : Service) (c : FallingBlocks.Session.Command) : Turn :=
  match s.load with
  | .error fault => { service := s, answer := .error fault }
  | .ok before =>
      let before := Snapshot.ofOrdinary before
      let t := (s.sessionOn (some before)).perform c
      let s := { s with supply := t.session.supply }
      match t.answer, t.session.snapshot with
      | .error fault, _ => { service := s, answer := .error (.game fault), records := t.records }
      | .ok a, none => { service := s, answer := .ok a, records := t.records }
      | .ok a, some after =>
          if after.same before then { service := s, answer := .ok a, records := t.records }
          else s.commit after a t.records [committedRecord c after.score]

/-- Carries out a command. -/
def perform (s : Service) (c : FallingBlocks.Session.Command) : Turn :=
  if c = .start then s.start else s.apply c

end Service

end FallingBlocks.Raw
