/-
A service plays one long game.

Every operation of a service reads the stored document, plays on a session of its own and
writes the new snapshot back if it differs.  None of this shows from outside: where pieces
have room to enter and no score is taken away, the service answers as one session does
that goes on from operation to operation, draws the same shapes, and keeps a document of
the very snapshot that this session holds.

What carries this along is that what is written can be read: the snapshot that an
operation leaves behind passes the reader's checks, so the next operation begins where
this one ended.  There are two exceptions.  A new game is written down whether or not the
store held the same snapshot, and takes the place of a document that spelled it in another
way.  And a snapshot with more digits than the store takes is not written down at all: the
operation has been played, and is refused all the same.
-/
import FallingBlocks.Service
import FallingBlocks.Proofs.Forgetting
import FallingBlocks.Proofs.Storable
import FallingBlocks.Proofs.Store

namespace FallingBlocks

/-! ### One command of a session -/

namespace Session

variable {s : Session}

/-- A command is granted exactly when it is granted as a request. -/
theorem perform_ok_of_submit {command : Command} {reply : Reply}
    (h : (s.submit (.command command)).answer = .ok reply) :
    ∃ answer, (s.perform command).answer = .ok answer := by
  simp only [submit, Turn.map] at h
  cases hanswer : (s.perform command).answer with
  | error fault => simp [hanswer, Except.map] at h
  | ok answer => exact ⟨answer, rfl⟩

/-- What a command that is granted leaves behind: a game that goes on and can be stored. -/
structure Stored (s : Session) (t : Turn Answer) (answer : Answer) (last : Snapshot) : Prop where
  answer : t.answer = .ok answer
  snapshot : t.session.snapshot = some last
  accepted : last.Accepted s.config
  config : t.session.config = s.config
  rules : t.session.rules = s.rules

/-- **On a snapshot that the reader accepts a command is granted, and leaves one behind.** -/
theorem perform_stored (hwidth : 4 ≤ s.config.width) (hrow : s.config.spawnY + 1 < s.config.height)
    (hscores : ∀ a ∈ s.rules.scores, 0 ≤ a)
    (haccepted : ∀ snap, s.snapshot = some snap → snap.Accepted s.config) {command : Command}
    (hfirst : s.snapshot = none → command = .start) :
    ∃ answer last, Stored s (s.perform command) answer last := by
  by_cases hstart : command = .start
  · subst hstart
    have hstorable : s.start.session.cellGame.Storable s.config s.rules := by
      rw [start_game]
      exact CellGame.storable_start hwidth hrow rfl rfl
    obtain ⟨last, hlast, hlastok⟩ := exists_accepted (sound_start s) hstorable
    exact ⟨_, last, rfl, hlast, hlastok, rfl, rfl⟩
  · cases hsnap : s.snapshot with
    | none => exact absurd (hfirst hsnap) hstart
    | some before =>
        have hbefore := haccepted before hsnap
        have hs : s.Sound := sound_of_inside hsnap hbefore.tidy hbefore.current
        have hsteady : s.cellGame.Steady := by
          intro x hx
          rw [cellGame_position hsnap] at hx
          cases hx
          exact Or.inr (Or.inr hbefore.current)
        have hrequest : Request.command command ≠ .command .start :=
          fun h => hstart (Request.command.inj h)
        obtain ⟨reply, hreply⟩ := submit_granted hs hsteady ⟨_, cellGame_position hsnap⟩
          (r := .command command) trivial
        obtain ⟨answer, hanswer⟩ := perform_ok_of_submit hreply
        have hafter := (submit_step hs hrequest).storable hwidth hrow hscores
          (storable_of_accepted hsnap hbefore)
        obtain ⟨last, hlast, hlastok⟩ := exists_accepted (hs.submit _) hafter
        exact ⟨answer, last, hanswer, hlast, hlastok, hafter.config, hafter.rules⟩

end Session

/-! ### Services -/

namespace Service

variable {v : Service} {data : Document}

/-- What a store in memory holds: nothing, or a document that writes this snapshot. -/
def Stores (v : Service) : Option Snapshot → Prop
  | none => v.store = .memory .null
  | some snap => ∃ d, v.store = .memory d ∧ v.store.loadWithin v.limits = .ok d ∧
      Snapshot.load v.config d = .ok snap

theorem load_eq {d : Document} {snap : Snapshot} (hread : v.store.loadWithin v.limits = .ok d)
    (hload : Snapshot.load v.config d = .ok snap) : v.load = .ok snap := by
  rw [load, hread]
  cases d with
  | null => exact nomatch hload
  | _ => simp only [hload, Except.mapError]

theorem Stores.accepted {snapshot : Option Snapshot} (h : v.Stores snapshot) (snap : Snapshot)
    (hsnap : snapshot = some snap) : snap.Accepted v.config := by
  subst hsnap
  obtain ⟨d, -, -, hload⟩ := h
  exact Snapshot.accepted_of_load hload

theorem Stores.memory {snapshot : Option Snapshot} (h : v.Stores snapshot) :
    ∃ d, v.store = .memory d := by
  cases snapshot with
  | none => exact ⟨_, h⟩
  | some snap => exact ⟨_, h.choose_spec.1⟩

section Saving

variable (after : Snapshot) (a : Session.Answer) (events onSave : List Event)

/-- What can be written is saved to memory. -/
theorem commit_written (hstore : v.store = .memory data)
    (hshort : after.toDocument.hasTooLong v.limits = false) :
    (v.commit after a events onSave).service = { v with store := .memory after.toDocument } ∧
      (v.commit after a events onSave).answer = .ok a := by
  rw [commit, hstore, Store.saveWithin_memory, hshort, if_neg Bool.false_ne_true]
  exact ⟨rfl, rfl⟩

/-- What cannot be written leaves the memory as it is. -/
theorem commit_unwritten (hstore : v.store = .memory data)
    (hlong : after.toDocument.hasTooLong v.limits = true) :
    (v.commit after a events onSave).service = v ∧
      (v.commit after a events onSave).answer = .error (.store .tooManyDigits) := by
  rw [commit, hstore, Store.saveWithin_memory, hlong, if_pos rfl]
  exact ⟨by rw [← hstore], rfl⟩

end Saving

/-- What a session on this snapshot does with a command. -/
def play (v : Service) (snapshot : Option Snapshot) (command : Session.Command) :
    Session.Turn Session.Answer :=
  (v.sessionOn snapshot).perform command

/-- The store is spared: the command begins no new game, and has changed nothing. -/
def Spares (snapshot : Option Snapshot) (command : Session.Command) (last : Snapshot) : Prop :=
  command ≠ .start ∧ snapshot = some last

instance (snapshot : Option Snapshot) (command : Session.Command) (last : Snapshot) :
    Decidable (Spares snapshot command last) :=
  inferInstanceAs (Decidable (_ ∧ _))

/-- The service after an operation that left this snapshot behind and was not refused. -/
def settled (v : Service) (snapshot : Option Snapshot) (command : Session.Command)
    (last : Snapshot) : Service :=
  { v with
    supply := (v.play snapshot command).session.supply
    store := if Spares snapshot command last then v.store else .memory last.toDocument }

/-- Every command but the one for a new game is played on what is in the store. -/
theorem perform_of_ne_start {command : Session.Command} (hstart : command ≠ .start) :
    v.perform command = v.apply command := by
  cases command with
  | start => exact absurd rfl hstart
  | _ => rfl

section Playing

variable {snapshot : Option Snapshot} {command : Session.Command} {answer : Session.Answer}
  {last : Snapshot} (hstores : v.Stores snapshot) (hfirst : snapshot = none → command = .start)
  (hanswer : (v.play snapshot command).answer = .ok answer)
  (hlast : (v.play snapshot command).session.snapshot = some last)

include hstores hfirst hanswer hlast

/-- What is left of an operation once it was played, unless the store is spared: the save. -/
theorem perform_eq_commit (hspared : ¬ Spares snapshot command last) :
    ∃ events onSave, v.perform command =
      commit { v with supply := (v.play snapshot command).session.supply } last answer
        events onSave := by
  by_cases hstart : command = .start
  · subst hstart
    have hsame : v.play snapshot .start = ((v.sessionOn none).start).map .snapshot := rfl
    rw [hsame] at hanswer hlast ⊢
    cases hanswer
    cases hlast
    exact ⟨_, _, rfl⟩
  · cases snapshot with
    | none => exact absurd (hfirst rfl) hstart
    | some before =>
        obtain ⟨d, -, hread, hload⟩ := hstores
        have hchanged : last ≠ before := by
          rintro rfl
          exact hspared ⟨hstart, rfl⟩
        simp only [play] at hanswer hlast ⊢
        simp only [perform_of_ne_start hstart, apply, load_eq hread hload, hanswer, hlast,
          if_neg hchanged]
        exact ⟨_, _, rfl⟩

theorem perform_spared (hspared : Spares snapshot command last) :
    (v.perform command).answer = .ok answer ∧
      (v.perform command).service = v.settled snapshot command last := by
  obtain ⟨hstart, rfl⟩ := id hspared
  obtain ⟨d, -, hread, hload⟩ := hstores
  simp only [play] at hanswer hlast
  simp only [perform_of_ne_start hstart, apply, load_eq hread hload, hanswer, hlast, settled,
    if_pos hspared, if_true, play, and_self]

/-- **An operation is what the session does**, and the store is written if it has to be. -/
theorem perform_settled
    (h : Spares snapshot command last ∨ last.toDocument.hasTooLong v.limits = false) :
    (v.perform command).answer = .ok answer ∧
      (v.perform command).service = v.settled snapshot command last := by
  by_cases hspared : Spares snapshot command last
  · exact perform_spared hstores hfirst hanswer hlast hspared
  · obtain ⟨d, hmemory⟩ := hstores.memory
    obtain ⟨events, onSave, hcommit⟩ := perform_eq_commit hstores hfirst hanswer hlast hspared
    have hwritten := commit_written last answer events onSave
      (v := { v with supply := (v.play snapshot command).session.supply }) hmemory
      (h.resolve_left hspared)
    rw [hcommit, hwritten.1, hwritten.2, settled, if_neg hspared]
    exact ⟨rfl, rfl⟩

/-- **What cannot be written has been played for nothing**: only the shapes are drawn. -/
theorem perform_unwritten (hspared : ¬ Spares snapshot command last)
    (hlong : last.toDocument.hasTooLong v.limits = true) :
    (v.perform command).answer = .error (.store .tooManyDigits) ∧
      (v.perform command).service =
        { v with supply := (v.play snapshot command).session.supply } := by
  obtain ⟨d, hmemory⟩ := hstores.memory
  obtain ⟨events, onSave, hcommit⟩ := perform_eq_commit hstores hfirst hanswer hlast hspared
  have hunwritten := commit_unwritten last answer events onSave
    (v := { v with supply := (v.play snapshot command).session.supply }) hmemory hlong
  rw [hcommit, hunwritten.1, hunwritten.2]
  exact ⟨rfl, rfl⟩

end Playing

/-! ### Runs -/

/-- The service after a list of commands, whether or not they were granted. -/
def after (v : Service) (commands : List Session.Command) : Service :=
  commands.foldl (fun v command => (v.perform command).service) v

/-- All the commands of a list are granted, one after the other. -/
def Grants (v : Service) : List Session.Command → Prop
  | [] => True
  | c :: rest => (∃ a, (v.perform c).answer = .ok a) ∧ (v.perform c).service.Grants rest

/-- A service and a session with the same settings and supply, on the same snapshot. -/
structure Tracks (v : Service) (s : Session) : Prop where
  session : v.sessionOn s.snapshot = s.forget
  stores : v.Stores s.snapshot

/-- A service that a game can be played over: pieces have room to enter, and no score is lost. -/
structure Playable (v : Service) : Prop where
  width : 4 ≤ v.config.width
  row : v.config.spawnY + 1 < v.config.height
  scores : ∀ a ∈ v.rules.scores, 0 ≤ a
  /-- The document of a snapshot does not go too deep for the store. -/
  depth : Document.Limits.beyond v.limits.depth Snapshot.documentDepth = false

variable {s : Session}

/-- What is in the store afterwards is read as the snapshot that was left behind. -/
theorem stores_settled {snapshot : Option Snapshot} (h : v.Stores snapshot) (hv : v.Playable)
    (command : Session.Command) {last : Snapshot} (hlast : last.Accepted v.config)
    (hkept : Spares snapshot command last ∨ last.toDocument.hasTooLong v.limits = false) :
    (v.settled snapshot command last).Stores (some last) := by
  by_cases hspared : Spares snapshot command last
  · rw [hspared.2] at h
    obtain ⟨d, hstore, hread, hload⟩ := h
    have hsame : (v.settled snapshot command last).store = v.store := if_pos hspared
    exact ⟨d, hsame.trans hstore, (congrArg _ hsame).trans hread, hload⟩
  · have hstore : (v.settled snapshot command last).store = .memory last.toDocument :=
      if_neg hspared
    have hflat : last.toDocument.isTooDeep v.limits = false := by
      rw [Document.isTooDeep, last.depth_toDocument, hv.depth]
    have hread := Store.loadWithin_memory (hkept.resolve_left hspared) hflat
    exact ⟨_, hstore, (congrArg _ hstore).trans hread, Snapshot.load_toDocument hlast⟩

/-- **One command of a service is one command of the session it stands for.** -/
theorem Tracks.perform (h : Tracks v s) (hv : v.Playable) {command : Session.Command}
    (hfirst : s.snapshot = none → command = .start) :
    ∃ answer last,
      (s.perform command).answer = .ok answer ∧
      (s.perform command).session.snapshot = some last ∧
      (v.perform command).service.supply = (s.perform command).session.supply ∧
      ((v.perform command).answer = .ok answer ∧
          (v.perform command).service = v.settled s.snapshot command last ∧
          Tracks (v.perform command).service (s.perform command).session ∨
        (v.perform command).answer = .error (.store .tooManyDigits) ∧
          (v.perform command).service.store = v.store ∧
          ¬ Spares s.snapshot command last ∧ last.toDocument.hasTooLong v.limits = true) := by
  obtain ⟨answer, last, hstored⟩ := Session.perform_stored (s := v.sessionOn s.snapshot) hv.width
    hv.row hv.scores h.stores.accepted hfirst
  have hforget : (v.play s.snapshot command).forget = (s.perform command).forget := by
    rw [play, h.session]
    exact Session.perform_forget s command
  obtain ⟨hsession, hsame, -⟩ := Session.Turn.mk.inj hforget
  obtain ⟨-, -, hsupply, -, hsnapshot⟩ := Session.mk.inj hsession
  have hsnap : (s.perform command).session.snapshot = some last :=
    hsnapshot.symm.trans hstored.snapshot
  refine ⟨answer, last, hsame.symm.trans hstored.answer, hsnap, ?_⟩
  by_cases hkept : Spares s.snapshot command last ∨ last.toDocument.hasTooLong v.limits = false
  · obtain ⟨hanswer, hservice⟩ :=
      perform_settled h.stores hfirst hstored.answer hstored.snapshot hkept
    rw [hservice]
    refine ⟨hsupply, .inl ⟨hanswer, rfl, ?_, ?_⟩⟩
    · rw [hsnap]
      refine Eq.trans ?_ hsession
      simp only [settled, sessionOn, Session.forget, Session.mk.injEq]
      exact ⟨hstored.config.symm, hstored.rules.symm, trivial, trivial, hstored.snapshot.symm⟩
    · rw [hsnap]
      exact stores_settled h.stores hv command hstored.accepted hkept
  · rw [not_or, Bool.not_eq_false] at hkept
    obtain ⟨hanswer, hservice⟩ :=
      perform_unwritten h.stores hfirst hstored.answer hstored.snapshot hkept.1 hkept.2
    rw [hservice]
    exact ⟨hsupply, .inr ⟨hanswer, rfl, hkept.1, hkept.2⟩⟩

/-- A service goes on standing for the session, and a game has begun by the next command. -/
theorem Tracks.after (h : Tracks v s) (hv : v.Playable) {earlier : List Session.Command}
    {command : Session.Command}
    (hfirst : s.snapshot = none → (earlier ++ [command]).head? = some .start)
    (hgranted : v.Grants earlier) :
    Tracks (v.after earlier) (s.after (earlier.map .command)) ∧
      (v.after earlier).config = v.config ∧ (v.after earlier).rules = v.rules ∧
      (v.after earlier).limits = v.limits ∧
      ((s.after (earlier.map .command)).snapshot = none → command = .start) := by
  induction earlier generalizing v s with
  | nil => exact ⟨h, rfl, rfl, rfl, fun hnone => Option.some.inj (hfirst hnone)⟩
  | cons c rest ih =>
      obtain ⟨⟨a, ha⟩, hrest⟩ := hgranted
      obtain ⟨-, last, -, hlast, -, ⟨-, hservice, htracks⟩ | ⟨hrefused, -⟩⟩ := h.perform hv
        fun hnone => Option.some.inj (hfirst hnone)
      · have hplayable : (v.perform c).service.Playable := by
          rw [hservice]
          exact ⟨hv.width, hv.row, hv.scores, hv.depth⟩
        have hkept : (v.perform c).service.config = v.config ∧
            (v.perform c).service.rules = v.rules ∧ (v.perform c).service.limits = v.limits := by
          rw [hservice]
          exact ⟨rfl, rfl, rfl⟩
        obtain ⟨htracks', hconfig, hrules, hlimits, hbegun⟩ := ih htracks hplayable
          (fun hnone => nomatch hlast.symm.trans hnone) hrest
        exact ⟨htracks', hconfig.trans hkept.1, hrules.trans hkept.2.1,
          hlimits.trans hkept.2.2, hbegun⟩
      · rw [hrefused] at ha
        exact nomatch ha

/--
**A service plays as one session that goes on.**  After any commands that were all granted, the
next one is granted by the session, and draws the same shapes from both.  Either the service
grants it with the same answer, the store then holds a document that is loaded as the snapshot
of that session, and it is left alone if it held this snapshot before, unless the command is
for a new game.  Or the snapshot has to be written and has a number with too many digits: then
the store refuses it, and stays as it was.
-/
theorem plays_one_session (hv : v.Playable) {first : Option Snapshot} (hstores : v.Stores first)
    (earlier : List Session.Command) (command : Session.Command)
    (hfirst : first = none → (earlier ++ [command]).head? = some .start)
    (hgranted : v.Grants earlier) :
    let now := v.after earlier
    let s := (v.sessionOn first).after (earlier.map .command)
    let t := now.perform command
    ∃ answer last,
      (s.perform command).answer = .ok answer ∧
      (s.perform command).session.snapshot = some last ∧
      t.service.supply = (s.perform command).session.supply ∧
      (t.answer = .ok answer ∧
          (∃ d, t.service.store = .memory d ∧ t.service.store.loadWithin v.limits = .ok d ∧
            Snapshot.load v.config d = .ok last) ∧
          t.service.store =
            (if Spares s.snapshot command last then now.store else .memory last.toDocument) ∨
        t.answer = .error (.store .tooManyDigits) ∧ t.service.store = now.store ∧
          ¬ Spares s.snapshot command last ∧ last.toDocument.hasTooLong v.limits = true) := by
  intro now s t
  have htracks : Tracks v (v.sessionOn first) := ⟨rfl, hstores⟩
  obtain ⟨hnow, hconfig, hrules, hlimits, hbegun⟩ := htracks.after hv hfirst hgranted
  have hplayable : now.Playable := by
    refine ⟨?_, ?_, ?_, ?_⟩
    · rw [hconfig]
      exact hv.width
    · rw [hconfig]
      exact hv.row
    · rw [hrules]
      exact hv.scores
    · rw [hlimits]
      exact hv.depth
  obtain ⟨answer, last, hanswer, hlast, hsupply, houtcome⟩ := hnow.perform hplayable hbegun
  refine ⟨answer, last, hanswer, hlast, hsupply, ?_⟩
  rw [← hconfig, ← hlimits]
  rcases houtcome with ⟨hsame, hservice, hafter⟩ | hrefused
  · have hstored := hafter.stores
    rw [hlast] at hstored
    obtain ⟨d, hstore, hread, hload⟩ := hstored
    have hsettled : t.service = now.settled s.snapshot command last := hservice
    have hsame' : t.service.config = now.config ∧ t.service.limits = now.limits := by
      rw [hsettled]
      exact ⟨rfl, rfl⟩
    rw [hsame'.1] at hload
    rw [hsame'.2] at hread
    exact .inl ⟨hsame, ⟨d, hstore, hread, hload⟩, congrArg store hsettled⟩
  · exact .inr hrefused

/-- A new game of two squares, its shapes spelled in small letters. -/
def smallLetters : Document :=
  .object
    [("board", .array (.replicate 8 (.int 0))),
     ("current_piece",
       .object [("shape", .text "o"), ("x", .int 3), ("y", .int 0), ("rotation", .int 0)]),
     ("next_piece",
       .object [("shape", .text "o"), ("x", .int 3), ("y", .int 0), ("rotation", .int 0)]),
     ("score", .int 0), ("level", .int 1), ("lines_cleared", .int 0), ("game_over", .bool false)]

/-- The snapshot that `smallLetters` writes. -/
def twoSquares : Snapshot where
  board := .replicate 8 0
  current := { shape := .O, x := 3, y := 0 }
  next := { shape := .O, x := 3, y := 0 }

/-- A service that holds `smallLetters`, and draws nothing but squares. -/
def squares : Service where
  store := .memory smallLetters
  config := { width := 8, height := 8 }
  supply := .cycle .O []

/-- The same, within the usual limits. -/
def limitedSquares : Service :=
  { squares with limits := .usual }

theorem limitedSquares_stores : limitedSquares.Stores (some twoSquares) :=
  ⟨smallLetters, rfl, Store.loadWithin_memory (by decide +kernel) (by decide), rfl⟩

theorem limitedSquares_playable : limitedSquares.Playable :=
  ⟨by decide, by decide, by decide, by decide⟩

/-- A game that four squares end, a tick in vain, and a new game. -/
def rounds : List Session.Command :=
  [.moveLeft, .hardDrop, .hardDrop, .hardDrop, .hardDrop, .tick, .start]

/-- From one game to the next the service answers as one session does. -/
theorem plays_one_session_squares :
    limitedSquares.Playable ∧ limitedSquares.Stores (some twoSquares) ∧
      limitedSquares.Grants rounds ∧
      ∃ answer last,
        ((limitedSquares.after rounds).perform .rotate).answer = .ok answer ∧
        (((limitedSquares.sessionOn (some twoSquares)).after (rounds.map .command)).perform
          .rotate).answer = .ok answer ∧
        (∃ d, ((limitedSquares.after rounds).perform .rotate).service.store = .memory d ∧
          Snapshot.load limitedSquares.config d = .ok last) := by
  have hgranted : limitedSquares.Grants rounds := by
    refine ⟨?_, ?_, ?_, ?_, ?_, ?_, ?_, trivial⟩ <;>
      exact except_ok_of_isOk (by decide +kernel)
  refine ⟨limitedSquares_playable, limitedSquares_stores, hgranted, ?_⟩
  obtain ⟨answer, last, hanswer, -, -, ⟨hsame, ⟨d, hstore, -, hload⟩, -⟩ | ⟨hrefused, -⟩⟩ :=
    plays_one_session limitedSquares_playable limitedSquares_stores rounds .rotate nofun hgranted
  · exact ⟨answer, last, hsame, hanswer, d, hstore, hload⟩
  · have hok : ((limitedSquares.after rounds).perform .rotate).answer.isOk = true := by
      decide +kernel
    rw [hrefused] at hok
    exact nomatch hok

/-- A game one square away from two full rows, with a score of as many digits as can be written. -/
def toppedUp : Snapshot :=
  { twoSquares with
    board := .replicate 6 0 ++ [231, 231]
    score := Int.ofNat (Nat.pow 10 Decimal.digitLimit - 1) }

/-- A service that holds this game, within the usual limits. -/
def toppedUpSquares : Service :=
  { limitedSquares with store := .memory toppedUp.toDocument }

theorem exists_toppedUpSquares_stores : ∃ snap, toppedUpSquares.Stores (some snap) := by
  have hread : (Store.memory toppedUp.toDocument).loadWithin .usual = .ok toppedUp.toDocument :=
    Store.loadWithin_memory (by decide +kernel) (by decide +kernel)
  obtain ⟨snap, hload⟩ : ∃ snap, Snapshot.load squares.config toppedUp.toDocument = .ok snap :=
    except_ok_of_isOk (by decide +kernel)
  exact ⟨snap, _, rfl, hread, hload⟩

/--
A new game that is the one in the store already is written down all the same, and a score that
grows past what can be written is refused.
-/
theorem start_respells_and_growth_is_refused :
    (limitedSquares.Playable ∧ limitedSquares.Stores (some twoSquares) ∧
      ((limitedSquares.sessionOn (some twoSquares)).perform .start).session.snapshot =
        some twoSquares ∧
      (limitedSquares.perform .start).service.store ≠ limitedSquares.store) ∧
    toppedUpSquares.Playable ∧ (∃ snap, toppedUpSquares.Stores (some snap)) ∧
      ∃ fault, (toppedUpSquares.perform .hardDrop).answer = .error fault := by
  have hbegun : (limitedSquares.play (some twoSquares) .start).session.snapshot =
      some twoSquares := rfl
  have hservice := (perform_settled limitedSquares_stores nofun rfl hbegun
    (.inr (by decide +kernel))).2
  refine ⟨⟨limitedSquares_playable, limitedSquares_stores, hbegun, fun h => ?_⟩,
    ⟨by decide, by decide, by decide, by decide⟩, exists_toppedUpSquares_stores, ?_⟩
  · rw [hservice, settled, if_neg fun hspared => hspared.1 rfl] at h
    have hspelled : twoSquares.toDocument = smallLetters := Store.memory.inj h
    simp [Snapshot.toDocument, Piece.toDocument, smallLetters, twoSquares, Shape.letter] at hspelled
  · have hrefused : (toppedUpSquares.perform .hardDrop).answer.isOk = false := by decide +kernel
    cases hanswer : (toppedUpSquares.perform .hardDrop).answer with
    | error fault => exact ⟨fault, rfl⟩
    | ok a => simp [hanswer, Except.isOk, Except.toBool] at hrefused

end Service

end FallingBlocks
