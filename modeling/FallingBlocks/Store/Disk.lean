/-
A disk: files and folders, and what can be done to them.

The operations are those a store needs, each with the reasons it may be refused: something
missing or in the way, a file where a folder is needed, a folder where a file is needed, a
path that cannot be walked because of a name that is too long, or one that no disk takes.

Looking for a file is more lenient than everything else: a path that no disk takes, and
one that leads nowhere, just have no file.
-/
import FallingBlocks.Store.Disk.Path
import FallingBlocks.Text.Bytes

namespace FallingBlocks

/-- Contents are compared byte by byte. -/
instance (priority := high) contentDecidableEq : DecidableEq ByteArray := ByteArray.instDecidableEq

/-- What lies at a place. -/
inductive Entry
  | file (content : ByteArray)
  | folder
  deriving DecidableEq

/-- Files and folders; a place occurs at most once, and below folders only. -/
structure Disk where
  entries : List (Place × Entry) := []
  deriving DecidableEq

namespace Disk

/-- Why an operation on a disk is refused. -/
inductive Fault
  | missing
  | isFolder
  | notAFolder
  | inTheWay
  /-- A name, or the whole path, has too many bytes. -/
  | tooLong
  /-- Nothing can take the place of the folder that a step up leads to. -/
  | inUse
  /-- The path has a zero byte. -/
  | zeroByte
  /-- The path has code points that no name can have. -/
  | unwritable (refusal : Text.Unwritable)
  deriving DecidableEq, Repr

/-- The wording of the faults that lie in the path itself; the disk's own have none. -/
def Fault.message? : Fault → Option String
  | zeroByte => some "embedded null byte"
  | unwritable refusal => some refusal.message
  | _ => none

/-! ### Places -/

/-- What lies at a place; the folders from the home folder up are always there. -/
def entry? (d : Disk) (p : Place) : Option Entry :=
  if p.names.isEmpty then some .folder else (d.entries.find? fun e => e.1 = p).map (·.2)

/-- The disk with something at a place, instead of what was there. -/
def put (d : Disk) (p : Place) (e : Entry) : Disk :=
  { entries := d.entries.filter (fun x => x.1 ≠ p) ++ [(p, e)] }

/-- The disk without what lies at a place. -/
def erase (d : Disk) (p : Place) : Disk :=
  { entries := d.entries.filter fun x => x.1 ≠ p }

/-! ### Walking -/

/-- The most bytes of a name. -/
def nameLimit : Nat := 255

/-- The bytes that lead to the home folder, with the slash after it. -/
def homeSize : Nat := 17

/-- The most bytes of a path from the home folder. -/
def pathLimit : Nat := 4095 - homeSize

/-- The first thing about a path that no disk takes; it is told where in the whole path. -/
def refusal? (p : Path) : Option Fault :=
  match Text.unwritable? p.text fun c => (Path.size? c).isSome with
  | some refusal => some (.unwritable { refusal with position := refusal.position + homeSize })
  | none => if p.text.points.contains (.char '\x00') then some .zeroByte else none

/-- The place that a path leads to from a place on; all but its end has to be there. -/
def walk (d : Disk) (p : Place) : Path → Except Fault Place
  | [] => .ok p
  | step :: rest =>
      match d.entry? p with
      | none => .error .missing
      | some (.file _) => .error .notAFolder
      | some .folder =>
          if nameLimit < Path.nameSize step.name then .error .tooLong
          else d.walk (p.follow step) rest

/-- The place that a path leads to. -/
def locate (d : Disk) (p : Path) : Except Fault Place :=
  if Disk.pathLimit < p.size then .error .tooLong else d.walk .home p

/-- The place that a path leads to, for an operation that is not lenient. -/
def reach (d : Disk) (p : Path) : Except Fault Place :=
  match refusal? p with
  | some fault => .error fault
  | none => d.locate p

/-! ### Operations -/

/-- The content of the file that a path leads to, if there is one. -/
def file? (d : Disk) (p : Path) : Except Fault (Option ByteArray) :=
  if (refusal? p).isSome then .ok none
  else
    match d.locate p with
    | .error .missing => .ok none
    | .error .notAFolder => .ok none
    | .error fault => .error fault
    | .ok place =>
        match d.entry? place with
        | some (.file content) => .ok (some content)
        | _ => .ok none

/-- Whether a path leads to a folder. -/
def hasFolder (d : Disk) (p : Path) : Bool :=
  match d.reach p with
  | .ok place => d.entry? place = some .folder
  | .error _ => false

/-- Makes a folder in a folder that has to be there. -/
def makeOne (d : Disk) (p : Path) : Except Fault Disk := do
  let place ← d.reach p
  if (d.entry? place).isSome then .error .inTheWay else .ok (d.put place .folder)

/-- Makes a folder; one that is there already is in the way unless it is `welcome`. -/
def makeLast (d : Disk) (p : Path) (welcome : Bool) : Except Fault Disk :=
  match d.makeOne p with
  | .error .inTheWay => if welcome ∧ d.hasFolder p then .ok d else .error .inTheWay
  | result => result

/--
Makes a folder, and all folders on the way to it that are missing.  Folders made before
something is refused stay.
-/
def makeFolder (d : Disk) (p : Path) (welcome : Bool) : Disk × Except Fault Unit :=
  match d.makeLast p welcome with
  | .ok d => (d, .ok ())
  | .error .missing =>
      if p.isEmpty then (d, .error .missing)
      else
        match d.makeFolder p.dropLast true with
        | (d, .error fault) => (d, .error fault)
        | (d, .ok ()) =>
            match d.makeLast p welcome with
            | .ok d => (d, .ok ())
            | .error fault => (d, .error fault)
  | .error fault => (d, .error fault)
termination_by p.length
decreasing_by cases p <;> simp_all

/-- Writes a file, in a folder that has to be there. -/
def write (d : Disk) (p : Path) (content : ByteArray) : Except Fault Disk := do
  let place ← d.reach p
  if d.entry? place = some .folder then .error .isFolder
  else .ok (d.put place (.file content))

/-- Moves a file, over another file if there is one. -/
def rename (d : Disk) (source target : Path) : Except Fault Disk := do
  let here ← d.reach source
  let there ← d.reach target
  if target.getLast? = some .up then .error .inUse
  else
    match d.entry? here with
    | some (.file content) =>
        if d.entry? there = some .folder then .error .isFolder
        else .ok ((d.erase here).put there (.file content))
    | _ => .error .missing

/-- Deletes a file. -/
def remove (d : Disk) (p : Path) : Except Fault Disk := do
  let place ← d.reach p
  match d.entry? place with
  | none => .error .missing
  | some .folder => .error .isFolder
  | some (.file _) => .ok (d.erase place)

/-- The text that shows what lies at a place below the home folder. -/
def shown (p : Place) (e : Entry) : Option Text :=
  if p.above = 0 then
    some (Text.join ⟨[Path.separator]⟩ p.names ++ if e = .folder then "/" else "")
  else none

/-- What lies below the home folder, in the order of code points; folders end in a slash. -/
def listing (d : Disk) : List Text :=
  (d.entries.filterMap fun e => shown e.1 e.2).mergeSort Text.isAtMost

end Disk

end FallingBlocks
