import FeatureLayers.Journal
import FeatureLayers.Warehouse.Command
import FeatureLayers.Warehouse.Cursor

namespace FeatureLayers.Warehouse

structure CancelFlag where
  polls : Nat
  /-- The first poll that finds the flag raised. -/
  raisedFrom : Option Nat
deriving DecidableEq, Repr, Inhabited

namespace CancelFlag

def lowered : CancelFlag := ⟨0, none⟩

def isRaised (f : CancelFlag) : Bool := f.raisedFrom.any (· ≤ f.polls)

def raise (f : CancelFlag) : CancelFlag := if f.isRaised then f else { f with raisedFrom := some f.polls }

def polled (f : CancelFlag) : CancelFlag := { f with polls := f.polls + 1 }

end CancelFlag

/-- What befalls a fetch besides its rows: a failure, in which case no rows are taken, and the shared flag raised. -/
structure Disturbance where
  error : Option Error
  cancels : Bool
deriving DecidableEq, Repr, Inhabited

def Disturbance.none : Disturbance := ⟨.none, false⟩

/-- The answer to a statement. Disturbances are told by the number of the fetch of many rows, which counts from one; the
disturbance of number zero is that of a fetch of all rows. -/
inductive Reply
  | rows (columns : List Column) (rows : List Row) (disturbance : Nat → Disturbance)
  | failure (error : Error)

structure Session where
  /-- The answer may depend on how many statements were run before. -/
  answer : Nat → Command → Reply
  log : Array Command
  tracker : Tracker
  cancel : CancelFlag
  journal : Array Journal.Entry

namespace Session

def start (answer : Nat → Command → Reply) : Session := ⟨answer, #[], .start, .lowered, #[]⟩

def note (level : Journal.Level) (topic : Journal.Topic) (message : String) (s : Session) : Session :=
  { s with journal := s.journal.push ⟨level, topic, message⟩ }

def logged (command : Command) (s : Session) : Session := { s with log := s.log.push command }

end Session

abbrev Action (ε α : Type) := ExceptT ε (StateM Session) α

structure ResultSet where
  cursor : Cursor
  fetches : Nat
  disturbance : Nat → Disturbance

namespace ResultSet

def fetchMany (n : Nat) (r : ResultSet) (s : Session) : Except Error (List Row) × ResultSet × Session :=
  let event := r.disturbance (r.fetches + 1)
  let r := { r with fetches := r.fetches + 1 }
  let s := if event.cancels then { s with cancel := s.cancel.raise } else s
  match event.error with
  | some e => (.error e, r, s)
  | none =>
    let (rows, cursor, tracker) := r.cursor.fetchMany n s.tracker
    (rows, { r with cursor }, { s with tracker })

def fetchAll (r : ResultSet) (s : Session) : Except Error (List Row) × ResultSet × Session :=
  let event := r.disturbance 0
  let s := if event.cancels then { s with cancel := s.cancel.raise } else s
  match event.error with
  | some e => (.error e, r, s)
  | none => (r.cursor.fetchAll.1, { r with cursor := r.cursor.fetchAll.2 }, s)

def close (r : ResultSet) (s : Session) : ResultSet × Session :=
  let (cursor, tracker) := r.cursor.close s.tracker
  ({ r with cursor }, { s with tracker })

theorem fetchMany_ok {n : Nat} {r r' : ResultSet} {s s' : Session} {rows : List Row}
    (h : r.fetchMany n s = (.ok rows, r', s')) :
    rows = r.cursor.rows.take n ∧ r'.cursor.rows = r.cursor.rows.drop n := by
  unfold ResultSet.fetchMany at h
  dsimp only at h
  split at h
  · simp at h
  · simp only [Prod.mk.injEq] at h
    obtain ⟨fetched, rfl, _⟩ := h
    exact Cursor.fetchMany_ok (Prod.ext fetched rfl)

end ResultSet

namespace Action

def note {ε : Type} (level : Journal.Level) (topic : Journal.Topic) (message : String) : Action ε PUnit :=
  ExceptT.lift (modify (Session.note level topic message))

def execute (command : Command) : Action Error ResultSet := ExceptT.mk fun s =>
  match s.answer s.log.size command with
  | .failure e => (.error e, s.logged command)
  | .rows columns rows disturbance =>
    let s := s.logged command
    let (cursor, tracker) := Cursor.create columns rows true s.tracker
    (.ok ⟨cursor, 0, disturbance⟩, { s with tracker })

def close {ε : Type} (r : ResultSet) : Action ε PUnit := ExceptT.lift (modify fun s => (r.close s).2)

/-- All rows of a statement. The cursor is closed also when they cannot be fetched. -/
def queryAll (command : Command) : Action Error (List Row) := do
  let result ← execute command
  ExceptT.mk fun s =>
    let (rows, result, s) := result.fetchAll s
    (rows, (result.close s).2)

def queryColumns (command : Command) : Action Error (List Column) := do
  let result ← execute command
  close result
  return result.cursor.columns

def attempt {ε ε' α : Type} (action : Action ε α) : Action ε' (Except ε α) := ExceptT.lift action.run

end Action

end FeatureLayers.Warehouse
