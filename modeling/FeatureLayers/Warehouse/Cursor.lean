import FeatureLayers.Schema.Field
import FeatureLayers.Value
import FeatureLayers.Warehouse.Error

namespace FeatureLayers.Warehouse

structure Tracker where
  opened : Nat
  closed : Nat
  fetches : Nat
deriving DecidableEq, Repr, Inhabited

namespace Tracker

def start : Tracker := ⟨0, 0, 0⟩

def openCursors (t : Tracker) : Nat := t.opened - t.closed

def noteOpened (t : Tracker) : Tracker := { t with opened := t.opened + 1 }

def noteClosed (t : Tracker) : Tracker := { t with closed := t.closed + 1 }

def noteFetch (t : Tracker) : Tracker := { t with fetches := t.fetches + 1 }

def resetFetches (t : Tracker) : Tracker := { t with fetches := 0 }

end Tracker

structure Cursor where
  columns : List Column
  rows : List Row
  isClosed : Bool
  isTracked : Bool
deriving DecidableEq, Repr, Inhabited

namespace Cursor

def create (columns : List Column) (rows : List Row) (isTracked : Bool) (t : Tracker) : Cursor × Tracker :=
  (⟨columns, rows, false, isTracked⟩, if isTracked then t.noteOpened else t)

def fetchOne (c : Cursor) : Except Error (Option Row) × Cursor :=
  if c.isClosed then (.error .cursorClosed, c) else (.ok c.rows.head?, { c with rows := c.rows.tail })

def fetchMany (n : Nat) (c : Cursor) (t : Tracker) : Except Error (List Row) × Cursor × Tracker :=
  if c.isClosed then (.error .cursorClosed, c, t)
  else (.ok (c.rows.take n), { c with rows := c.rows.drop n }, if c.isTracked then t.noteFetch else t)

def fetchAll (c : Cursor) : Except Error (List Row) × Cursor :=
  if c.isClosed then (.error .cursorClosed, c) else (.ok c.rows, { c with rows := [] })

def close (c : Cursor) (t : Tracker) : Cursor × Tracker :=
  if c.isClosed then (c, t)
  else ({ c with isClosed := true, rows := [] }, if c.isTracked then t.noteClosed else t)

theorem fetchMany_ok {n : Nat} {c c' : Cursor} {t t' : Tracker} {rows : List Row}
    (h : c.fetchMany n t = (.ok rows, c', t')) : rows = c.rows.take n ∧ c'.rows = c.rows.drop n := by
  unfold Cursor.fetchMany at h
  split at h
  · simp at h
  · simp only [Prod.mk.injEq, Except.ok.injEq] at h
    exact ⟨h.1.symm, by rw [← h.2.1]⟩

theorem close_closed {c : Cursor} (closed : c.isClosed = true) (t : Tracker) : c.close t = (c, t) := by
  rw [close, if_pos closed]

theorem close_open {c : Cursor} (isOpen : c.isClosed = false) (isTracked : c.isTracked = true) (t : Tracker) :
    c.close t = ({ c with isClosed := true, rows := [] }, t.noteClosed) := by
  simp [close, isOpen, isTracked]

theorem close_isClosed (c : Cursor) (t : Tracker) : (c.close t).1.isClosed = true := by
  unfold close
  split
  · assumption
  · rfl

theorem close_fetches (c : Cursor) (t : Tracker) : (c.close t).2.fetches = t.fetches := by
  unfold close
  split
  · rfl
  · dsimp only
    split <;> rfl

end Cursor

end FeatureLayers.Warehouse
