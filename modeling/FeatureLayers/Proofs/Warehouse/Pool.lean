import FeatureLayers.Warehouse.Cursor
import Mathlib.Data.List.Induction

namespace FeatureLayers.Warehouse

inductive Fetch
  | one
  | many (n : Nat)
  | all
deriving DecidableEq

def Fetch.reach (rows : List Row) : Fetch → Nat
  | .one => 1
  | .many n => n
  | .all => rows.length

def Fetch.isMany : Fetch → Bool
  | .many _ => true
  | .one | .all => false

def Fetch.noted (t : Tracker) (way : Fetch) : Tracker := if way.isMany then t.noteFetch else t

@[simp]
theorem Fetch.noted_opened (t : Tracker) (way : Fetch) : (way.noted t).opened = t.opened := by
  cases way <;> rfl

@[simp]
theorem Fetch.noted_closed (t : Tracker) (way : Fetch) : (way.noted t).closed = t.closed := by
  cases way <;> rfl

@[simp]
theorem Fetch.noted_fetches (t : Tracker) (way : Fetch) :
    (way.noted t).fetches = t.fetches + if way.isMany then 1 else 0 := by
  cases way <;> rfl

namespace Cursor

def fetch (c : Cursor) (t : Tracker) : Fetch → Except Error (List Row) × Cursor × Tracker
  | .one => (c.fetchOne.1.map Option.toList, c.fetchOne.2, t)
  | .many n => c.fetchMany n t
  | .all => (c.fetchAll.1, c.fetchAll.2, t)

variable {c : Cursor}

theorem fetch_closed (closed : c.isClosed = true) (t : Tracker) (way : Fetch) :
    c.fetch t way = (.error .cursorClosed, c, t) := by
  cases way <;> simp [fetch, fetchOne, fetchMany, fetchAll, closed, Except.map]

theorem fetch_open (isOpen : c.isClosed = false) (isTracked : c.isTracked = true) (t : Tracker) (way : Fetch) :
    c.fetch t way =
      (.ok (c.rows.take (way.reach c.rows)), { c with rows := c.rows.drop (way.reach c.rows) }, way.noted t) := by
  cases way with
  | one =>
    simp only [fetch, fetchOne, isOpen, Bool.false_eq_true, if_false, Except.map, Fetch.reach, List.drop_one]
    cases c.rows <;> rfl
  | many n => simp [fetch, fetchMany, isOpen, isTracked, Fetch.reach, Fetch.noted, Fetch.isMany]
  | all => simp [fetch, fetchAll, isOpen, Fetch.reach, Fetch.noted, Fetch.isMany]

end Cursor

/-- Tracked cursors and their counters, in the order of creation. A dropped cursor leaves an empty place. -/
structure Pool where
  cursors : List (Option Cursor)
  tracker : Tracker

namespace Pool

inductive Call
  | create (columns : List Column) (rows : List Row)
  | fetch (k : Nat) (way : Fetch)
  | close (k : Nat)
  | drop (k : Nat)
  | resetFetches
deriving DecidableEq

def empty : Pool := ⟨[], .start⟩

def cursor? (p : Pool) (k : Nat) : Option Cursor := p.cursors[k]?.join

/--
The answer to a call, and the pool after it. Only fetches are answered. A cursor that was not created yet, or was
dropped, cannot be called: nothing happens.
-/
def call (p : Pool) : Call → Option (Except Error (List Row)) × Pool
  | .create columns rows =>
    let (c, tracker) := Cursor.create columns rows true p.tracker
    (none, ⟨p.cursors ++ [some c], tracker⟩)
  | .fetch k way => match p.cursor? k with
    | none => (none, p)
    | some c =>
      let (rows, c, tracker) := c.fetch p.tracker way
      (some rows, ⟨p.cursors.set k (some c), tracker⟩)
  | .close k => match p.cursor? k with
    | none => (none, p)
    | some c =>
      let (c, tracker) := c.close p.tracker
      (none, ⟨p.cursors.set k (some c), tracker⟩)
  | .drop k => match p.cursor? k with
    | none => (none, p)
    | some c => (none, ⟨p.cursors.set k none, (c.close p.tracker).2⟩)
  | .resetFetches => (none, { p with tracker := p.tracker.resetFetches })

def after (calls : List Call) : Pool := calls.foldl (fun p next => (p.call next).2) empty

theorem after_snoc (calls : List Call) (next : Call) : after (calls ++ [next]) = ((after calls).call next).2 := by
  simp [after]

def rowsIn : Option (Except Error (List Row)) → List Row
  | some (.ok rows) => rows
  | some (.error _) | none => []

def yields (p : Pool) (k : Nat) : Call → List Row
  | .fetch j way => if j = k then rowsIn (p.call (.fetch j way)).1 else []
  | .create _ _ | .close _ | .drop _ | .resetFetches => []

section Slots

variable {p : Pool} {k : Nat} {slot : Option Cursor}

def Call.leaves (k : Nat) (t : Tracker) (slot : Option Cursor) : Call → Option Cursor
  | .fetch j way => if j = k then slot.map fun c => (c.fetch t way).2.1 else slot
  | .close j => if j = k then slot.map fun c => (c.close t).1 else slot
  | .drop j => if j = k then none else slot
  | .create _ _ | .resetFetches => slot

theorem cursor?_of_slot (here : p.cursors[k]? = some slot) : p.cursor? k = slot := by
  rw [cursor?, here, Option.join_some]

theorem call_slot (here : p.cursors[k]? = some slot) (next : Call) :
    (p.call next).2.cursors[k]? = some (next.leaves k p.tracker slot) := by
  have inside := (List.getElem?_eq_some_iff.mp here).1
  have present := cursor?_of_slot here
  cases next with
  | create columns rows => exact (List.getElem?_append_left inside).trans here
  | resetFetches => exact here
  | fetch j way | close j | drop j =>
    by_cases same : j = k
    · subst same
      cases slot with
      | none => simpa only [call, Call.leaves, present, if_true, Option.map_none] using here
      | some c => simp [call, Call.leaves, present, inside]
    · simp only [call, Call.leaves, if_neg same]
      split
      · exact here
      · exact (List.getElem?_set_ne same).trans here

theorem call_size (p : Pool) (next : Call) :
    (p.call next).2.cursors.length = p.cursors.length + (match next with | .create _ _ => 1 | _ => 0) := by
  cases next with
  | create columns rows => exact List.length_append
  | resetFetches => rfl
  | fetch j way | close j | drop j =>
    simp only [call]
    split <;> simp

theorem answer_fetch (here : p.cursors[k]? = some slot) (way : Fetch) :
    (p.call (.fetch k way)).1 = slot.map fun c => (c.fetch p.tracker way).1 := by
  have present := cursor?_of_slot here
  cases slot <;> simp [call, present]

theorem answer_open {c : Cursor} (here : p.cursors[k]? = some (some c)) (isOpen : c.isClosed = false)
    (isTracked : c.isTracked = true) (way : Fetch) :
    (p.call (.fetch k way)).1 = some (.ok (c.rows.take (way.reach c.rows))) := by
  rw [answer_fetch here, Option.map_some, Cursor.fetch_open isOpen isTracked]

end Slots

section Tracking

structure Sound (p : Pool) : Prop where
  tracked : ∀ c, some c ∈ p.cursors → c.isTracked = true
  counted : p.tracker.opened = p.tracker.closed + p.cursors.countP fun slot => slot.any (!·.isClosed)

variable {p : Pool} {k : Nat} {c : Cursor}

theorem mem_of_cursor? (present : p.cursor? k = some c) : some c ∈ p.cursors :=
  List.mem_of_getElem? (Option.join_eq_some_iff.mp present)

theorem Sound.replaced (sound : p.Sound) (present : p.cursor? k = some c) {slot : Option Cursor} {t : Tracker}
    (tracked : ∀ c', slot = some c' → c'.isTracked = true)
    (moved : t.opened + p.tracker.closed + (if c.isClosed then 0 else 1) =
      p.tracker.opened + t.closed + if slot.any (!·.isClosed) then 1 else 0) :
    Sound ⟨p.cursors.set k slot, t⟩ where
  tracked c' member := by
    rcases List.mem_or_eq_of_mem_set member with earlier | new
    · exact sound.tracked c' earlier
    · exact tracked c' new.symm
  counted := by
    obtain ⟨inside, here⟩ := List.getElem?_eq_some_iff.mp (Option.join_eq_some_iff.mp present)
    have before := sound.counted
    rw [List.countP_set inside, here, Option.any_some]
    cases closed : c.isClosed with
    | true =>
      simp only [closed, if_true, Bool.not_true, Bool.false_eq_true, if_false] at moved ⊢
      omega
    | false =>
      have some : 0 < p.cursors.countP fun slot => slot.any (!·.isClosed) :=
        List.countP_pos_iff.mpr ⟨_, mem_of_cursor? present, by simp [closed]⟩
      simp only [closed, if_true, Bool.not_false, Bool.false_eq_true, if_false] at moved ⊢
      omega

theorem Sound.called (sound : p.Sound) (next : Call) : (p.call next).2.Sound := by
  cases next with
  | create columns rows =>
    refine ⟨fun c member => ?_, ?_⟩
    · rcases List.mem_append.mp member with earlier | new
      · exact sound.tracked c earlier
      · cases List.mem_singleton.mp new
        rfl
    · have before := sound.counted
      simp only [call, Cursor.create, if_true, Tracker.noteOpened, List.countP_append, List.countP_singleton,
        Option.any_some, Bool.not_false]
      omega
  | resetFetches => exact ⟨sound.tracked, sound.counted⟩
  | fetch k way | close k | drop k =>
    cases present : p.cursor? k with
    | none => simpa only [call, present] using sound
    | some c =>
      have isTracked := sound.tracked c (mem_of_cursor? present)
      simp only [call, present]
      cases closed : c.isClosed with
      | true =>
        simp only [Cursor.fetch_closed closed, Cursor.close_closed closed]
        exact sound.replaced present (by simp [isTracked]) (by simp [closed])
      | false =>
        simp only [Cursor.fetch_open closed isTracked, Cursor.close_open closed isTracked]
        refine sound.replaced present (by simp [isTracked]) ?_
        simp [closed, Tracker.noteClosed] <;> omega

theorem after_sound (calls : List Call) : (after calls).Sound := by
  induction calls using List.reverseRecOn with
  | nil => exact ⟨by simp [after, empty], rfl⟩
  | append_singleton calls next ih => exact after_snoc calls next ▸ ih.called next

def counts (p : Pool) : Call → Bool
  | .fetch k way => way.isMany && (p.cursor? k).any (!·.isClosed)
  | _ => false

theorem Sound.fetches (sound : p.Sound) (next : Call) : (p.call next).2.tracker.fetches =
    if next = .resetFetches then 0 else p.tracker.fetches + if p.counts next then 1 else 0 := by
  cases next with
  | create columns rows | resetFetches => rfl
  | fetch k way | close k | drop k =>
    cases present : p.cursor? k with
    | none => simp [call, counts, present]
    | some c =>
      have isTracked := sound.tracked c (mem_of_cursor? present)
      cases closed : c.isClosed with
      | true => simp [call, counts, present, closed, Cursor.fetch_closed, Cursor.close_closed]
      | false =>
        simp [call, counts, present, closed, isTracked, Cursor.fetch_open, Cursor.close_open, Tracker.noteClosed]

end Tracking

end Pool

end FeatureLayers.Warehouse
