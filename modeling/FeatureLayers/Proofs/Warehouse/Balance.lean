import FeatureLayers.Proofs.Warehouse.History

namespace FeatureLayers.Warehouse

/-- So many more cursors are open in the later session than in the earlier one. -/
def Session.Holds (held : Nat) (s s' : Session) : Prop :=
  s'.tracker.opened + s.tracker.closed = s.tracker.opened + s'.tracker.closed + held

theorem Session.Holds.trans {a b c : Session} {held : Nat} (first : a.Holds 0 b) (second : b.Holds held c) :
    a.Holds held c := by
  unfold Holds at *
  omega

def ResultSet.IsHeld (r : ResultSet) : Prop := r.cursor.isClosed = false ∧ r.cursor.isTracked = true

variable {r r' : ResultSet} {s s' : Session}

theorem ResultSet.close_tracker (held : r.IsHeld) : (r.close s).2.tracker = s.tracker.noteClosed := by
  rw [close, Cursor.close_open held.1 held.2]

theorem ResultSet.close_holds (held : r.IsHeld) (holds : s'.Holds 1 s) : s'.Holds 0 (r.close s).2 := by
  unfold Session.Holds at holds ⊢
  rw [close_tracker held]
  dsimp only [Tracker.noteClosed]
  omega

namespace Action

variable {ε α : Type}

def Acquires (action : Action ε ResultSet) : Prop :=
  ∀ s, match action.run s with
    | (.ok r, s') => r.IsHeld ∧ s.Holds 1 s'
    | (.error _, s') => s.Holds 0 s'

theorem execute_acquires (command : Command) : Acquires (execute command) := by
  intro s
  simp only [execute, ExceptT.run_mk]
  cases s.answer s.log.size command with
  | failure e => exact rfl
  | rows columns rows disturbance =>
    refine ⟨⟨rfl, rfl⟩, ?_⟩
    change s.tracker.opened + 1 + s.tracker.closed = s.tracker.opened + s.tracker.closed + 1
    omega

theorem Acquires.ofWarehouse {action : Action Error ResultSet} (acquires : Acquires action) :
    Acquires (Layer.ofWarehouse action) := by
  intro s
  have plain := acquires s
  rw [Layer.ofWarehouse_run]
  rcases outcome : action.run s with ⟨e | r, s'⟩
  · rw [outcome] at plain
    exact plain
  · rw [outcome] at plain
    exact plain

theorem Acquires.bind {action : Action ε ResultSet} {next : ResultSet → Action ε α} (acquires : Acquires action)
    (closes : ∀ (r : ResultSet) (s s' : Session), r.IsHeld → s.Holds 1 s' → s.Holds 0 ((next r).run s').2) :
    Keeps (Session.Holds 0) (action >>= next) := by
  intro s
  have acquired := acquires s
  rw [run_bind]
  rcases outcome : action.run s with ⟨e | r, s'⟩
  · rw [outcome] at acquired
    exact acquired
  · rw [outcome] at acquired
    exact closes r s s' acquired.1 acquired.2

theorem holds_frame : Frame (Session.Holds 0) where
  refl _ := rfl
  trans _ _ _ := .trans
  note _ _ _ _ := rfl
  queryAll command s := by
    rw [queryAll_run]
    unfold Session.Holds Session.queried
    cases s.answer s.log.size command with
    | failure e => rfl
    | rows columns rows disturbance =>
      dsimp only [Tracker.noteOpened, Tracker.noteClosed]
      omega
  queryColumns command := (execute_acquires command).bind fun r s s' held holds => ResultSet.close_holds held holds

end Action

theorem ResultSet.fetchMany_holds {n held : Nat} {outcome : Except Error (List Row)} {start : Session}
    (isHeld : r.IsHeld) (h : r.fetchMany n s = (outcome, r', s')) (holds : start.Holds held s) :
    r'.IsHeld ∧ start.Holds held s' := by
  have disturbed : (r.disturbed s).tracker = s.tracker := by
    unfold ResultSet.disturbed
    split <;> rfl
  unfold Session.Holds at holds ⊢
  cases outcome with
  | error e =>
    obtain ⟨-, rfl, rfl⟩ := fetchMany_error isHeld.1 h
    rw [disturbed]
    exact ⟨isHeld, holds⟩
  | ok batch =>
    obtain ⟨-, -, rfl, rfl⟩ := fetchMany_batch isHeld.1 h
    rw [isHeld.2]
    exact ⟨isHeld, holds⟩

end FeatureLayers.Warehouse
