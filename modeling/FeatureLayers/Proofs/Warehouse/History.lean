import FeatureLayers.Proofs.Warehouse.Action
import FeatureLayers.Warehouse.Session

namespace FeatureLayers.Warehouse

abbrev Outcome := Except Error (List Row)

/-- What comes of reading all rows. -/
def Reply.outcome : Reply → Outcome
  | .rows _ found disturbance => match (disturbance 0).error with
    | some e => .error e
    | none => .ok found
  | .failure e => .error e

theorem Reply.outcome_ok {reply : Reply} {rows : List Row} (h : reply.outcome = .ok rows) :
    ∃ columns disturbance, reply = .rows columns rows disturbance := by
  cases reply with
  | failure e => cases h
  | rows columns found disturbance =>
    unfold outcome at h
    dsimp only at h
    split at h
    · cases h
    · cases h
      exact ⟨columns, disturbance, rfl⟩

namespace ResultSet

def ofReply (columns : List Column) (rows : List Row) (disturbance : Nat → Disturbance) : ResultSet :=
  ⟨⟨columns, rows, false, true⟩, 0, disturbance⟩

def disturbed (r : ResultSet) (s : Session) : Session :=
  if (r.disturbance (r.fetches + 1)).cancels then { s with cancel := s.cancel.raise } else s

variable {n : Nat} {r r' : ResultSet} {s s' : Session}

theorem fetchMany_error {e : Error} (isOpen : r.cursor.isClosed = false) (h : r.fetchMany n s = (.error e, r', s')) :
    (r.disturbance (r.fetches + 1)).error = some e ∧ r' = { r with fetches := r.fetches + 1 } ∧ s' = r.disturbed s := by
  unfold fetchMany at h
  dsimp only at h
  split at h
  · rename_i same
    cases h
    exact ⟨same, rfl, rfl⟩
  · simp [Cursor.fetchMany, isOpen] at h

theorem fetchMany_batch {batch : List Row} (isOpen : r.cursor.isClosed = false)
    (h : r.fetchMany n s = (.ok batch, r', s')) :
    (r.disturbance (r.fetches + 1)).error = none ∧ batch = r.cursor.rows.take n ∧
      r' = { r with fetches := r.fetches + 1, cursor := { r.cursor with rows := r.cursor.rows.drop n } } ∧
      s' = { r.disturbed s with tracker := if r.cursor.isTracked then s.tracker.noteFetch else s.tracker } := by
  unfold fetchMany at h
  dsimp only at h
  split at h
  · cases h
  · rename_i same
    simp only [Cursor.fetchMany, isOpen, Bool.false_eq_true, if_false] at h
    cases h
    refine ⟨same, rfl, by simp only [isOpen], ?_⟩
    unfold disturbed
    split <;> rfl

end ResultSet

/-- The later session has run what the earlier one had, and more perhaps, against the same warehouse. -/
structure Session.Precedes (earlier later : Session) : Prop where
  answer : later.answer = earlier.answer
  log : earlier.log.toList <+: later.log.toList

/-- The statement of this number was answered with these rows. -/
def Session.Answered (s : Session) (number : Nat) (command : Command) (rows : List Row) : Prop :=
  s.log.toList[number]? = some command ∧
    ∃ columns disturbance, s.answer number command = .rows columns rows disturbance

namespace Session.Precedes

theorem refl (s : Session) : s.Precedes s := ⟨rfl, List.prefix_rfl⟩

theorem trans {a b c : Session} (first : a.Precedes b) (second : b.Precedes c) : a.Precedes c :=
  ⟨second.answer.trans first.answer, first.log.trans second.log⟩

theorem of_eq {s s' : Session} (answer : s'.answer = s.answer) (log : s'.log = s.log) : s.Precedes s' :=
  ⟨answer, log ▸ List.prefix_rfl⟩

theorem size_le {a b : Session} (precedes : a.Precedes b) : a.log.size ≤ b.log.size := by
  simpa using precedes.log.length_le

theorem note (level : Journal.Level) (topic : Journal.Topic) (message : String) (s : Session) :
    s.Precedes (s.note level topic message) := of_eq rfl rfl

theorem logged (command : Command) (s : Session) : s.Precedes (s.logged command) := by
  refine ⟨rfl, ?_⟩
  simp only [Session.logged, Array.toList_push]
  exact List.prefix_append _ _

theorem fetchMany {n : Nat} {r r' : ResultSet} {s s' : Session} {rows : Except Error (List Row)}
    (h : r.fetchMany n s = (rows, r', s')) : s.Precedes s' := by
  unfold ResultSet.fetchMany at h
  dsimp only at h
  split at h
  · cases h
    split <;> exact of_eq rfl rfl
  · cases h
    split <;> exact of_eq rfl rfl

theorem close (r : ResultSet) (s : Session) : s.Precedes (r.close s).2 := of_eq rfl rfl

end Session.Precedes

def Session.queried (command : Command) (s : Session) : Session :=
  match s.answer s.log.size command with
  | .failure _ => s.logged command
  | .rows _ _ disturbance =>
    { s.logged command with
      tracker := s.tracker.noteOpened.noteClosed
      cancel := if (disturbance 0).cancels then s.cancel.raise else s.cancel }

theorem Session.queried_answer (command : Command) (s : Session) : (s.queried command).answer = s.answer := by
  unfold queried
  split <;> rfl

theorem Session.queried_log (command : Command) (s : Session) : (s.queried command).log = s.log.push command := by
  unfold queried
  split <;> rfl

theorem Session.Answered.later {s s' : Session} {number : Nat} {command : Command} {rows : List Row}
    (answered : s.Answered number command rows) (onward : s.Precedes s') : s'.Answered number command rows := by
  obtain ⟨entry, reply⟩ := answered
  refine ⟨?_, ?_⟩
  · have present := (List.getElem?_eq_some_iff.mp entry).1
    rw [← entry]
    exact (List.prefix_iff_getElem?.mp onward.log number present).trans (List.getElem?_eq_getElem present).symm
  · rwa [onward.answer]

namespace Action

theorem execute_ok {command : Command} {r : ResultSet} {s s' : Session}
    (h : (execute command).run s = (.ok r, s')) :
    ∃ columns rows disturbance, s.answer s.log.size command = .rows columns rows disturbance ∧
      r = .ofReply columns rows disturbance ∧ s' = { s.logged command with tracker := s.tracker.noteOpened } := by
  simp only [execute, ExceptT.run_mk] at h
  cases reply : s.answer s.log.size command with
  | failure e =>
    rw [reply] at h
    cases h
  | rows columns rows disturbance =>
    rw [reply] at h
    cases h
    exact ⟨columns, rows, disturbance, rfl, rfl, rfl⟩

theorem queryAll_run (command : Command) (s : Session) :
    (queryAll command).run s = ((s.answer s.log.size command).outcome, s.queried command) := by
  unfold queryAll Session.queried
  rw [run_bind]
  simp only [execute, ExceptT.run_mk]
  cases s.answer s.log.size command with
  | failure e => rfl
  | rows columns rows disturbance =>
    dsimp only [ResultSet.fetchAll, Reply.outcome]
    cases (disturbance 0).error <;> cases (disturbance 0).cancels <;> rfl

theorem execute_precedes (command : Command) : Keeps Session.Precedes (execute command) := by
  intro s
  simp only [execute, ExceptT.run_mk]
  cases s.answer s.log.size command with
  | failure e => exact .logged command s
  | rows columns rows disturbance => exact (Session.Precedes.logged command s).trans (.of_eq rfl rfl)

theorem close_precedes {ε : Type} (r : ResultSet) : Keeps Session.Precedes (close r : Action ε PUnit) :=
  Session.Precedes.close r

theorem precedes_frame : Frame Session.Precedes where
  refl := .refl
  trans _ _ _ := .trans
  note := .note
  queryAll command s := by
    rw [queryAll_run]
    refine ⟨s.queried_answer command, ?_⟩
    rw [s.queried_log]
    exact (Session.Precedes.logged command s).log
  queryColumns command := by
    refine (execute_precedes command).bind (fun _ _ _ => .trans) fun result => ?_
    exact (close_precedes result).bind (fun _ _ _ => .trans) fun _ => .refl

end Action

theorem Session.answered_last {s s' : Session} {command : Command} {columns : List Column} {rows : List Row}
    {disturbance : Nat → Disturbance} (reply : s.answer s.log.size command = .rows columns rows disturbance)
    (onward : (s.logged command).Precedes s') : s'.Answered s.log.size command rows := by
  have answered : (s.logged command).Answered s.log.size command rows :=
    ⟨by simp [logged], columns, disturbance, reply⟩
  exact answered.later onward

def Session.AnsweredSince (s s' : Session) (command : Command) (rows : List Row) : Prop :=
  ∃ number, s.log.size ≤ number ∧ s'.Answered number command rows

theorem Session.AnsweredSince.within {s s₁ s₂ s' : Session} {command : Command} {rows : List Row}
    (answered : s₁.AnsweredSince s₂ command rows) (before : s.Precedes s₁) (after : s₂.Precedes s') :
    s.AnsweredSince s' command rows := by
  obtain ⟨number, since, answered⟩ := answered
  exact ⟨number, Nat.le_trans before.size_le since, answered.later after⟩

theorem Action.queryAll_reply {command : Command} {rows : List Row} {s s' : Session}
    (h : (queryAll command).run s = (.ok rows, s')) :
    ∃ columns disturbance, s.answer s.log.size command = .rows columns rows disturbance := by
  rw [queryAll_run] at h
  exact Reply.outcome_ok (Prod.mk.inj h).1

theorem Action.queryAll_ok {command : Command} {rows : List Row} {s s' : Session}
    (h : (queryAll command).run s = (.ok rows, s')) : s.AnsweredSince s' command rows := by
  obtain ⟨columns, disturbance, reply⟩ := queryAll_reply h
  rw [queryAll_run] at h
  obtain ⟨-, rfl⟩ := Prod.mk.inj h
  refine ⟨s.log.size, Nat.le_refl _, Session.answered_last reply ⟨s.queried_answer command, ?_⟩⟩
  rw [s.queried_log]
  exact List.prefix_rfl

end FeatureLayers.Warehouse

namespace FeatureLayers.Layer

variable {endpoint : Warehouse.Endpoint} {sql : String} {rows : List Row} {s s' : Warehouse.Session}

theorem queryAll_ok (h : (queryAll endpoint sql).run s = (.ok rows, s')) :
    s.AnsweredSince s' (endpoint.command sql) rows :=
  Warehouse.Action.queryAll_ok (ofWarehouse_ok h)

theorem describe_ok {fromText : String} {columns : List Column}
    (h : (describe endpoint fromText).run s = (.ok columns, s')) :
    let command := endpoint.command ("SELECT * FROM " ++ fromText ++ " LIMIT 0")
    ∃ rows disturbance, s'.Answered s.log.size command rows ∧
      s'.answer s.log.size command = .rows columns rows disturbance := by
  intro command
  obtain ⟨result, s₁, executed, h⟩ := Warehouse.Action.bind_ok (ofWarehouse_ok h)
  obtain ⟨columns', rows, disturbance, reply, rfl, rfl⟩ := Warehouse.Action.execute_ok executed
  obtain ⟨⟨⟩, s₂, closed, returned⟩ := Warehouse.Action.bind_ok h
  cases returned
  have opened : (s.logged command).Precedes { s.logged command with tracker := s.tracker.noteOpened } := .of_eq rfl rfl
  have onward := opened.trans ((Warehouse.Action.close_precedes _).outcome closed)
  exact ⟨rows, disturbance, Warehouse.Session.answered_last reply onward, onward.answer ▸ reply⟩

theorem queryAll_run (endpoint : Warehouse.Endpoint) (sql : String) (s : Warehouse.Session) :
    (queryAll endpoint sql).run s =
      ((s.answer s.log.size (endpoint.command sql)).outcome.mapError .warehouse, s.queried (endpoint.command sql)) := by
  rw [queryAll, ofWarehouse_run, Warehouse.Action.queryAll_run]

end FeatureLayers.Layer
