import FeatureLayers.Proofs.Scan.Rewinding
import FeatureLayers.Proofs.Warehouse.Balance
import FeatureLayers.Proofs.Workspace.Operation

namespace FeatureLayers

namespace Scan

def cursors (s : Scan) : Nat :=
  match s.phase with
  | .streaming _ _ _ => 1
  | .replaying _ | .exhausted | .closed => 0

/-- The cursor of a streaming scan is open, and the session counts it. -/
def HoldsCursor (s : Scan) : Prop :=
  ∀ result buffer isDrained, s.phase = .streaming result buffer isDrained → result.IsHeld

variable {s : Scan} {result : Warehouse.ResultSet} {buffer : List Row} {isDrained : Bool}

theorem holdsCursor_streaming (phase : s.phase = .streaming result buffer isDrained) (held : result.IsHeld) :
    s.HoldsCursor := by
  intro result' buffer' isDrained' streams
  cases phase.symm.trans streams
  exact held

theorem cursors_streaming (phase : s.phase = .streaming result buffer isDrained) : s.cursors = 1 := by
  simp [cursors, phase]

theorem cursors_replaying {rest : List Feature} (phase : s.phase = .replaying rest) : s.cursors = 0 := by
  simp [cursors, phase]

theorem holdsCursor_idle (none : s.cursors = 0) : s.HoldsCursor := by
  intro result buffer isDrained phase
  simp [cursors, phase] at none

end Scan

namespace Run

variable {start run next polled : Run}

theorem releaseCursor_closed (holds : run.scan.HoldsCursor) : run.releaseCursor.session.tracker =
    { run.session.tracker with closed := run.session.tracker.closed + run.scan.cursors } := by
  cases phase : run.scan.phase with
  | streaming result buffer isDrained =>
    obtain ⟨isOpen, tracked⟩ := holds _ _ _ phase
    rw [releaseCursor_tracker phase isOpen tracked]
    simp [Warehouse.Tracker.noteClosed, Scan.cursors, phase]
  | replaying rest => simp [releaseCursor, Scan.cursors, phase]
  | exhausted => simp [releaseCursor, Scan.cursors, phase]
  | closed => simp [releaseCursor, Scan.cursors, phase]

theorem close_tracker (run : Run) : run.close.session.tracker = run.releaseCursor.session.tracker := by
  unfold close releaseCursor
  cases run.scan.phase <;> rfl

/-- Since the start, the cursors that were opened are those that were closed and those that the scan now holds more. -/
structure Balanced (start run : Run) : Prop where
  holds : run.scan.HoldsCursor
  counted : run.session.tracker.opened + start.session.tracker.closed + start.scan.cursors =
    start.session.tracker.opened + run.session.tracker.closed + run.scan.cursors

namespace Balanced

theorem refl (holds : run.scan.HoldsCursor) : Balanced run run := ⟨holds, rfl⟩

theorem kept (balanced : Balanced start run) (holds : next.scan.HoldsCursor)
    (cursors : next.scan.cursors = run.scan.cursors)
    (opened : next.session.tracker.opened = run.session.tracker.opened)
    (closed : next.session.tracker.closed = run.session.tracker.closed) : Balanced start next := by
  refine ⟨holds, ?_⟩
  rw [opened, closed, cursors]
  exact balanced.counted

theorem released (balanced : Balanced start run) (none : next.scan.cursors = 0)
    (tracker : next.session.tracker = run.releaseCursor.session.tracker) : Balanced start next := by
  refine ⟨Scan.holdsCursor_idle none, ?_⟩
  have counted := balanced.counted
  rw [tracker, releaseCursor_closed balanced.holds, none]
  dsimp only
  omega

theorem close (balanced : Balanced start run) : Balanced start run.close :=
  balanced.released (by rw [close_scan]; rfl) run.close_tracker

theorem finish (balanced : Balanced start run) : Balanced start run.finish :=
  balanced.released (by rw [finish_scan]; rfl) run.finish_tracker

theorem poll {isRaised : Bool} (balanced : Balanced start run) (h : run.pollCancel = (isRaised, polled)) :
    Balanced start polled := by
  obtain ⟨cancel, flag, rfl⟩ := pollCancel_flags h
  exact balanced.kept balanced.holds rfl rfl rfl

theorem fetched {n : Nat} {result result' : Warehouse.ResultSet} {buffer : List Row} {isDrained : Bool}
    {session : Warehouse.Session} {outcome : Except Warehouse.Error (List Row)} {buffer' : List Row} {isDrained' : Bool}
    (balanced : Balanced start run) (phase : run.scan.phase = .streaming result buffer isDrained)
    (fetched : result.fetchMany n run.session = (outcome, result', session))
    (streams : next.scan.phase = .streaming result' buffer' isDrained')
    (tracker : next.session.tracker = session.tracker) : Balanced start next := by
  have still : run.session.Holds 0 run.session := rfl
  obtain ⟨held, moved⟩ := Warehouse.ResultSet.fetchMany_holds (balanced.holds _ _ _ phase) fetched still
  refine ⟨Scan.holdsCursor_streaming streams held, ?_⟩
  have counted := balanced.counted
  rw [Scan.cursors_streaming phase] at counted
  rw [Scan.cursors_streaming streams, tracker]
  unfold Warehouse.Session.Holds at moved
  omega

theorem silent (balanced : Balanced start run) (move : Silent run next) : Balanced start next := by
  cases move with
  | skip phase =>
    have held := balanced.holds _ _ _ phase
    exact balanced.kept (Scan.holdsCursor_streaming rfl held) (Scan.cursors_streaming phase).symm rfl rfl
  | refill phase work clear fetched =>
    have polled := balanced.poll clear
    obtain ⟨cancel, flag, rfl⟩ := pollCancel_flags clear
    exact polled.fetched phase fetched rfl rfl
  | refuse phase =>
    exact balanced.kept (Scan.holdsCursor_idle rfl) (Scan.cursors_replaying phase).symm rfl rfl

theorem lasting (start : Run) : Lasting (Balanced start) where
  silent move balanced := balanced.silent move
  concludes move balanced := by
    cases move with
    | yields phase =>
      have held := balanced.holds _ _ _ phase
      exact balanced.kept (Scan.holdsCursor_streaming rfl held) (Scan.cursors_streaming phase).symm rfl rfl
    | shows phase =>
      exact balanced.kept (Scan.holdsCursor_idle rfl) (Scan.cursors_replaying phase).symm rfl rfl
    | drains | ends => exact balanced.finish
    | cancels phase work raised =>
      have polled := balanced.poll raised
      exact Balanced.close (polled.kept polled.holds rfl rfl rfl)
    | fails phase work clear failed =>
      have polled := balanced.poll clear
      obtain ⟨cancel, flag, rfl⟩ := pollCancel_flags clear
      exact polled.fetched phase failed rfl rfl
    | rests => exact balanced

theorem restarted (balanced : Balanced start run) : Balanced start run.restarted :=
  balanced.released (by rw [restarted_scan]; rfl) (by rw [restarted_session])

theorem rewind (balanced : Balanced start run) : Balanced start run.rewind.2 := by
  by_cases phase : run.scan.phase = .closed
  · rw [rewind_closed phase]
    exact balanced
  have restarted := balanced.restarted
  have none : run.restarted.scan.cursors = 0 := by
    rw [restarted_scan]
    rfl
  cases work : run.scan.work with
  | replay features selection =>
    rw [rewind_replay phase work]
    exact restarted.kept (Scan.holdsCursor_idle rfl) none.symm rfl rfl
  | statement statement decoder =>
    rw [rewind_run phase work]
    dsimp only
    cases run.session.answer run.session.log.size (run.scan.endpoint.command statement.toSql) with
    | failure e => exact restarted.kept restarted.holds rfl rfl rfl
    | rows columns rows disturbance =>
      refine ⟨Scan.holdsCursor_streaming rfl ⟨rfl, rfl⟩, ?_⟩
      have counted := restarted.counted
      rw [none] at counted
      change run.restarted.session.tracker.opened + 1 + start.session.tracker.closed + start.scan.cursors =
        start.session.tracker.opened + run.restarted.session.tracker.closed + 1
      omega

theorem used (balanced : Balanced start run) (use : Use) : Balanced start (run.used use) := by
  cases use with
  | fetchNext => exact (lasting start).fetchNext balanced
  | featureAt position => exact (lasting start).featureAt position balanced
  | collectRemaining => exact (lasting start).collectRemaining balanced
  | rewind => exact balanced.rewind
  | close => exact balanced.close
  | takeMaterialized => exact balanced.kept balanced.holds rfl rfl rfl
  | cancel polls =>
    unfold Run.used cancelAfter
    dsimp only
    split
    · exact balanced.kept balanced.holds rfl rfl rfl
    · exact balanced.kept balanced.holds rfl rfl rfl

end Balanced

end Run

end FeatureLayers
