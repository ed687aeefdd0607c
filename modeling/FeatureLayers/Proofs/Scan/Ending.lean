import FeatureLayers.Scan.Rewind
import FeatureLayers.Proofs.Warehouse.History

namespace FeatureLayers

def Store.offered (store : Store) (publication : Option Nat) (features : List Feature) : Store :=
  match publication with
  | none => store
  | some generation => (store.publish generation features).2

theorem Store.offered_generation (store : Store) (publication : Option Nat) (features : List Feature) :
    (store.offered publication features).generation = store.generation := by
  unfold offered publish
  split
  · rfl
  · split <;> rfl

namespace Run

theorem releaseCursor_scan (run : Run) : run.releaseCursor.scan = run.scan := by
  unfold releaseCursor
  split <;> rfl

theorem releaseCursor_store (run : Run) : run.releaseCursor.store = run.store := by
  unfold releaseCursor
  split <;> rfl

theorem releaseCursor_precedes (run : Run) : run.session.Precedes run.releaseCursor.session := by
  unfold releaseCursor
  split
  · exact .close _ _
  all_goals exact .refl _

theorem releaseCursor_tracker {run : Run} {result : Warehouse.ResultSet} {buffer : List Row} {isDrained : Bool}
    (phase : run.scan.phase = .streaming result buffer isDrained) (isOpen : result.cursor.isClosed = false)
    (tracked : result.cursor.isTracked = true) :
    run.releaseCursor.session.tracker = run.session.tracker.noteClosed := by
  simp only [releaseCursor, phase, Warehouse.ResultSet.close, Warehouse.Cursor.close_open isOpen tracked]

theorem publish_scan (run : Run) : run.publish.scan = run.scan := by
  unfold publish
  split
  · rfl
  · dsimp only
    split <;> rfl

theorem publish_precedes (run : Run) : run.session.Precedes run.publish.session := by
  unfold publish
  split
  · exact .refl _
  · dsimp only
    split
    · exact .note _ _ _ _
    · exact .refl _

theorem publish_tracker (run : Run) : run.publish.session.tracker = run.session.tracker := by
  unfold publish
  split
  · rfl
  · dsimp only
    split <;> rfl

theorem publish_store (run : Run) :
    run.publish.store = run.store.offered run.scan.publication run.scan.cache.toList := by
  unfold publish Store.offered
  cases run.scan.publication with
  | none => rfl
  | some generation =>
    dsimp only
    split <;> rfl

theorem finish_scan (run : Run) :
    run.finish.scan = { run.scan with phase := .exhausted, cache := run.scan.cache.completed } := by
  simp only [finish, note, inPhase, publish_scan, releaseCursor_scan]

theorem finish_precedes (run : Run) : run.session.Precedes run.finish.session := by
  refine .trans ?_ (.note .info .scan "Scan complete" _)
  refine .trans ?_ (publish_precedes _)
  exact run.releaseCursor_precedes

theorem finish_tracker (run : Run) : run.finish.session.tracker = run.releaseCursor.session.tracker :=
  publish_tracker _

theorem finish_store (run : Run) :
    run.finish.store = run.store.offered run.scan.publication run.scan.cache.toList := by
  refine (publish_store _).trans ?_
  simp only [inPhase, releaseCursor_scan, releaseCursor_store]
  rfl

theorem close_scan (run : Run) : run.close.scan = { run.scan with phase := .closed } := by
  unfold close
  split
  · simp only [note, inPhase, releaseCursor_scan]
  all_goals rfl

theorem close_store (run : Run) : run.close.store = run.store := by
  unfold close
  split
  · exact run.releaseCursor_store
  all_goals rfl

theorem close_precedes (run : Run) : run.session.Precedes run.close.session := by
  unfold close
  split
  · exact run.releaseCursor_precedes.trans (.note _ _ _ _)
  all_goals exact .refl _

end Run

end FeatureLayers
