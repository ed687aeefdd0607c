import FeatureLayers.Proofs.Layer.Loading
import FeatureLayers.Proofs.Scan.Cursors

namespace FeatureLayers

open Warehouse (Session)
open Warehouse.Action (holds_frame Keeps)

namespace Scan

/-- The scan holds the cursors that are open now and were not before; if there is none, there are as many as before. -/
def HeldBy (s : Session) : Except Layer.Error Scan × Session → Prop
  | (.ok scan, s') => scan.HoldsCursor ∧ s.Holds scan.cursors s'
  | (.error _, s') => s.Holds 0 s'

variable {s s' : Session}

theorem HeldBy.after {result : Except Layer.Error Scan × Session} (holds : s.Holds 0 s') (held : HeldBy s' result) :
    HeldBy s result := by
  rcases result with ⟨e | scan, s''⟩
  · exact holds.trans held
  · exact ⟨held.1, holds.trans held.2⟩

theorem HeldBy.bind {α : Type} {first : Layer.Action α} {next : α → Layer.Action Scan}
    (asks : Keeps (Session.Holds 0) first) (held : ∀ a s, HeldBy s ((next a).run s)) (s : Session) :
    HeldBy s ((first >>= next).run s) := by
  have holds := asks s
  rw [Warehouse.Action.run_bind]
  rcases outcome : first.run s with ⟨e | a, s'⟩
  · rw [outcome] at holds
    exact holds
  · rw [outcome] at holds
    exact (held a s').after holds

theorem stream_held (base : ScanBase) (found : Option GeometryColumn) (request : Request) (s : Session) :
    HeldBy s ((stream base found request).run s) := by
  refine HeldBy.bind (requireSpec_keeps holds_frame found) (fun spec => ?_) s
  refine HeldBy.bind (plan_keeps holds_frame base spec request) fun (statement, transform) s => ?_
  dsimp only
  rw [Warehouse.Action.run_bind, execute_run]
  dsimp only
  cases s.answer s.log.size (base.endpoint.command statement.toSql) with
  | failure e => exact rfl
  | rows columns rows disturbance =>
    refine ⟨holdsCursor_streaming rfl ⟨rfl, rfl⟩, ?_⟩
    change s.tracker.opened + 1 + s.tracker.closed = s.tracker.opened + s.tracker.closed + 1
    omega

theorem replay_held (base : ScanBase) (found : Option GeometryColumn) (features : List Feature) (request : Request)
    (s : Session) : HeldBy s ((replay base found features request).run s) := by
  have holds := replay_keeps holds_frame base found features request s
  rcases outcome : (replay base found features request).run s with ⟨e | scan, s'⟩
  · rw [outcome] at holds
    exact holds
  · rw [outcome] at holds
    obtain ⟨spec, transform, selection, -, -, -, rfl, -⟩ := replay_ok outcome
    exact ⟨holdsCursor_idle rfl, holds⟩

end Scan

namespace Layer

theorem getFeatures_held (l : Layer) (request : Request) (s : Session) :
    Scan.HeldBy s ((l.getFeatures request).run s) := by
  unfold getFeatures
  split
  · exact Scan.replay_held _ _ _ _ s
  · have held := Scan.stream_held l.base l.spec request s
    rw [Warehouse.Action.run_bind]
    rcases outcome : (Scan.stream l.base l.spec request).run s with ⟨e | scan, s'⟩
    · rw [outcome] at held
      exact held
    · rw [outcome] at held
      dsimp only
      split
      · exact held
      · exact held

theorem loadAll_holds (l : Layer) : Keeps (Session.Holds 0) l.loadAll := by
  intro s
  cases loaded : l.store.features with
  | some features =>
    rw [loadAll_loaded loaded]
    exact rfl
  | none =>
    have held := l.getFeatures_held .all s
    rw [loadAll_run loaded]
    rcases outcome : (l.getFeatures .all).run s with ⟨e | scan, s'⟩
    · rw [outcome] at held
      exact held
    · rw [outcome] at held
      obtain ⟨holds, counted⟩ := held
      let begun : Run := ⟨scan, s', l.store⟩
      have balanced : Run.Balanced begun begun := .refl holds
      have closed := ((Run.Balanced.lasting begun).collectRemaining balanced).close
      have none : begun.collectRemaining.2.close.scan.cursors = 0 := by
        rw [Run.close_scan]
        rfl
      have after := closed.counted
      rw [none] at after
      change s.Holds 0 begun.collectRemaining.2.close.session
      unfold Session.Holds at counted ⊢
      dsimp only [begun] at after ⊢
      omega

end Layer

end FeatureLayers
