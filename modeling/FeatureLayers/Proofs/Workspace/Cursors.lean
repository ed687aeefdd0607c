import FeatureLayers.Proofs.Layer.Cursors
import FeatureLayers.Proofs.Workspace.Lasting

namespace FeatureLayers

open Warehouse (Session)
open Warehouse.Action (Frame holds_frame Keeps)

def Scan.isStreaming (s : Scan) : Bool :=
  match s.phase with
  | .streaming _ _ _ => true
  | .replaying _ | .exhausted | .closed => false

theorem Scan.cursors_eq (s : Scan) : s.cursors = if s.isStreaming then 1 else 0 := by
  unfold cursors isStreaming
  cases s.phase <;> rfl

namespace Workspace

def streaming (w : Workspace) : Nat := w.scans.countP fun found => found.any (·.scan.isStreaming)

/-- The session counts as open the cursors that streaming scans hold. -/
structure Counted (w : Workspace) : Prop where
  holds : ∀ k found, w.scan? k = some found → found.scan.HoldsCursor
  counted : w.session.tracker.opened = w.session.tracker.closed + w.streaming

variable {w w' : Workspace} {k : Nat}

theorem countP_set_of_getElem? {α : Type} {p : α → Bool} {xs : Array α} {a : α} (b : α) (here : xs[k]? = some a) :
    (xs.set! k b).countP p + (if p a then 1 else 0) = xs.countP p + if p b then 1 else 0 := by
  obtain ⟨inside, rfl⟩ := Array.getElem?_eq_some_iff.mp here
  rw [Array.set!_eq_setIfInBounds, Array.setIfInBounds_def, dif_pos inside, Array.countP_set]
  by_cases holds : p xs[k] = true
  · have some : 0 < xs.countP p := Array.countP_pos_iff.mpr ⟨xs[k], Array.getElem_mem inside, holds⟩
    rw [if_pos holds]
    omega
  · rw [if_neg holds]
    omega

theorem scans_of_scan? {found : OpenScan} (present : w.scan? k = some found) : w.scans[k]? = some (some found) :=
  Option.join_eq_some_iff.mp present

theorem Counted.kept (counted : w.Counted) (holds : w.session.Holds 0 w'.session) (scans : w'.scans = w.scans) :
    w'.Counted := by
  refine ⟨fun k found present => counted.holds k found ?_, ?_⟩
  · rw [← present, scan?, scan?, scans]
  · have before := counted.counted
    unfold streaming at before ⊢
    rw [scans]
    unfold Session.Holds at holds
    omega

theorem Counted.touched {found : OpenScan} {run : Run} (counted : w.Counted) (present : w.scan? k = some found)
    (touched : Touched w w' k found run)
    (balanced : Run.Balanced ⟨found.scan, w.session, w.storeOf found.layer⟩ run) : w'.Counted := by
  have here := scans_of_scan? present
  refine ⟨fun j other open' => ?_, ?_⟩
  · rcases scan?_of_set touched.scans open' with ⟨⟨⟩⟩ | earlier
    · exact balanced.holds
    · exact counted.holds j other earlier
  · have before := counted.counted
    have moved := balanced.counted
    have replaced := countP_set_of_getElem? (p := fun found => found.any (·.scan.isStreaming))
      (some ⟨run.scan, found.layer⟩) here
    unfold streaming at before ⊢
    rw [touched.scans, touched.session]
    simp only [Option.any_some] at replaced
    rw [Scan.cursors_eq, Scan.cursors_eq] at moved
    dsimp only at moved
    omega

theorem Counted.onLayer {α : Type} {action : Layer → Layer.Action (α × Layer)} (counted : w.Counted) (i : Nat)
    (asks : ∀ l, Keeps (Session.Holds 0) (action l)) : (((w.onLayer i action).map Prod.snd).getD w).Counted := by
  rw [onLayer_left]
  split
  · exact counted
  · rename_i l here
    have holds := asks l w.session
    rcases outcome : (action l).run w.session with ⟨e | ⟨a, l'⟩, session⟩
    · rw [outcome] at holds
      exact counted.kept holds rfl
    · rw [outcome] at holds
      exact counted.kept holds rfl

theorem Counted.openLayer (counted : w.Counted) (d : Descriptor) (context : Warehouse.Context) (settings : Settings) :
    (w.openLayer d context settings).2.Counted := by
  have holds := Layer.ofDescriptor_keeps holds_frame d context settings w.session
  rw [openLayer_left]
  rcases outcome : (Layer.ofDescriptor d context settings).run w.session with ⟨e | l, session⟩
  · rw [outcome] at holds
    exact counted.kept holds rfl
  · rw [outcome] at holds
    exact counted.kept holds rfl

theorem Counted.getFeatures (counted : w.Counted) (i : Nat) (request : Request) (shared : Bool) :
    (((w.getFeatures i request shared).map Prod.snd).getD w).Counted := by
  rw [getFeatures_left]
  split
  · exact counted
  · rename_i l here
    have held := l.getFeatures_held request w.session
    rcases outcome : (l.getFeatures request).run w.session with ⟨e | scan, session⟩
    · rw [outcome] at held
      exact counted.kept held rfl
    · rw [outcome] at held
      obtain ⟨holds, opened⟩ := held
      -- Whom the scan listens to does not matter.
      have same : ∀ scan' : Scan, scan' = (if shared then scan.listeningToShared else scan) →
          scan'.HoldsCursor ∧ scan'.cursors = scan.cursors := by
        rintro scan' rfl
        split
        · exact ⟨holds, rfl⟩
        · exact ⟨holds, rfl⟩
      obtain ⟨holds', cursors⟩ := same _ rfl
      refine ⟨fun k found present => ?_, ?_⟩
      · rcases scan?_of_push rfl present with rfl | earlier
        · exact holds'
        · exact counted.holds k found earlier
      · have before := counted.counted
        unfold streaming at before ⊢
        rw [Array.countP_push, Option.any_some, ← Scan.cursors_eq, cursors]
        unfold Session.Holds at opened
        dsimp only
        omega

theorem Counted.use (counted : w.Counted) (k : Nat) (use : Use) :
    (((w.onScan k fun run => ((), run.used use)).map Prod.snd).getD w).Counted := by
  cases left : w.onScan k fun run => ((), run.used use) with
  | none => exact counted
  | some left' =>
    obtain ⟨found, present, touched⟩ := onScan_touches left
    exact counted.touched present touched ((Run.Balanced.refl (counted.holds k found present)).used use)

theorem Counted.dropScan (counted : w.Counted) (k : Nat) : ((w.dropScan k).getD w).Counted := by
  cases left : w.dropScan k with
  | none => exact counted
  | some w' =>
    obtain ⟨found, dropped, present, touched, rfl⟩ := dropScan_touches left
    have closed := counted.touched present touched (Run.Balanced.refl (counted.holds k found present)).close
    have inside := (Array.getElem?_eq_some_iff.mp (scans_of_scan? present)).1
    refine ⟨fun j other open' => ?_, ?_⟩
    · rcases scan?_of_set rfl open' with ⟨⟨⟩⟩ | earlier
      exact closed.holds j other earlier
    · have here : dropped.scans[k]? = some (some ⟨(Run.close ⟨found.scan, w.session, w.storeOf found.layer⟩).scan,
          found.layer⟩) := by
        rw [touched.scans]
        simp [inside]
      have replaced := countP_set_of_getElem? (p := fun found => found.any (·.scan.isStreaming)) none here
      have before := closed.counted
      rw [Run.close_scan] at replaced
      unfold streaming at before ⊢
      simp only [Option.getD_some, Option.any_some, Option.any_none, Scan.isStreaming, Bool.false_eq_true, if_false,
        Nat.add_zero] at replaced ⊢
      rw [replaced]
      exact before

theorem Counted.engage (counted : w.Counted) (activity : Activity) : (w.engage activity).Counted := by
  cases activity with
  | operate operation =>
    cases operation with
    | openLayer d context settings => exact counted.openLayer d context settings
    | registerTransform layer transform => exact counted.onLayer layer fun l => holds_frame.pure _
    | setSubset layer filter => exact counted.onLayer layer fun l => Layer.setSubset_keeps holds_frame l filter
    | loadAll layer => exact counted.onLayer layer Layer.loadAll_holds
    | getFeatures layer request shared => exact counted.getFeatures layer request shared
    | use k use => exact counted.use k use
    | drop k => exact counted.dropScan k
    | cancelShared polls => exact counted.kept rfl rfl
  | inquire layer inquiry => exact counted.onLayer layer (Layer.inquire_keeps holds_frame inquiry)
  | adopt layer features =>
    refine counted.onLayer layer fun l => holds_frame.bind ?_ fun _ => holds_frame.pure _
    exact holds_frame.bind (holds_frame.noted _ _ _) fun _ => holds_frame.pure _
  | preview endpoint query limit =>
    exact counted.kept (Preview.ofQuery_keeps holds_frame endpoint query limit w.session) rfl
  | collectGroups endpoint query geometryColumn batchSize =>
    exact counted.kept (FeatureGroup.ofQuery_holds endpoint query geometryColumn batchSize w.session) rfl

/--
Whatever is done in a session, with whatever failures and cancellations, its open cursors are as many as there are open
scans that stream.
-/
theorem open_cursors_are_streaming_scans (answer : Nat → Warehouse.Command → Warehouse.Reply)
    (activities : List Activity) :
    ((start (.start answer)).engaged activities).session.tracker.openCursors =
      ((start (.start answer)).engaged activities).scans.countP fun found => found.any (·.scan.isStreaming) := by
  suffices counted : ((start (.start answer)).engaged activities).Counted by
    unfold Warehouse.Tracker.openCursors
    rw [counted.counted, Nat.add_sub_cancel_left]
    rfl
  induction activities using List.reverseRecOn with
  | nil => exact ⟨fun k found present => by simp [engaged, start, scan?] at present, rfl⟩
  | append_singleton activities last ih =>
    rw [engaged_snoc]
    exact ih.engage last

end Workspace

end FeatureLayers
