import FeatureLayers.Preview.Group
import FeatureLayers.Preview.Page
import FeatureLayers.Proofs.Warehouse.Balance

namespace FeatureLayers

open Warehouse (ResultSet Session)
open Warehouse.Action (Frame Keeps)

namespace FeatureGroup

theorem poll_left {s s' : Session} {isRaised : Bool} (polled : poll s = (isRaised, s')) :
    ∃ cancel, s' = { s with cancel } := by
  cases polled
  exact ⟨_, rfl⟩

theorem takeRows_left {rows : List Row} {p : Progress} {outcome : Option Progress} {s s' : Session}
    (h : takeRows rows p s = (outcome, s')) : ∃ cancel, s' = { s with cancel } := by
  fun_induction takeRows rows p s with
  | case1 =>
    cases h
    exact ⟨_, rfl⟩
  | case2 row rest p s polled raised =>
    cases h
    exact poll_left raised
  | case3 row rest p s polled clear ih =>
    obtain ⟨cancel, rfl⟩ := poll_left clear
    exact ih h

/-- The cursor is closed however the collection ends. -/
theorem collect_holds (batchSize : Nat) (positive : 0 < batchSize) (result : ResultSet) (p : Progress)
    {start s : Session} (held : result.IsHeld) (holds : start.Holds 1 s) :
    start.Holds 0 (collect batchSize positive result p s).2 := by
  -- The cases are the exits, in the order of the checks; only the last goes on with the cursor open.
  fun_induction collect batchSize positive result p s with
  | case1 result p s polled raised =>
    obtain ⟨cancel, rfl⟩ := poll_left raised
    exact ResultSet.close_holds held holds
  | case2 result p s polled clear e result' failing failed =>
    obtain ⟨cancel, rfl⟩ := poll_left clear
    obtain ⟨held, holds⟩ := ResultSet.fetchMany_holds held failed holds
    exact ResultSet.close_holds held holds
  | case3 result p s polled clear batch result' fetching fetched taking taken =>
    obtain ⟨cancel, rfl⟩ := poll_left clear
    obtain ⟨held, holds⟩ := ResultSet.fetchMany_holds held fetched holds
    obtain ⟨cancel, rfl⟩ := takeRows_left taken
    exact ResultSet.close_holds held holds
  | case4 result p s polled clear batch result' fetching fetched progress taking taken short =>
    obtain ⟨cancel, rfl⟩ := poll_left clear
    obtain ⟨held, holds⟩ := ResultSet.fetchMany_holds held fetched holds
    obtain ⟨cancel, rfl⟩ := takeRows_left taken
    exact ResultSet.close_holds held holds
  | case5 result p s polled clear batch result' fetching fetched progress taking taken full ih =>
    obtain ⟨cancel, rfl⟩ := poll_left clear
    obtain ⟨held, holds⟩ := ResultSet.fetchMany_holds held fetched holds
    obtain ⟨cancel, rfl⟩ := takeRows_left taken
    exact ih held holds

theorem collect_precedes (batchSize : Nat) (positive : 0 < batchSize) (result : ResultSet) (p : Progress)
    (s : Session) : s.Precedes (collect batchSize positive result p s).2 := by
  have closes : ∀ (r : ResultSet) {s s' : Session}, s.Precedes s' → s.Precedes (r.close s').2 :=
    fun r _ _ precedes => precedes.trans (.close r _)
  have polls : ∀ {s s' : Session}, (∃ cancel, s' = { s with cancel }) → s.Precedes s' := by
    rintro s _ ⟨cancel, rfl⟩
    exact .of_eq rfl rfl
  fun_induction collect batchSize positive result p s with
  | case1 result p s polled raised =>
    exact (closes result (polls (poll_left raised))).trans (.note _ _ _ _)
  | case2 result p s polled clear e result' failing failed =>
    exact closes result' ((polls (poll_left clear)).trans (.fetchMany failed))
  | case3 result p s polled clear batch result' fetching fetched taking taken =>
    exact closes result' (((polls (poll_left clear)).trans (.fetchMany fetched)).trans (polls (takeRows_left taken)))
  | case4 result p s polled clear batch result' fetching fetched progress taking taken short =>
    exact closes result' (((polls (poll_left clear)).trans (.fetchMany fetched)).trans (polls (takeRows_left taken)))
  | case5 result p s polled clear batch result' fetching fetched progress taking taken full ih =>
    exact (((polls (poll_left clear)).trans (.fetchMany fetched)).trans (polls (takeRows_left taken))).trans ih

theorem ofQuery_holds (endpoint : Warehouse.Endpoint) (query geometryColumn : String) (batchSize : Nat) :
    Keeps (Session.Holds 0) (ofQuery endpoint query geometryColumn batchSize) := by
  have frame := Warehouse.Action.holds_frame
  refine frame.bind (frame.columns _ _) fun columns => ?_
  split
  · refine (Warehouse.Action.execute_acquires _).ofWarehouse.bind fun result s s' held holds => ?_
    have collected := collect_holds (max batchSize 1) (by omega) result ⟨[], 0⟩ held holds
    rw [Warehouse.Action.run_bind, ExceptT.run_mk]
    rcases outcome : collect (max batchSize 1) (by omega) result ⟨[], 0⟩ s' with ⟨e | progress, s''⟩
    · rw [outcome] at collected
      exact collected
    · rw [outcome] at collected
      exact collected
  · exact frame.throw _

theorem ofQuery_precedes (endpoint : Warehouse.Endpoint) (query geometryColumn : String) (batchSize : Nat) :
    Keeps Session.Precedes (ofQuery endpoint query geometryColumn batchSize) := by
  have frame := Warehouse.Action.precedes_frame
  refine frame.bind (frame.columns _ _) fun columns => ?_
  split
  · refine frame.bind (Frame.ofWarehouse (Warehouse.Action.execute_precedes _)) fun result => ?_
    exact frame.bind (collect_precedes _ _ result ⟨[], 0⟩) fun progress => frame.bind (frame.noted _ _ _) fun _ =>
      frame.pure _
  · exact frame.throw _

end FeatureGroup

theorem Preview.ofQuery_keeps {R : Session → Session → Prop} (frame : Frame R) (endpoint : Warehouse.Endpoint)
    (query : String) (limit : Nat) : Keeps R (ofQuery endpoint query limit) := by
  refine frame.bind (frame.columns _ _) fun columns => ?_
  refine frame.bind (frame.noted _ _ _) fun _ => ?_
  refine frame.bind (frame.rows _ _) fun rows => ?_
  refine frame.bind ?_ fun cellFlags => frame.bind (frame.noted _ _ _) fun _ => frame.pure _
  unfold findCells
  split
  · refine frame.bind (Frame.attempt (frame.queryAll _)) fun outcome => ?_
    cases outcome with
    | ok rows => exact frame.pure _
    | error e =>
      dsimp only
      split
      · exact frame.bind (frame.noted _ _ _) fun _ => frame.pure _
      · exact frame.throw _
  · exact frame.pure _

end FeatureLayers
