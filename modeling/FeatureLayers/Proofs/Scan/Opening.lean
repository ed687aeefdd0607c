import FeatureLayers.Proofs.Layer.Asking
import FeatureLayers.Proofs.Scan.Reading
import FeatureLayers.Proofs.Warehouse.History

namespace FeatureLayers

open Warehouse (Disturbance ResultSet Session)
open Warehouse.Action (Frame Keeps)

namespace Scan

variable {base : ScanBase} {spec : GeometryColumn} {request : Request} {s s' : Session}

theorem transformFor_all (base : ScanBase) (spec : GeometryColumn) : transformFor base spec .all = .ok none := by
  unfold transformFor Crs.Registry.between
  cases spec.srid <;> rfl

theorem acceptedExpression_keeps {R : Session → Session → Prop} (frame : Frame R) (base : ScanBase)
    (request : Request) : Keeps R (acceptedExpression base request) := by
  unfold acceptedExpression
  split
  · exact frame.pure none
  · refine frame.bind (Layer.acceptsExpression_keeps frame _ _ _) fun accepted => ?_
    cases accepted <;> exact frame.pure _

theorem acceptedExpression_none {expression : Option String} (plain : request.expression = none)
    (h : (acceptedExpression base request).run s = (.ok expression, s')) : expression = none := by
  simp only [acceptedExpression, plain] at h
  cases h
  rfl

theorem execute_precedes (endpoint : Warehouse.Endpoint) (statement : Query.Statement) :
    Keeps Session.Precedes (execute endpoint statement) := by
  have frame := Warehouse.Action.precedes_frame
  refine frame.bind (frame.noted _ _ _) fun _ => frame.bind ?_ fun _ => frame.pure _
  exact Frame.ofWarehouse (Warehouse.Action.execute_precedes _)

theorem execute_ok {endpoint : Warehouse.Endpoint} {statement : Query.Statement} {phase : Phase}
    (h : (execute endpoint statement).run s = (.ok phase, s')) :
    ∃ columns rows disturbance, phase = .streaming (.ofReply columns rows disturbance) [] false ∧ s.Precedes s' ∧
      s'.Answered s.log.size (endpoint.command statement.toSql) rows := by
  obtain ⟨⟨⟩, noted, note, begins⟩ := Warehouse.Action.bind_ok h
  cases note
  obtain ⟨result, after, executed, returned⟩ := Warehouse.Action.bind_ok begins
  cases returned
  obtain ⟨columns, rows, disturbance, reply, rfl, rfl⟩ := Warehouse.Action.execute_ok (Layer.ofWarehouse_ok executed)
  refine ⟨columns, rows, disturbance, rfl, ?_, Session.answered_last reply (.of_eq rfl rfl)⟩
  exact (Session.Precedes.note _ _ _ s).trans ((Session.Precedes.logged _ _).trans (.of_eq rfl rfl))

theorem execute_run (endpoint : Warehouse.Endpoint) (statement : Query.Statement) (s : Session) :
    (execute endpoint statement).run s =
      let sent := (s.note .info .scan "Executing feature query").logged (endpoint.command statement.toSql)
      match s.answer s.log.size (endpoint.command statement.toSql) with
      | .failure e => (.error (.warehouse e), sent)
      | .rows columns rows disturbance => (.ok (.streaming (.ofReply columns rows disturbance) [] false),
          { sent with tracker := s.tracker.noteOpened }) := by
  let noted := s.note .info .scan "Executing feature query"
  have same : noted.answer noted.log.size = s.answer s.log.size := rfl
  unfold execute
  rw [Warehouse.Action.run_bind, Warehouse.Action.note_run]
  dsimp only
  rw [Warehouse.Action.run_bind, Layer.ofWarehouse_run]
  simp only [Warehouse.Action.execute, ExceptT.run_mk]
  rw [same]
  cases s.answer s.log.size (endpoint.command statement.toSql) <;> rfl

theorem execute_outcome (endpoint : Warehouse.Endpoint) (statement : Query.Statement) (s : Session) :
    ((execute endpoint statement).run s).1 = match s.answer s.log.size (endpoint.command statement.toSql) with
      | .failure e => .error (.warehouse e)
      | .rows columns rows disturbance => .ok (.streaming (.ofReply columns rows disturbance) [] false) := by
  rw [execute_run]
  cases s.answer s.log.size (endpoint.command statement.toSql) <;> rfl

theorem requireSpec_keeps {R : Session → Session → Prop} (frame : Frame R) (found : Option GeometryColumn) :
    Keeps R (requireSpec found) := by
  cases found with
  | none => exact frame.throw _
  | some spec => exact frame.pure _

theorem requireSpec_ok {found : Option GeometryColumn} (h : (requireSpec found).run s = (.ok spec, s')) :
    found = some spec ∧ s' = s := by
  cases found <;> cases h
  exact ⟨rfl, rfl⟩

theorem plan_keeps {R : Session → Session → Prop} (frame : Frame R) (base : ScanBase) (spec : GeometryColumn)
    (request : Request) : Keeps R (plan base spec request) := by
  refine frame.bind (frame.ofExcept _) fun transform => ?_
  refine frame.bind (acceptedExpression_keeps frame _ _) fun expression => ?_
  exact frame.bind (frame.ofExcept _) fun statement => frame.bind (frame.noted _ _ _) fun _ => frame.pure _

theorem plan_ok {statement : Query.Statement} {transform : Option Crs.Transform}
    (h : (plan base spec request).run s = (.ok (statement, transform), s')) :
    transformFor base spec request = .ok transform ∧ ∃ expression, (request.expression = none → expression = none) ∧
      Query.compose (queryPlan base spec) request expression (sourceBox request transform) = .ok statement := by
  obtain ⟨transform', s₁, transformed, asks⟩ := Warehouse.Action.bind_ok h
  obtain ⟨found, rfl⟩ := Layer.ofExcept_ok transformed
  obtain ⟨expression, s₂, accepted, composes⟩ := Warehouse.Action.bind_ok asks
  obtain ⟨statement', s₃, composed, notes⟩ := Warehouse.Action.bind_ok composes
  obtain ⟨written, rfl⟩ := Layer.ofExcept_ok composed
  obtain ⟨⟨⟩, s₄, noted, planned⟩ := Warehouse.Action.bind_ok notes
  cases noted
  cases planned
  exact ⟨found, expression, fun plain => acceptedExpression_none plain accepted, written⟩

theorem stream_precedes (base : ScanBase) (found : Option GeometryColumn) (request : Request) :
    Keeps Session.Precedes (stream base found request) := by
  have frame := Warehouse.Action.precedes_frame
  refine frame.bind (requireSpec_keeps frame _) fun spec => ?_
  refine frame.bind (plan_keeps frame _ _ _) fun (statement, transform) => ?_
  exact frame.bind (execute_precedes _ _) fun phase => frame.pure _

theorem replay_keeps {R : Session → Session → Prop} (frame : Frame R) (base : ScanBase) (found : Option GeometryColumn)
    (features : List Feature) (request : Request) : Keeps R (replay base found features request) := by
  refine frame.bind (requireSpec_keeps frame _) fun spec => frame.bind (frame.ofExcept _) fun transform => ?_
  exact frame.bind (frame.ofExcept _) fun selection => frame.bind (frame.noted _ _ _) fun _ => frame.pure _

theorem plan_run (plain : request.expression = none) (s : Session) :
    (plan base spec request).run s = match transformFor base spec request with
      | .error e => (.error e, s)
      | .ok transform =>
        match Query.compose (queryPlan base spec) request none (sourceBox request transform) with
        | .error e => (.error e, s)
        | .ok statement => (.ok (statement, transform), s.note .debug .composition "Composed feature query") := by
  have asks : acceptedExpression base request = pure none := by
    unfold acceptedExpression
    rw [plain]
  unfold plan
  rw [asks, Warehouse.Action.run_bind, Layer.ofExcept_run]
  cases transformFor base spec request with
  | error e => rfl
  | ok transform =>
    dsimp only
    rw [pure_bind, Warehouse.Action.run_bind, Layer.ofExcept_run]
    cases Query.compose (queryPlan base spec) request none (sourceBox request transform) <;> rfl

theorem stream_run (plain : request.expression = none) (s : Session) :
    (stream base (some spec) request).run s = match transformFor base spec request with
      | .error e => (.error e, s)
      | .ok transform =>
        match Query.compose (queryPlan base spec) request none (sourceBox request transform) with
        | .error e => (.error e, s)
        | .ok statement =>
          match (execute base.endpoint statement).run (s.note .debug .composition "Composed feature query") with
          | (.error e, s) => (.error e, s)
          | (.ok phase, s) =>
            let decoder := Decode.RowDecoder.of statement.layout base.fields spec.encoding transform
            (.ok { idle base spec (.statement statement decoder) transform with phase }, s) := by
  unfold stream requireSpec
  rw [pure_bind, Warehouse.Action.run_bind, plan_run plain]
  cases transformFor base spec request with
  | error e => rfl
  | ok transform =>
    dsimp only
    cases Query.compose (queryPlan base spec) request none (sourceBox request transform) with
    | error e => rfl
    | ok statement =>
      dsimp only
      rw [Warehouse.Action.run_bind]
      rcases (execute base.endpoint statement).run _ with ⟨outcome, s⟩
      cases outcome <;> rfl

theorem replay_run (features : List Feature) (s : Session) :
    (replay base (some spec) features request).run s = match transformFor base spec request with
      | .error e => (.error e, s)
      | .ok transform =>
        match selectionFor base request transform with
        | .error e => (.error e, s)
        | .ok selection =>
          (.ok { idle base spec (.replay features selection) transform with phase := .replaying features },
            s.note .debug .scan "Replaying loaded features") := by
  unfold replay requireSpec
  rw [pure_bind, Warehouse.Action.run_bind, Layer.ofExcept_run]
  cases transformFor base spec request with
  | error e => rfl
  | ok transform =>
    dsimp only
    rw [Warehouse.Action.run_bind, Layer.ofExcept_run]
    cases selectionFor base request transform <;> rfl

theorem replay_ok {found : Option GeometryColumn} {features : List Feature} {scan : Scan}
    (h : (replay base found features request).run s = (.ok scan, s')) :
    ∃ spec transform selection, found = some spec ∧ transformFor base spec request = .ok transform ∧
      selectionFor base request transform = .ok selection ∧
      scan = { idle base spec (.replay features selection) transform with phase := .replaying features } ∧
      s' = s.note .debug .scan "Replaying loaded features" := by
  cases found with
  | none => cases h
  | some spec =>
    rw [replay_run] at h
    cases transformed : transformFor base spec request with
    | error e => rw [transformed] at h; cases h
    | ok transform =>
      rw [transformed] at h
      dsimp only at h
      cases selected : selectionFor base request transform with
      | error e => rw [selected] at h; cases h
      | ok selection =>
        rw [selected] at h
        cases h
        exact ⟨spec, transform, selection, rfl, transformed, selected, rfl, rfl⟩

theorem stream_ok {found : Option GeometryColumn} {scan : Scan}
    (h : (stream base found request).run s = (.ok scan, s')) :
    ∃ spec transform expression statement columns rows disturbance number, found = some spec ∧
      transformFor base spec request = .ok transform ∧ (request.expression = none → expression = none) ∧
      Query.compose (queryPlan base spec) request expression (sourceBox request transform) = .ok statement ∧
      scan = begun base spec statement (.of statement.layout base.fields spec.encoding transform) transform
        (.ofReply columns rows disturbance) ∧
      s.Precedes s' ∧ s'.Answered number (base.endpoint.command statement.toSql) rows := by
  obtain ⟨spec, s₁, required, opened⟩ := Warehouse.Action.bind_ok h
  obtain ⟨rfl, rfl⟩ := requireSpec_ok required
  obtain ⟨⟨statement, transform⟩, s₂, planned, begins⟩ := Warehouse.Action.bind_ok opened
  obtain ⟨phase, s₃, executed, returned⟩ := Warehouse.Action.bind_ok begins
  cases returned
  obtain ⟨columns, rows, disturbance, rfl, onward, answered⟩ := execute_ok executed
  obtain ⟨transformed, expression, plain, composed⟩ := plan_ok planned
  have asked := (plan_keeps Warehouse.Action.precedes_frame base spec request).outcome planned
  exact ⟨spec, transform, expression, statement, columns, rows, disturbance, _, rfl, transformed, plain, composed, rfl,
    asked.trans onward, answered⟩

/-- A scan that streams has sent its statement last of all, and has the rows that were answered to it. -/
theorem stream_began {found : Option GeometryColumn} {scan : Scan}
    (h : (stream base found request).run s = (.ok scan, s')) :
    ∃ spec transform statement columns rows disturbance number, found = some spec ∧
      transformFor base spec request = .ok transform ∧
      scan = begun base spec statement (.of statement.layout base.fields spec.encoding transform) transform
        (.ofReply columns rows disturbance) ∧
      s'.answer = s.answer ∧ s'.log.back? = some (base.endpoint.command statement.toSql) ∧ s.log.size ≤ number ∧
      s.answer number (base.endpoint.command statement.toSql) = .rows columns rows disturbance := by
  obtain ⟨spec, s₁, required, opened⟩ := Warehouse.Action.bind_ok h
  obtain ⟨rfl, rfl⟩ := requireSpec_ok required
  obtain ⟨⟨statement, transform⟩, s₂, planned, begins⟩ := Warehouse.Action.bind_ok opened
  obtain ⟨phase, s₃, executed, returned⟩ := Warehouse.Action.bind_ok begins
  cases returned
  have asked : s₁.Precedes s₂ :=
    (plan_keeps Warehouse.Action.precedes_frame base spec request).outcome planned
  rw [execute_run] at executed
  rw [← asked.answer]
  cases reply : s₂.answer s₂.log.size (base.endpoint.command statement.toSql) with
  | failure e =>
    rw [reply] at executed
    cases executed
  | rows columns rows disturbance =>
    rw [reply] at executed
    cases executed
    refine ⟨spec, transform, statement, columns, rows, disturbance, s₂.log.size, rfl, (plan_ok planned).1, rfl, rfl, ?_,
      ?_, reply⟩
    · simp [Session.logged]
    · exact asked.size_le

end Scan

end FeatureLayers
