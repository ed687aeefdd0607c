import FeatureLayers.Proofs.Scan.Opening
import FeatureLayers.Proofs.Scan.Collecting

namespace FeatureLayers

open Warehouse (Disturbance ResultSet Session)

namespace Run

def Faultless (run : Run) : Prop :=
  ∀ result buffer isDrained, run.scan.phase = .streaming result buffer isDrained →
    result.cursor.isClosed = false ∧ ∀ fetch, (result.disturbance fetch).error = none

theorem Faultless.lasting : Lasting Faultless where
  silent move faultless := by
    cases move with
    | skip phase =>
      intro result buffer isDrained streams
      cases streams
      exact faultless _ _ _ phase
    | refill phase work clear fetched =>
      intro result buffer isDrained streams
      cases streams
      obtain ⟨isOpen, fine⟩ := faultless _ _ _ phase
      obtain ⟨-, -, rfl, -⟩ := ResultSet.fetchMany_batch isOpen fetched
      exact ⟨isOpen, fine⟩
    | refuse => exact nofun
  concludes move faultless := by
    cases move with
    | yields phase =>
      intro result buffer isDrained streams
      cases streams
      exact faultless _ _ _ phase
    | shows => exact nofun
    | drains | ends =>
      unfold Faultless
      rw [finish_scan]
      exact nofun
    | cancels =>
      unfold Faultless
      rw [close_scan]
      exact nofun
    | fails phase work clear failed =>
      intro result buffer isDrained streams
      cases streams
      obtain ⟨isOpen, fine⟩ := faultless _ _ _ phase
      obtain ⟨-, rfl, -⟩ := ResultSet.fetchMany_error isOpen failed
      exact ⟨isOpen, fine⟩
    | rests => exact faultless

theorem Faultless.fetchNext_ok {run : Run} (faultless : run.Faultless) (e : Layer.Error) (next : Run) :
    run.fetchNext ≠ (.error e, next) := by
  intro h
  obtain ⟨middle, silent, concluded⟩ := fetchNext_moves run
  rw [h] at concluded
  cases concluded with
  | fails phase work clear failed =>
    obtain ⟨isOpen, fine⟩ := Faultless.lasting.silently silent faultless _ _ _ phase
    have failure := (ResultSet.fetchMany_error isOpen failed).1
    rw [fine] at failure
    cases failure

theorem Pass.collects {rows : List Row} {decoder : Decode.RowDecoder} {publication : Option Nat} {store : Store}
    {run : Run} (pass : Pass rows decoder publication store run) (fresh : run.scan.cache.toList = [])
    (undisturbed : run.Undisturbed) (faultless : run.Faultless) :
    ∃ last, run.collectRemaining = (.ok (decoder.features rows), last) ∧
      last.store = store.offered publication (decoder.features rows) := by
  obtain ⟨features, last, collected⟩ :=
    Faultless.lasting.collects (fun run e next holds => holds.fetchNext_ok e next) faultless
  have isOpen := Undisturbed.lasting.collectRemaining undisturbed
  rw [collected] at isOpen
  obtain ⟨rfl, stored⟩ := pass.collected fresh collected isOpen.1
  exact ⟨last, collected, stored⟩

theorem begun_collects (base : ScanBase) (spec : GeometryColumn) (statement : Query.Statement)
    (decoder : Decode.RowDecoder) (transform : Option Crs.Transform) (columns : List Column) (rows : List Row)
    (disturbance : Nat → Disturbance) (fine : ∀ fetch, (disturbance fetch).error = none) (publication : Option Nat)
    (s : Session) (store : Store) :
    let result := ResultSet.ofReply columns rows disturbance
    let scan := { Scan.begun base spec statement decoder transform result with publication }
    ∃ last, collectRemaining ⟨scan, s, store⟩ = (.ok (decoder.features rows), last) ∧
      last.store = store.offered publication (decoder.features rows) := by
  intro result scan
  have faultless : Faultless ⟨scan, s, store⟩ := by
    intro result buffer isDrained streams
    cases streams
    exact ⟨rfl, fine⟩
  have pass : Pass rows decoder publication store ⟨scan, s, store⟩ :=
    .reading rfl rfl rfl rfl (.start rows decoder columns disturbance rfl rfl rfl)
  exact pass.collects rfl ⟨nofun, .lowered, rfl, rfl⟩ faultless

/-- A scan that replays has shown what its selection admits of the features before. -/
inductive Replays (features : List Feature) (selection : Selection) (transform : Option Crs.Transform) (run : Run) :
    Prop
  | showing {before rest} (phase : run.scan.phase = .replaying rest) (work : run.scan.work = .replay features selection)
      (moves : run.scan.transform = transform) (split : features = before ++ rest)
      (cached : run.scan.cache.toList = (before.filter selection.admits).map (selection.shape transform))
  | shown (phase : run.scan.phase = .exhausted)
      (cached : run.scan.cache.toList = (features.filter selection.admits).map (selection.shape transform))

theorem Replays.lasting (features : List Feature) (selection : Selection) (transform : Option Crs.Transform) :
    Lasting (Replays features selection transform) where
  silent move replays := by
    cases replays with
    | @showing before rest phase work moves split cached =>
      cases move with
      | @refuse feature rest _ _ phase' work' refused =>
        cases phase.symm.trans phase'
        cases work.symm.trans work'
        have sofar : (before ++ [feature]).filter selection.admits = before.filter selection.admits := by
          simp [List.filter_append, refused]
        exact .showing rfl work moves (split.trans (List.append_cons ..)) (by rw [sofar]; exact cached)
      | _ phase' => cases phase.symm.trans phase'
    | shown phase => cases move with | _ phase' => cases phase.symm.trans phase'
  concludes move replays := by
    cases replays with
    | @showing before rest phase work moves split cached =>
      cases move with
      | @shows feature rest _ _ phase' work' admitted =>
        cases phase.symm.trans phase'
        cases work.symm.trans work'
        refine .showing rfl work moves (split.trans (List.append_cons ..)) ?_
        have sofar : (before ++ [feature]).filter selection.admits = before.filter selection.admits ++ [feature] := by
          simp [List.filter_append, admitted]
        rw [sofar, List.map_append, ← cached, moves]
        exact Array.toList_push ..
      | ends phase' work' =>
        cases phase.symm.trans phase'
        refine .shown (by rw [finish_scan]) ?_
        rw [finish_scan, split, List.append_nil]
        exact cached
      | rests idle => simp [IsActive, phase, work] at idle
      | _ phase' => cases phase.symm.trans phase'
    | shown phase cached =>
      cases move with
      | rests idle => exact .shown phase cached
      | _ phase' => cases phase.symm.trans phase'

theorem replay_collects {features : List Feature} {selection : Selection} {run : Run}
    (phase : run.scan.phase = .replaying features) (work : run.scan.work = .replay features selection)
    (fresh : run.scan.cache = .empty) :
    run.collectRemaining.1 = .ok ((features.filter selection.admits).map (selection.shape run.scan.transform)) := by
  have replays : Replays features selection run.scan.transform run :=
    .showing phase work rfl (List.nil_append features).symm (by rw [fresh]; rfl)
  have faultless : run.Faultless := by
    unfold Faultless
    rw [phase]
    exact nofun
  obtain ⟨collection, last, collected⟩ :=
    Faultless.lasting.collects (fun run e next holds => holds.fetchNext_ok e next) faultless
  have ended : Replays features selection run.scan.transform last := by
    have kept := (Replays.lasting _ _ _).collectRemaining replays
    rwa [collected] at kept
  obtain ⟨idle, all⟩ := collectRemaining_ok collected
  rw [fresh] at all
  cases ended with
  | showing phase work => simp [IsActive, phase, work] at idle
  | shown phase cached =>
    rw [collected, ← cached, all]
    rfl

end Run

def Warehouse.Session.Answers (s : Session) (command : Warehouse.Command) (rows : List Row) : Prop :=
  ∀ number, ∃ columns disturbance, (∀ fetch, (disturbance fetch).error = none) ∧
    s.answer number command = .rows columns rows disturbance

namespace Scan

def collected (opening : Layer.Action Scan) (s : Session) : Except Layer.Error (List Feature) :=
  match opening.run s with
  | (.error e, _) => .error e
  | (.ok scan, s) => (Run.collectRemaining ⟨scan, s, .empty⟩).1

variable {base : ScanBase} {spec : GeometryColumn} {request : Request}

theorem stream_starts {transform : Option Crs.Transform} {statement : Query.Statement} {rows : List Row} {s : Session}
    (plain : request.expression = none) (moves : transformFor base spec request = .ok transform)
    (composed : Query.compose (queryPlan base spec) request none (sourceBox request transform) = .ok statement)
    (answers : s.Answers (base.endpoint.command statement.toSql) rows) :
    ∃ columns disturbance s', (∀ fetch, (disturbance fetch).error = none) ∧
      (stream base (some spec) request).run s = (.ok (begun base spec statement
        (.of statement.layout base.fields spec.encoding transform) transform (.ofReply columns rows disturbance)), s') := by
  let noted := s.note .debug .composition "Composed feature query"
  obtain ⟨columns, disturbance, fine, reply⟩ := answers noted.log.size
  have answered : noted.answer noted.log.size (base.endpoint.command statement.toSql) =
      .rows columns rows disturbance := reply
  have outcome := execute_outcome base.endpoint statement noted
  rw [answered] at outcome
  rw [stream_run plain, moves]
  dsimp only
  rw [composed]
  rcases executed : (execute base.endpoint statement).run noted with ⟨result, after⟩
  rw [executed] at outcome
  cases outcome
  exact ⟨columns, disturbance, after, fine, by dsimp only; rw [executed]; rfl⟩

theorem stream_collected (plain : request.expression = none) (s : Session) (answer : Query.Statement → List Row)
    (answers : ∀ transform statement, transformFor base spec request = .ok transform →
      Query.compose (queryPlan base spec) request none (sourceBox request transform) = .ok statement →
      s.Answers (base.endpoint.command statement.toSql) (answer statement)) :
    collected (stream base (some spec) request) s = (do
      let transform ← transformFor base spec request
      let statement ← Query.compose (queryPlan base spec) request none (sourceBox request transform)
      let decoder := Decode.RowDecoder.of statement.layout base.fields spec.encoding transform
      return decoder.features (answer statement)) := by
  unfold collected
  cases transformed : transformFor base spec request with
  | error e =>
    rw [stream_run plain, transformed]
    rfl
  | ok transform =>
    dsimp only [Bind.bind, Except.bind]
    cases composed : Query.compose (queryPlan base spec) request none (sourceBox request transform) with
    | error e =>
      rw [stream_run plain, transformed]
      dsimp only
      rw [composed]
    | ok statement =>
      obtain ⟨columns, disturbance, s', fine, started⟩ :=
        stream_starts plain transformed composed (answers transform statement transformed composed)
      rw [started]
      obtain ⟨last, collected, -⟩ := Run.begun_collects base spec statement
        (.of statement.layout base.fields spec.encoding transform) transform columns (answer statement) disturbance fine
        none s' .empty
      exact congrArg Prod.fst collected

theorem replay_collected (features : List Feature) (s : Session) :
    collected (replay base (some spec) features request) s = (do
      let transform ← transformFor base spec request
      let selection ← selectionFor base request transform
      return (features.filter selection.admits).map (selection.shape transform)) := by
  unfold collected
  rw [replay_run]
  cases transformFor base spec request with
  | error e => rfl
  | ok transform =>
    dsimp only [Bind.bind, Except.bind]
    cases selectionFor base request transform with
    | error e => rfl
    | ok selection => exact Run.replay_collects rfl rfl rfl

end Scan

end FeatureLayers
