import FeatureLayers.Proofs.Scan.Ending
import FeatureLayers.Proofs.Scan.Reading

namespace FeatureLayers.Run

open Warehouse (Disturbance ResultSet Session Tracker)

def yieldsOf (outcomes : List (Except Layer.Error (Option Feature))) : List Feature :=
  outcomes.filterMap fun
    | .ok feature => feature
    | .error _ => none

def errorsOf (outcomes : List (Except Layer.Error (Option Feature))) : List Layer.Error :=
  outcomes.filterMap fun
    | .ok _ => none
    | .error e => some e

def fetchErrors (disturbance : Nat → Disturbance) (fetches : Nat) : List Layer.Error :=
  (List.range fetches).filterMap fun i => (disturbance (i + 1)).error.map .warehouse

def fetchSuccesses (disturbance : Nat → Disturbance) (fetches : Nat) : Nat :=
  (List.range fetches).countP fun i => (disturbance (i + 1)).error.isNone

def Uncancelled (disturbance : Nat → Disturbance) (cancel : Scan.CancelSource) (session : Session) : Prop :=
  match cancel with
  | .own flag => flag.raisedFrom = none
  | .shared => session.cancel.raisedFrom = none ∧ ∀ fetch, (disturbance fetch).cancels = false

/-- A scan that still serves `rows`, after calls with these outcomes. -/
structure Serving (rows : List Row) (decoder : Decode.RowDecoder) (batchSize : Nat)
    (disturbance : Nat → Disturbance) (start : Tracker) (outcomes : List (Except Layer.Error (Option Feature)))
    (run : Run) (result : ResultSet) (buffer : List Row) (isDrained : Bool) : Prop where
  phase : run.scan.phase = .streaming result buffer isDrained
  work : ∃ statement, run.scan.work = .statement statement decoder
  size : run.scan.batchSize = batchSize
  reads : run.scan.Reads rows decoder result buffer isDrained
  disturbed : result.disturbance = disturbance
  uncancelled : Uncancelled disturbance run.scan.cancel run.session
  tracked : result.cursor.isTracked = true
  tracker : run.session.tracker = { start with fetches := start.fetches + run.scan.stats.batches }
  yields : yieldsOf outcomes = run.scan.cache.toList
  errors : errorsOf outcomes = fetchErrors disturbance result.fetches
  successes : run.scan.stats.batches = fetchSuccesses disturbance result.fetches
  last : isDrained = true → ∃ before, result.fetches = before + 1 ∧ (disturbance (before + 1)).error = none
  ongoing : .ok none ∉ outcomes

/-- A scan that has served all of `rows`, after calls with these outcomes. -/
structure Served (rows : List Row) (decoder : Decode.RowDecoder) (batchSize : Nat)
    (disturbance : Nat → Disturbance) (start : Tracker) (outcomes : List (Except Layer.Error (Option Feature)))
    (run : Run) : Prop where
  phase : run.scan.phase = .exhausted
  yields : yieldsOf outcomes = decoder.features rows
  visited : run.scan.stats.rowsDecoded + run.scan.stats.rowsSkipped = rows.length
  batches : run.scan.stats.batches = rows.length / batchSize + 1
  errors : ∃ fetches, errorsOf outcomes = fetchErrors disturbance fetches ∧
    fetchSuccesses disturbance fetches = rows.length / batchSize + 1
  tracker : run.session.tracker =
    { start with fetches := start.fetches + (rows.length / batchSize + 1), closed := start.closed + 1 }
  ended : .ok none ∈ outcomes

section Outcomes

variable (outcomes : List (Except Layer.Error (Option Feature)))

theorem yieldsOf_some (feature : Feature) :
    yieldsOf (outcomes ++ [.ok (some feature)]) = yieldsOf outcomes ++ [feature] := by
  simp [yieldsOf]

theorem yieldsOf_none : yieldsOf (outcomes ++ [.ok none]) = yieldsOf outcomes := by simp [yieldsOf]

theorem yieldsOf_error (e : Layer.Error) : yieldsOf (outcomes ++ [.error e]) = yieldsOf outcomes := by simp [yieldsOf]

theorem errorsOf_ok (feature : Option Feature) : errorsOf (outcomes ++ [.ok feature]) = errorsOf outcomes := by
  simp [errorsOf]

theorem errorsOf_error (e : Layer.Error) : errorsOf (outcomes ++ [.error e]) = errorsOf outcomes ++ [e] := by
  simp [errorsOf]

end Outcomes

section Counting

variable {disturbance : Nat → Disturbance} {fetches : Nat}

theorem fetchErrors_succ_error {e : Warehouse.Error} (failed : (disturbance (fetches + 1)).error = some e) :
    fetchErrors disturbance (fetches + 1) = fetchErrors disturbance fetches ++ [.warehouse e] := by
  simp [fetchErrors, List.range_succ, failed]

theorem fetchErrors_succ_none (fine : (disturbance (fetches + 1)).error = none) :
    fetchErrors disturbance (fetches + 1) = fetchErrors disturbance fetches := by
  simp [fetchErrors, List.range_succ, fine]

theorem fetchSuccesses_succ_error {e : Warehouse.Error} (failed : (disturbance (fetches + 1)).error = some e) :
    fetchSuccesses disturbance (fetches + 1) = fetchSuccesses disturbance fetches := by
  simp [fetchSuccesses, List.range_succ, failed]

theorem fetchSuccesses_succ_none (fine : (disturbance (fetches + 1)).error = none) :
    fetchSuccesses disturbance (fetches + 1) = fetchSuccesses disturbance fetches + 1 := by
  simp [fetchSuccesses, List.range_succ, fine]

theorem fetchSuccesses_mono {fewer more : Nat} (le : fewer ≤ more) :
    fetchSuccesses disturbance fewer ≤ fetchSuccesses disturbance more :=
  List.Sublist.countP_le (List.range_sublist.mpr le)

theorem fetchErrors_add_successes (disturbance : Nat → Disturbance) (fetches : Nat) :
    (fetchErrors disturbance fetches).length + fetchSuccesses disturbance fetches = fetches := by
  induction fetches with
  | zero => rfl
  | succ fetches ih =>
    cases outcome : (disturbance (fetches + 1)).error with
    | none =>
      rw [fetchErrors_succ_none outcome, fetchSuccesses_succ_none outcome]
      omega
    | some e =>
      rw [fetchErrors_succ_error outcome, fetchSuccesses_succ_error outcome, List.length_append, List.length_singleton]
      omega

end Counting

theorem length_of_ongoing {outcomes : List (Except Layer.Error (Option Feature))} (ongoing : .ok none ∉ outcomes) :
    outcomes.length = (yieldsOf outcomes).length + (errorsOf outcomes).length := by
  induction outcomes with
  | nil => rfl
  | cons outcome outcomes ih =>
    have rest := ih (fun member => ongoing (List.mem_cons_of_mem _ member))
    match outcome with
    | .ok none => exact (ongoing List.mem_cons_self).elim
    | .ok (some feature) =>
      simp only [yieldsOf, errorsOf, List.filterMap_cons, List.length_cons] at rest ⊢
      omega
    | .error e =>
      simp only [yieldsOf, errorsOf, List.filterMap_cons, List.length_cons] at rest ⊢
      omega

theorem fetchTimes_succ (count : Nat) (run : Run) :
    run.fetchTimes (count + 1) = ((run.fetchTimes count).1 ++ [(run.fetchTimes count).2.fetchNext.1],
      (run.fetchTimes count).2.fetchNext.2) := by
  induction count generalizing run with
  | zero => rfl
  | succ count ih =>
    have first : ∀ count, run.fetchTimes (count + 1) =
        (run.fetchNext.1 :: (run.fetchNext.2.fetchTimes count).1, (run.fetchNext.2.fetchTimes count).2) := fun _ => rfl
    rw [first (count + 1), ih, first count]
    rfl

theorem fetchTimes_length (count : Nat) (run : Run) : (run.fetchTimes count).1.length = count := by
  induction count generalizing run with
  | zero => rfl
  | succ count ih => exact congrArg (· + 1) (ih run.fetchNext.2)

namespace Uncancelled

variable {disturbance : Nat → Disturbance} {run polled : Run} {session : Session} {cancel : Scan.CancelSource}

theorem poll (uncancelled : Uncancelled disturbance run.scan.cancel run.session) {isRaised : Bool}
    (h : run.pollCancel = (isRaised, polled)) :
    isRaised = false ∧ Uncancelled disturbance polled.scan.cancel polled.session := by
  unfold pollCancel at h
  unfold Uncancelled at uncancelled ⊢
  split at h
  · rename_i flag source
    cases h
    simp only [source] at uncancelled
    exact ⟨by simp [Warehouse.CancelFlag.isRaised, uncancelled], uncancelled⟩
  · rename_i source
    cases h
    simp only [source] at uncancelled ⊢
    exact ⟨by simp [Warehouse.CancelFlag.isRaised, uncancelled.1], uncancelled⟩

theorem disturbed {result : ResultSet} (same : result.disturbance = disturbance)
    (uncancelled : Uncancelled disturbance cancel session) :
    Uncancelled disturbance cancel (result.disturbed session) := by
  unfold Uncancelled at uncancelled ⊢
  cases cancel with
  | own flag => exact uncancelled
  | shared =>
    refine ⟨?_, uncancelled.2⟩
    rw [ResultSet.disturbed, same, uncancelled.2]
    exact uncancelled.1

end Uncancelled

section Serving

variable {rows : List Row} {decoder : Decode.RowDecoder} {batchSize : Nat} {disturbance : Nat → Disturbance}
  {start : Tracker} {outcomes : List (Except Layer.Error (Option Feature))} {run run' : Run} {result : ResultSet}
  {buffer : List Row} {isDrained : Bool}

theorem Serving.silent
    (serving : Serving rows decoder batchSize disturbance start outcomes run result buffer isDrained)
    (move : Silent run run') :
    ∃ result' buffer' isDrained',
      Serving rows decoder batchSize disturbance start outcomes run' result' buffer' isDrained' := by
  obtain ⟨statement, work⟩ := serving.work
  cases move with
  | skip phase work' undecoded =>
    obtain ⟨rfl, rfl, rfl⟩ : result = _ ∧ buffer = _ ∧ isDrained = _ := by simpa [serving.phase] using phase
    obtain ⟨rfl, rfl⟩ : statement = _ ∧ decoder = _ := by simpa [work] using work'
    exact ⟨_, _, _, { serving with
      phase := rfl
      reads := { serving.reads.skip undecoded with } }⟩
  | refill phase work' clear fetched =>
    obtain ⟨rfl, rfl, rfl⟩ : result = _ ∧ buffer = _ ∧ isDrained = _ := by simpa [serving.phase] using phase
    obtain ⟨-, uncancelled⟩ := serving.uncancelled.poll clear
    obtain ⟨cancel, flag, rfl⟩ := pollCancel_flags clear
    have reads := serving.reads.refill rfl fetched
    obtain ⟨fine, -, rfl, rfl⟩ := ResultSet.fetchMany_batch serving.reads.isOpen fetched
    rw [serving.disturbed] at fine
    have successes := fetchSuccesses_succ_none fine
    refine ⟨_, _, _, {
      phase := rfl
      work := serving.work
      size := serving.size
      reads := { reads with }
      disturbed := serving.disturbed
      uncancelled := uncancelled.disturbed serving.disturbed
      tracked := serving.tracked
      tracker := ?_
      yields := serving.yields
      errors := ?_
      successes := ?_
      last := fun _ => ⟨_, rfl, fine⟩
      ongoing := serving.ongoing }⟩
    · simp only [refilled, note, inPhase, Session.note, serving.tracked, if_true, serving.tracker]
      rfl
    · exact serving.errors.trans (fetchErrors_succ_none fine).symm
    · change run.scan.stats.batches + 1 = _
      rw [serving.successes]
      exact successes.symm
  | refuse phase work' refused => simp [serving.phase] at phase

theorem Serving.yield {row : Row} {rest : List Row} {feature : Feature}
    (serving : Serving rows decoder batchSize disturbance start outcomes run result (row :: rest) isDrained)
    (decoded : decoder.decode row run.scan.position = .ok feature) :
    Serving rows decoder batchSize disturbance start (outcomes ++ [.ok (some feature)])
      ((run.yielding feature).inPhase (.streaming result rest isDrained)) result rest isDrained where
  phase := rfl
  work := serving.work
  size := serving.size
  reads := { serving.reads.yield decoded with }
  disturbed := serving.disturbed
  uncancelled := serving.uncancelled
  tracked := serving.tracked
  tracker := serving.tracker
  yields := by
    rw [yieldsOf_some, serving.yields]
    exact (Array.toList_push ..).symm
  errors := by rw [errorsOf_ok, serving.errors]
  successes := serving.successes
  last := serving.last
  ongoing := by simpa using serving.ongoing

theorem Serving.drain (serving : Serving rows decoder batchSize disturbance start outcomes run result [] true) :
    Served rows decoder batchSize disturbance start (outcomes ++ [.ok none]) run.finish := by
  obtain ⟨all, cached⟩ := serving.reads.finished
  have batches : run.scan.stats.batches = rows.length / batchSize + 1 := by
    rw [← serving.size]
    exact (serving.reads.drained rfl).2
  have released := releaseCursor_tracker serving.phase serving.reads.isOpen serving.tracked
  exact {
    phase := by rw [finish_scan]
    yields := by rw [yieldsOf_none, serving.yields, cached]
    visited := by
      rw [finish_scan]
      exact serving.reads.counted.trans all
    batches := by
      rw [finish_scan]
      exact batches
    errors := ⟨result.fetches, by rw [errorsOf_ok, serving.errors], serving.successes.symm.trans batches⟩
    tracker := by
      rw [finish_tracker, released, serving.tracker, batches]
      rfl
    ended := by simp }

theorem Serving.fail {polled : Run} {result' : ResultSet} {session : Session} {e : Warehouse.Error}
    (serving : Serving rows decoder batchSize disturbance start outcomes run result [] false)
    (clear : run.pollCancel = (false, polled))
    (failed : result.fetchMany run.scan.batchSize polled.session = (.error e, result', session)) :
    Serving rows decoder batchSize disturbance start (outcomes ++ [.error (.warehouse e)])
      ({ polled with session }.inPhase (.streaming result' [] false)) result' [] false := by
  obtain ⟨-, uncancelled⟩ := serving.uncancelled.poll clear
  obtain ⟨cancel, flag, rfl⟩ := pollCancel_flags clear
  have reads := serving.reads.fail failed
  obtain ⟨failure, rfl, rfl⟩ := ResultSet.fetchMany_error serving.reads.isOpen failed
  rw [serving.disturbed] at failure
  exact {
    phase := rfl
    work := serving.work
    size := serving.size
    reads := { reads with }
    disturbed := serving.disturbed
    uncancelled := uncancelled.disturbed serving.disturbed
    tracked := serving.tracked
    tracker := by
      refine Eq.trans ?_ serving.tracker
      unfold ResultSet.disturbed
      dsimp only [inPhase]
      split <;> rfl
    yields := by
      rw [yieldsOf_error, serving.yields]
      rfl
    errors := by
      rw [errorsOf_error, serving.errors]
      exact (fetchErrors_succ_error failure).symm
    successes := serving.successes.trans (fetchSuccesses_succ_error failure).symm
    last := nofun
    ongoing := by simpa using serving.ongoing }

theorem Serving.concludes {outcome : Except Layer.Error (Option Feature)}
    (serving : Serving rows decoder batchSize disturbance start outcomes run result buffer isDrained)
    (move : Concludes run outcome run') :
    (∃ result' buffer' isDrained',
      Serving rows decoder batchSize disturbance start (outcomes ++ [outcome]) run' result' buffer' isDrained') ∨
      Served rows decoder batchSize disturbance start (outcomes ++ [outcome]) run' := by
  obtain ⟨statement, work⟩ := serving.work
  cases move with
  | yields phase work' decoded =>
    obtain ⟨rfl, rfl, rfl⟩ : result = _ ∧ buffer = _ ∧ isDrained = _ := by simpa [serving.phase] using phase
    obtain ⟨rfl, rfl⟩ : statement = _ ∧ decoder = _ := by simpa [work] using work'
    exact .inl ⟨_, _, _, serving.yield decoded⟩
  | drains phase work' =>
    obtain ⟨rfl, rfl, rfl⟩ : result = _ ∧ buffer = _ ∧ isDrained = _ := by simpa [serving.phase] using phase
    exact .inr serving.drain
  | cancels phase work' raised =>
    obtain ⟨clear, -⟩ := serving.uncancelled.poll raised
    cases clear
  | fails phase work' clear failed =>
    obtain ⟨rfl, rfl, rfl⟩ : result = _ ∧ buffer = _ ∧ isDrained = _ := by simpa [serving.phase] using phase
    exact .inl ⟨_, _, _, serving.fail clear failed⟩
  | shows phase work' admitted => simp [serving.phase] at phase
  | ends phase work' => simp [serving.phase] at phase
  | rests idle => simp [IsActive, serving.phase, work] at idle

theorem Served.fetchNext (served : Served rows decoder batchSize disturbance start outcomes run) :
    Served rows decoder batchSize disturbance start (outcomes ++ [run.fetchNext.1]) run.fetchNext.2 := by
  have same : run.fetchNext = (.ok none, run) := by simp [Run.fetchNext, served.phase]
  rw [same]
  exact { served with
    yields := (yieldsOf_none outcomes).trans served.yields
    errors := by rw [errorsOf_ok]; exact served.errors
    ended := List.mem_append_left _ served.ended }

theorem Serving.fetchNext
    (serving : Serving rows decoder batchSize disturbance start outcomes run result buffer isDrained) :
    (∃ result' buffer' isDrained', Serving rows decoder batchSize disturbance start (outcomes ++ [run.fetchNext.1])
      run.fetchNext.2 result' buffer' isDrained') ∨
      Served rows decoder batchSize disturbance start (outcomes ++ [run.fetchNext.1]) run.fetchNext.2 := by
  obtain ⟨middle, silent, concluded⟩ := fetchNext_moves run
  have before : ∃ result buffer isDrained,
      Serving rows decoder batchSize disturbance start outcomes middle result buffer isDrained := by
    clear concluded
    induction silent with
    | refl => exact ⟨result, buffer, isDrained, serving⟩
    | tail _ move ih =>
      obtain ⟨_, _, _, serving⟩ := ih
      exact serving.silent move
  obtain ⟨_, _, _, serving⟩ := before
  exact serving.concludes concluded

theorem Serving.fetchTimes (serving : Serving rows decoder batchSize disturbance start [] run result buffer isDrained)
    (count : Nat) :
    (∃ result' buffer' isDrained', Serving rows decoder batchSize disturbance start (run.fetchTimes count).1
      (run.fetchTimes count).2 result' buffer' isDrained') ∨
      Served rows decoder batchSize disturbance start (run.fetchTimes count).1 (run.fetchTimes count).2 := by
  induction count with
  | zero => exact .inl ⟨result, buffer, isDrained, serving⟩
  | succ count ih =>
    rw [fetchTimes_succ]
    rcases ih with ⟨_, _, _, serving⟩ | served
    · exact serving.fetchNext
    · exact .inr served.fetchNext

theorem Serving.length_lt {fetches : Nat}
    (serving : Serving rows decoder batchSize disturbance start outcomes run result buffer isDrained)
    (enough : rows.length / batchSize < fetchSuccesses disturbance fetches) :
    outcomes.length < (decoder.features rows).length + fetches := by
  have yields : (yieldsOf outcomes).length ≤ (decoder.features rows).length := by
    rw [serving.yields, serving.reads.cached, Decode.RowDecoder.features_take_drop rows serving.reads.inside,
      List.length_append]
    exact Nat.le_add_right _ _
  have errors := congrArg List.length serving.errors
  have accounted := fetchErrors_add_successes disturbance result.fetches
  have successes := serving.successes
  have calls := length_of_ongoing serving.ongoing
  -- The fetch that came short is among the first `fetches`; without one there were too few fetches yet.
  have early : result.fetches ≤ fetches ∧ (isDrained = false → result.fetches < fetches) := by
    cases isDrained with
    | false =>
      have full := serving.reads.full rfl
      rw [serving.size] at full
      have few : run.scan.stats.batches ≤ rows.length / batchSize := by
        rw [Nat.le_div_iff_mul_le (serving.size ▸ run.scan.batchSize_pos)]
        omega
      have mono : fetches ≤ result.fetches →
          fetchSuccesses disturbance fetches ≤ fetchSuccesses disturbance result.fetches := fetchSuccesses_mono
      omega
    | true =>
      obtain ⟨before, last, fine⟩ := serving.last rfl
      have batches := (serving.reads.drained rfl).2
      rw [serving.size] at batches
      rw [last, fetchSuccesses_succ_none fine] at successes
      have mono : fetches ≤ before →
          fetchSuccesses disturbance fetches ≤ fetchSuccesses disturbance before := fetchSuccesses_mono
      refine ⟨?_, nofun⟩
      omega
  have short : isDrained = true → 0 < run.scan.stats.batches := fun drained => by
    rw [(serving.reads.drained drained).2]
    exact Nat.succ_pos _
  cases isDrained with
  | false => have := early.2 rfl; omega
  | true => have := short rfl; omega

end Serving

/--
A streaming scan that is not cancelled has at any time yielded the features of the rows that it has visited, and what it
took from the cursor was visited or lies in a buffer of at most one batch. Once it says that the sequence has ended it
has yielded the features of all rows, by one batch more than fit into them. It comes to that when enough fetches
succeed.
-/
theorem streaming_delivers_each_row_once (base : ScanBase) (spec : GeometryColumn) (statement : Query.Statement)
    (decoder : Decode.RowDecoder) (transform : Option Crs.Transform) (columns : List Column) (rows : List Row)
    (disturbance : Nat → Disturbance) (cancel : Scan.CancelSource) (publication : Option Nat) (session : Session)
    (store : Store) (uncancelled : Uncancelled disturbance cancel session) :
    let result := ResultSet.ofReply columns rows disturbance
    let scan := { Scan.begun base spec statement decoder transform result with cancel, publication }
    let run : Run := ⟨scan, session, store⟩
    let batchSize := max base.batchSize 1
    (∀ count, let (outcomes, after) := run.fetchTimes count
      (∃ result buffer isDrained,
        Serving rows decoder batchSize disturbance session.tracker outcomes after result buffer isDrained ∧
        yieldsOf outcomes = decoder.features (rows.take after.scan.position) ∧
        after.scan.stats.rowsDecoded + after.scan.stats.rowsSkipped + buffer.length =
          rows.length - result.cursor.rows.length ∧ buffer.length ≤ batchSize) ∨
      Served rows decoder batchSize disturbance session.tracker outcomes after) ∧
    ∀ fetches, rows.length / batchSize < fetchSuccesses disturbance fetches →
      .ok none ∈ (run.fetchTimes ((decoder.features rows).length + fetches)).1 := by
  intro result scan run batchSize
  have begun : Serving rows decoder batchSize disturbance session.tracker [] run result [] false := {
    phase := rfl
    work := ⟨statement, rfl⟩
    size := rfl
    reads := .start rows decoder columns disturbance rfl rfl rfl
    disturbed := rfl
    uncancelled := uncancelled
    tracked := rfl
    tracker := rfl
    yields := rfl
    errors := rfl
    successes := rfl
    last := nofun
    ongoing := List.not_mem_nil }
  refine ⟨fun count => ?_, fun fetches enough => ?_⟩
  · rcases begun.fetchTimes count with ⟨result, buffer, isDrained, serving⟩ | served
    · have taken := serving.reads.taken
      have held := serving.reads.held
      rw [serving.size] at held
      exact .inl ⟨result, buffer, isDrained, serving, serving.yields.trans serving.reads.cached, by omega, held⟩
    · exact .inr served
  · rcases begun.fetchTimes ((decoder.features rows).length + fetches) with ⟨_, _, _, serving⟩ | served
    · have few := serving.length_lt enough
      rw [fetchTimes_length] at few
      exact (Nat.lt_irrefl _ few).elim
    · exact served.ended

/-- The second row has no cells and does not decode; the second fetch fails. -/
theorem streaming_delivers_around_faults :
    let rows : List Row := [[.int 7], [], [.text "nine"]]
    let decoder : Decode.RowDecoder := ⟨⟨[], none, 0, 1⟩, [], .geometry, none⟩
    let disturbance : Nat → Disturbance := fun fetch => ⟨if fetch = 2 then some ⟨606, "lost"⟩ else none, false⟩
    let base : ScanBase := ⟨⟨"c", .unset⟩, .table none "T", [], none, none, none, 2, []⟩
    let spec : GeometryColumn := ⟨"G", .geometry, none, none⟩
    let statement : Query.Statement := ⟨[], base.source, spec, [], none, decoder.layout⟩
    let run : Run := ⟨Scan.begun base spec statement decoder none (.ofReply [] rows disturbance),
      .start fun _ _ => .failure .cursorClosed, .empty⟩
    Uncancelled disturbance (.own .lowered) run.session ∧ rows.length / 2 < fetchSuccesses disturbance 3 ∧
      .ok none ∈ (run.fetchTimes ((decoder.features rows).length + 3)).1 := by
  intro rows decoder disturbance base spec statement run
  have enough : rows.length / 2 < fetchSuccesses disturbance 3 := by decide
  exact ⟨rfl, enough, (streaming_delivers_each_row_once base spec statement decoder none [] rows disturbance
    (.own .lowered) none run.session .empty rfl).2 3 enough⟩

end FeatureLayers.Run
