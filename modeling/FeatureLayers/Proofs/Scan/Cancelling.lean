import FeatureLayers.Proofs.Scan.Complete

namespace FeatureLayers

open Relation (ReflTransGen)
open Warehouse (ResultSet Session)

def Use.readsOn : Use → Bool
  | .fetchNext | .featureAt _ | .collectRemaining => true
  | .rewind | .close | .takeMaterialized | .cancel _ => false

theorem Scan.Reads.short {s : Scan} {rows buffer : List Row} {decoder : Decode.RowDecoder} {result : ResultSet}
    {isDrained : Bool} (reads : s.Reads rows decoder result buffer isDrained) :
    isDrained = true ↔ s.position + buffer.length < s.stats.batches * s.batchSize := by
  have taken := reads.taken
  rw [reads.counted] at taken
  cases isDrained with
  | false =>
    have full := reads.full rfl
    simp only [Bool.false_eq_true, false_iff]
    omega
  | true =>
    obtain ⟨none, batches⟩ := reads.drained rfl
    have division := Nat.div_add_mod rows.length s.batchSize
    have short := Nat.mod_lt rows.length s.batchSize_pos
    rw [none, List.length_nil] at taken
    rw [batches, Nat.add_mul, Nat.mul_comm (rows.length / s.batchSize)]
    simp only [true_iff]
    omega

theorem Scan.Phase.of_streaming {phase : Phase} (named : phase.name = "Streaming") :
    ∃ result buffer isDrained, phase = .streaming result buffer isDrained := by
  cases phase with
  | streaming result buffer isDrained => exact ⟨result, buffer, isDrained, rfl⟩
  | replaying | exhausted | closed => simp [name] at named

namespace Run

def isCancelled (run : Run) : Bool := run.pollCancel.1

section Resuming

variable {decoder : Decode.RowDecoder} {run next : Run}

theorem takeBuffered_inPhase (phase : Scan.Phase) (buffer : List Row) (run : Run) :
    takeBuffered decoder buffer (run.inPhase phase) =
      ((takeBuffered decoder buffer run).1, (takeBuffered decoder buffer run).2.1,
        (takeBuffered decoder buffer run).2.2.inPhase phase) := by
  induction buffer generalizing run with
  | nil => rfl
  | cons row buffer ih =>
    rw [takeBuffered, takeBuffered]
    cases decoded : decoder.decode row run.scan.position with
    | ok feature =>
      have ahead : decoder.decode row (run.inPhase phase).scan.position = .ok feature := decoded
      rw [visit_ok decoded, visit_ok ahead]
      rfl
    | error fault =>
      have ahead : decoder.decode row (run.inPhase phase).scan.position = .error fault := decoded
      rw [visit_error decoded, visit_error ahead]
      exact ih run.skipping

theorem streamNext_inPhase {batchSize : Nat} (positive : 0 < batchSize) (phase : Scan.Phase) (result : ResultSet)
    (buffer : List Row) (isDrained : Bool) (run : Run) :
    streamNext decoder batchSize positive result buffer isDrained (run.inPhase phase) =
      streamNext decoder batchSize positive result buffer isDrained run := by
  rw [streamNext, streamNext, takeBuffered_inPhase]
  rcases takeBuffered decoder buffer run with ⟨feature | _, rest, emptied⟩ <;> rfl

theorem replayNext_inPhase (selection : Selection) (phase : Scan.Phase) (rest : List Feature) (run : Run) :
    replayNext selection rest (run.inPhase phase) = replayNext selection rest run := by
  induction rest with
  | nil => rfl
  | cons feature rest ih =>
    rw [replayNext, replayNext, ih]
    rfl

theorem fetchNext_streaming {statement : Query.Statement} {result : ResultSet} {buffer : List Row} {isDrained : Bool}
    (phase : run.scan.phase = .streaming result buffer isDrained) (work : run.scan.work = .statement statement decoder) :
    run.fetchNext = streamNext decoder run.scan.batchSize run.scan.batchSize_pos result buffer isDrained run := by
  simp only [fetchNext, phase, work]

theorem Silent.fetchNext_eq (move : Silent run next) : run.fetchNext = next.fetchNext := by
  cases move with
  | @skip statement decoder result row rest isDrained fault phase work undecoded =>
    have onward : (run.skipping.inPhase (.streaming result rest isDrained)).fetchNext =
        streamNext decoder run.scan.batchSize run.scan.batchSize_pos result rest isDrained
          (run.skipping.inPhase (.streaming result rest isDrained)) := fetchNext_streaming rfl work
    rw [fetchNext_streaming phase work, onward, streamNext_inPhase, streamNext, streamNext, takeBuffered,
      visit_error undecoded]
  | @refill polled statement decoder result result' session batch phase work clear fetched =>
    have still : run.inPhase (.streaming result [] false) = run := by rw [← phase]; rfl
    rw [fetchNext_streaming phase work, streamNext]
    simp only [takeBuffered, still, Bool.false_eq_true, dif_neg, not_false_eq_true, clear]
    obtain ⟨cancel, flag, same⟩ := pollCancel_flags clear
    split
    · rename_i failed
      cases failed.symm.trans fetched
    · rename_i took
      cases took.symm.trans fetched
      have worked : (polled.refilled result' session batch).scan.work = .statement statement decoder := by
        rw [same]
        exact work
      refine Eq.trans ?_ (fetchNext_streaming rfl worked).symm
      subst same
      exact (streamNext_inPhase _ _ _ _ _ _).symm
  | @refuse feature rest features selection phase work refused =>
    have onward : (run.inPhase (.replaying rest)).fetchNext =
        replayNext selection rest (run.inPhase (.replaying rest)) := by
      simp only [fetchNext, inPhase, work]
    rw [onward, replayNext_inPhase]
    simp only [fetchNext, phase, work]
    rw [replayNext, refused]
    rfl

end Resuming

theorem isCancelled_kept {run next : Run} (raised : run.isCancelled = true) (own : next.scan.cancel = run.scan.cancel)
    (shared : next.session.cancel = run.session.cancel) : next.isCancelled = true := by
  rw [isCancelled, pollCancel] at raised ⊢
  rw [own, shared]
  cases cancel : run.scan.cancel <;> rw [cancel] at raised <;> exact raised

/--
A scan that was cancelled at the start, has given some features since and has others left to give. Until it ends, it
changes neither the counters of the session nor the store.
-/
inductive Stopping (start : Run) (decoder : Decode.RowDecoder) (isDrained : Bool) (given rest : List Feature) (run : Run) :
    Prop
  | serving {statement result buffer} (phase : run.scan.phase = .streaming result buffer isDrained)
      (work : run.scan.work = .statement statement decoder) (raised : run.isCancelled = true) (held : result.IsHeld)
      (unfinished : run.scan.cache.isComplete = false) (publication : run.scan.publication = start.scan.publication)
      (cached : run.scan.cache.toList = start.scan.cache.toList ++ given)
      (left : decoder.featuresFrom run.scan.position buffer = rest)
      (tracker : run.session.tracker = start.session.tracker) (store : run.store = start.store)
  | ended (phase : run.scan.phase = if isDrained then .exhausted else .closed) (nothing : rest = [])
      (complete : run.scan.cache.isComplete = isDrained)
      (cached : run.scan.cache.toList = start.scan.cache.toList ++ given)
      (tracker : run.session.tracker = start.session.tracker.noteClosed)
      (store : run.store = if isDrained then
        start.store.offered start.scan.publication (start.scan.cache.toList ++ given) else start.store)

section Stopping

variable {start run next : Run} {decoder : Decode.RowDecoder} {isDrained : Bool} {given rest : List Feature}

theorem Stopping.silent (stopping : Stopping start decoder isDrained given rest run) (move : Silent run next) :
    Stopping start decoder isDrained given rest next := by
  cases stopping with
  | serving phase work raised held unfinished publication cached left tracker store =>
    cases move with
    | skip phase' work' undecoded =>
      cases phase.symm.trans phase'
      cases work.symm.trans work'
      rw [Decode.RowDecoder.featuresFrom_cons_error _ undecoded] at left
      exact .serving rfl work (isCancelled_kept raised rfl rfl) held unfinished publication cached left tracker
        store
    | refill phase' work' clear fetched =>
      -- A batch is fetched only after a poll, and the poll would have found the flag raised.
      rw [isCancelled, clear] at raised
      cases raised
    | refuse phase' => cases phase.symm.trans phase'
  | ended phase =>
    cases isDrained <;> cases move with | _ phase' => cases phase.symm.trans phase'

theorem Stopping.silently (moves : ReflTransGen Silent run next)
    (stopping : Stopping start decoder isDrained given rest run) : Stopping start decoder isDrained given rest next := by
  induction moves with
  | refl => exact stopping
  | tail _ move ih => exact ih.silent move

theorem Stopping.concludes {outcome : Except Layer.Error (Option Feature)}
    (stopping : Stopping start decoder isDrained given rest run) (move : Concludes run outcome next) :
    outcome = .ok rest.head? ∧ Stopping start decoder isDrained (given ++ rest.head?.toList) rest.tail next ∧
      (rest = [] → ¬ next.IsActive) := by
  cases stopping with
  | @serving statement result buffer phase work raised held unfinished publication cached left tracker store =>
    cases move with
    | yields phase' work' decoded =>
      cases phase.symm.trans phase'
      cases work.symm.trans work'
      rw [Decode.RowDecoder.featuresFrom_cons_ok _ decoded] at left
      subst left
      refine ⟨rfl, .serving rfl work (isCancelled_kept raised rfl rfl) held unfinished publication ?_ rfl tracker
        store, nofun⟩
      rw [List.head?_cons, Option.toList_some, ← List.append_assoc, ← cached]
      exact Array.toList_push ..
    | drains phase' work' =>
      -- The buffer is looked at before the flag, so a pass that has all its rows still ends whole.
      cases phase.symm.trans phase'
      obtain rfl : rest = [] := left.symm
      refine ⟨rfl, ?_, fun _ => finish_idle run⟩
      rw [List.head?_nil, Option.toList_none, List.append_nil]
      refine .ended (by rw [finish_scan]; rfl) rfl (by rw [finish_scan]; rfl) (by rw [finish_scan]; exact cached) ?_ ?_
      · rw [finish_tracker, releaseCursor_tracker phase held.1 held.2, tracker]
      · rw [finish_store, publication, store, cached]
        rfl
    | @cancels polled _ _ _ phase' work' raised' =>
      cases phase.symm.trans phase'
      obtain rfl : rest = [] := left.symm
      obtain ⟨cancel, flag, same⟩ := pollCancel_flags raised'
      have streams : (polled.note .info "Scan cancelled").scan.phase = .streaming result [] false := by
        rw [same]
        exact phase
      have counted : (polled.note .info "Scan cancelled").session.tracker = start.session.tracker := by
        rw [same]
        exact tracker
      refine ⟨rfl, ?_, fun _ => close_idle _⟩
      rw [List.head?_nil, Option.toList_none, List.append_nil]
      refine .ended (by rw [close_scan]; rfl) rfl (by rw [close_scan, same]; exact unfinished)
        (by rw [close_scan, same]; exact cached) ?_ ?_
      · rw [close_tracker, releaseCursor_tracker streams held.1 held.2, counted]
      · rw [close_store, same]
        exact store
    | fails phase' work' clear failed =>
      rw [isCancelled, clear] at raised
      cases raised
    | shows phase' => cases phase.symm.trans phase'
    | ends phase' => cases phase.symm.trans phase'
    | rests idle => simp [IsActive, phase, work] at idle
  | ended phase nothing complete cached tracker store =>
    subst nothing
    have last : Stopping start decoder isDrained (given ++ []) [] run := by
      rw [List.append_nil]
      exact .ended phase rfl complete cached tracker store
    cases move with
    | rests idle => exact ⟨rfl, last, fun _ => idle⟩
    | _ phase' => cases isDrained <;> cases phase.symm.trans phase'

theorem Stopping.fetchNext (stopping : Stopping start decoder isDrained given rest run) :
    run.fetchNext.1 = .ok rest.head? ∧
      Stopping start decoder isDrained (given ++ rest.head?.toList) rest.tail run.fetchNext.2 ∧
      (rest = [] → ¬ run.fetchNext.2.IsActive) := by
  obtain ⟨middle, silent, concluded⟩ := fetchNext_moves run
  exact (stopping.silently silent).concludes concluded

theorem Stopping.advance (count : Nat) (stopping : Stopping start decoder isDrained given rest run) :
    (run.advance count).1 = .ok () ∧
      Stopping start decoder isDrained (given ++ rest.take count) (rest.drop count) (run.advance count).2 := by
  induction count generalizing run given rest with
  | zero =>
    rw [List.take_zero, List.append_nil, List.drop_zero]
    exact ⟨rfl, stopping⟩
  | succ count ih =>
    obtain ⟨outcome, onward, -⟩ := stopping.fetchNext
    rcases step : run.fetchNext with ⟨called, next⟩
    rw [step] at outcome onward
    subst outcome
    cases rest with
    | nil =>
      rw [Run.advance, step]
      exact ⟨rfl, onward⟩
    | cons feature rest =>
      obtain ⟨fine, reached⟩ := ih onward
      rw [Run.advance, step]
      rw [List.append_assoc] at reached
      exact ⟨fine, reached⟩

theorem Stopping.cached (stopping : Stopping start decoder isDrained given rest run) :
    run.scan.cache.toList = start.scan.cache.toList ++ given := by
  cases stopping with
  | serving _ _ _ _ _ _ cached => exact cached
  | ended _ _ _ cached => exact cached

theorem Stopping.featureAt (position : Nat) (stopping : Stopping start decoder isDrained given rest run) :
    (run.featureAt position).1 = .ok (start.scan.cache.toList ++ given ++ rest)[position]? ∧
      ∃ more left, rest = more ++ left ∧
        Stopping start decoder isDrained (given ++ more) left (run.featureAt position).2 := by
  have size : run.scan.cache.size = (start.scan.cache.toList ++ given).length := by
    rw [← stopping.cached]
    exact Array.length_toList.symm
  obtain ⟨fine, reached⟩ := stopping.advance (position + 1 - run.scan.cache.size)
  unfold Run.featureAt
  rcases read : run.advance (position + 1 - run.scan.cache.size) with ⟨outcome, last⟩
  rw [read] at fine reached
  subst fine
  refine ⟨?_, _, _, (List.take_append_drop _ rest).symm, reached⟩
  -- What lies before the position is in the cache already, and the rest of it is read on.
  have held : last.scan.cache.get? position = last.scan.cache.toList[position]? := (Array.getElem?_toList ..).symm
  dsimp only
  rw [held, reached.cached, ← List.append_assoc, size]
  congr 1
  rcases Nat.lt_or_ge position (start.scan.cache.toList ++ given).length with before | behind
  · rw [List.getElem?_append_left before, List.getElem?_append_left before]
  · rw [List.getElem?_append_right behind, List.getElem?_append_right behind, List.getElem?_take_of_lt (by omega)]

theorem Stopping.collectFrom (bound : Nat) (taken : List Feature) (enough : rest.length < bound)
    (stopping : Stopping start decoder isDrained given rest run) :
    (run.collectFrom bound taken).1 = .ok (taken.reverse ++ rest) ∧
      Stopping start decoder isDrained (given ++ rest) [] (run.collectFrom bound taken).2 ∧
      ¬ (run.collectFrom bound taken).2.IsActive := by
  induction bound generalizing run given rest taken with
  | zero => exact (Nat.not_lt_zero _ enough).elim
  | succ bound ih =>
    obtain ⟨outcome, onward, ends⟩ := stopping.fetchNext
    rcases step : run.fetchNext with ⟨called, next⟩
    rw [step] at outcome onward ends
    subst outcome
    cases rest with
    | nil =>
      rw [Run.collectFrom, step, List.append_nil]
      exact ⟨rfl, onward, ends rfl⟩
    | cons feature rest =>
      obtain ⟨all, reached, idle⟩ := ih (feature :: taken) (Nat.lt_of_succ_lt_succ enough) onward
      rw [Run.collectFrom, step]
      rw [List.reverse_cons, List.append_assoc] at all
      rw [List.append_assoc] at reached
      exact ⟨all, reached, idle⟩

theorem Stopping.rest_le (stopping : Stopping start decoder isDrained given rest run) : rest.length ≤ run.remaining := by
  cases stopping with
  | @serving statement result buffer phase work raised held unfinished publication cached left =>
    have few : (decoder.featuresFrom run.scan.position buffer).length ≤ buffer.length := by
      have bound := List.length_filterMap_le (fun entry => (decoder.decode entry.1 entry.2).toOption)
        (buffer.zipIdx run.scan.position)
      rwa [List.length_zipIdx] at bound
    rw [← left]
    simp only [remaining, phase]
    omega
  | ended _ nothing => simp [nothing]

theorem Stopping.collectRemaining (stopping : Stopping start decoder isDrained given rest run) :
    run.collectRemaining.1 = .ok rest ∧ Stopping start decoder isDrained (given ++ rest) [] run.collectRemaining.2 ∧
      ¬ run.collectRemaining.2.IsActive :=
  stopping.collectFrom _ [] (Nat.lt_succ_of_le stopping.rest_le)

theorem Stopping.used {use : Use} (readsOn : use.readsOn) (stopping : Stopping start decoder isDrained given rest run) :
    ∃ more left, rest = more ++ left ∧ Stopping start decoder isDrained (given ++ more) left (run.used use) := by
  cases use with
  | fetchNext =>
    refine ⟨rest.head?.toList, rest.tail, ?_, stopping.fetchNext.2.1⟩
    cases rest <;> rfl
  | featureAt position => exact (stopping.featureAt position).2
  | collectRemaining => exact ⟨rest, [], (List.append_nil rest).symm, stopping.collectRemaining.2.1⟩
  | rewind | close | takeMaterialized | cancel => cases readsOn

theorem Stopping.called {calls : List Use} (readOn : ∀ use ∈ calls, use.readsOn)
    (stopping : Stopping start decoder isDrained given rest run) :
    ∃ more left, rest = more ++ left ∧ Stopping start decoder isDrained (given ++ more) left (calls.foldl Run.used run) := by
  induction calls generalizing run given rest with
  | nil =>
    refine ⟨[], rest, rfl, ?_⟩
    rw [List.append_nil]
    exact stopping
  | cons use calls ih =>
    obtain ⟨first, behind, split, onward⟩ := stopping.used (readOn use List.mem_cons_self)
    obtain ⟨more, left, rfl, reached⟩ := ih (fun other member => readOn other (List.mem_cons_of_mem _ member)) onward
    refine ⟨first ++ more, left, by rw [split, List.append_assoc], ?_⟩
    rw [← List.append_assoc]
    exact reached

end Stopping

/-- What a cancelled scan has come to at its end: a whole pass, or one that was broken off for good. -/
structure Stopped (start : Run) (rows : List Row) (decoder : Decode.RowDecoder) (isDrained : Bool) (last : Run) : Prop where
  ended : last.fetchNext = (.ok none, last)
  released : last.session.tracker = start.session.tracker.noteClosed
  whole : isDrained = true → last.scan.phase = .exhausted ∧
    last.takeMaterialized.1 = some (decoder.features rows) ∧
    last.store = start.store.offered start.scan.publication (decoder.features rows)
  broken : isDrained = false → last.scan.phase = .closed ∧ last.takeMaterialized.1 = none ∧
    last.store = start.store ∧ last.rewind = (.ok false, last)

/-- What every call gives that reads on, when some features were given since the scan was cancelled and others are left. -/
structure Serves (start : Run) (rows : List Row) (decoder : Decode.RowDecoder) (isDrained : Bool)
    (given rest : List Feature) (run : Run) : Prop where
  cached : run.scan.cache.toList = start.scan.cache.toList ++ given
  fetches : run.session.tracker.fetches = start.session.tracker.fetches
  unpublished : isDrained = false → run.store = start.store
  next : run.fetchNext.1 = .ok rest.head?
  nextEnds : rest = [] → Stopped start rows decoder isDrained run.fetchNext.2
  placed : ∀ position, (run.featureAt position).1 = .ok (start.scan.cache.toList ++ given ++ rest)[position]?
  collected : run.collectRemaining.1 = .ok rest
  collectedEnds : Stopped start rows decoder isDrained run.collectRemaining.2

section Serving

variable {start run : Run} {rows : List Row} {decoder : Decode.RowDecoder} {isDrained : Bool} {given rest : List Feature}

theorem Stopping.stopped (stopping : Stopping start decoder isDrained given [] run) (idle : ¬ run.IsActive)
    (all : isDrained = true → start.scan.cache.toList ++ given = decoder.features rows) :
    Stopped start rows decoder isDrained run := by
  cases stopping with
  | serving phase work => simp [IsActive, phase, work] at idle
  | ended phase nothing complete cached tracker store =>
    refine ⟨fetchNext_idle idle, tracker, ?_, ?_⟩
    · rintro rfl
      refine ⟨phase, ?_, ?_⟩
      · simp only [takeMaterialized, Cache.take, complete, if_true, cached, all rfl]
      · rw [store, all rfl]
        rfl
    · rintro rfl
      refine ⟨phase, ?_, store, rewind_closed phase⟩
      simp [takeMaterialized, Cache.take, complete]

theorem Stopping.serves (stopping : Stopping start decoder isDrained given rest run)
    (all : isDrained = true → start.scan.cache.toList ++ (given ++ rest) = decoder.features rows) :
    Serves start rows decoder isDrained given rest run := by
  obtain ⟨next, onward, idle⟩ := stopping.fetchNext
  obtain ⟨collected, reached, finished⟩ := stopping.collectRemaining
  refine ⟨stopping.cached, ?_, ?_, next, ?_, fun position => (stopping.featureAt position).1, collected,
    reached.stopped finished all⟩
  · cases stopping with
    | serving _ _ _ _ _ _ _ _ tracker => rw [tracker]
    | ended _ _ _ _ tracker => rw [tracker]; rfl
  · rintro rfl
    cases stopping with
    | serving _ _ _ _ _ _ _ _ _ store => exact store
    | ended _ _ _ _ _ store => exact store
  · rintro rfl
    rw [List.head?_nil, Option.toList_none, List.append_nil] at onward
    rw [List.append_nil] at all
    exact onward.stopped (idle rfl) all

end Serving

/--
From the moment on at which the flag of a streaming scan is raised, also amid a call, no batch is fetched by any calls
that read on. They give the features of the rows that lie in the buffer, in order, and then the scan ends: as a whole
pass when the last batch was short, and otherwise closed, with nothing published.
-/
theorem cancelled_scan_serves_what_it_fetched (o : Scan.Opening) {s s' : Session} {opened : Scan}
    {origin before run : Run} {result : ResultSet} {buffer : List Row} {isDrained : Bool} (opens : o.Opens s opened s')
    (since : Since opened origin before) (amid : ReflTransGen Silent before run)
    (phase : run.scan.phase = .streaming result buffer isDrained) (raised : run.isCancelled = true) :
    before.fetchNext = run.fetchNext ∧
    ∃ statement decoder rows, run.scan.work = .statement statement decoder ∧
      run.scan.Reads rows decoder result buffer isDrained ∧
      (isDrained = true ↔ run.scan.position + buffer.length < run.scan.stats.batches * run.scan.batchSize) ∧
      ∀ calls : List Use, (∀ use ∈ calls, use.readsOn) → ∃ given rest,
        decoder.featuresFrom run.scan.position buffer = given ++ rest ∧
        Serves run rows decoder isDrained given rest (calls.foldl Run.used run) := by
  have began := opens.began
  have same : before.fetchNext = run.fetchNext := by
    clear phase raised
    induction amid with
    | refl => rfl
    | tail _ move ih => exact ih.trans move.fetchNext_eq
  have underway : origin.scan.Underway run.scan := (underway_lasting origin.scan).silently amid (since.underway began)
  have balanced : Balanced before before := .refl (since.holdsCursor began.holdsCursor)
  have held := ((Balanced.lasting before).silently amid balanced).holds _ _ _ phase
  refine ⟨same, ?_⟩
  -- Of the ways to be under way, reading is the only one in which a scan streams.
  cases underway with
  | @reading statement decoder _ rows _ _ _ _ _ phase' work reads =>
    cases phase.symm.trans phase'
    have stopping : Stopping run decoder isDrained [] (decoder.featuresFrom run.scan.position buffer) run :=
      .serving phase work raised held reads.unfinished rfl (List.append_nil _).symm rfl rfl rfl
    refine ⟨statement, decoder, rows, work, reads, reads.short, fun calls readOn => ?_⟩
    obtain ⟨given, rest, split, reached⟩ := stopping.called readOn
    rw [List.nil_append] at reached
    refine ⟨given, rest, split, reached.serves fun drained => ?_⟩
    have ahead := reads.ahead
    rw [(reads.drained drained).1, List.append_nil] at ahead
    rw [Decode.RowDecoder.features_take_drop rows reads.inside, ahead, reads.cached, split]
  | showing _ _ phase' => cases phase.symm.trans phase'
  | ended phase' => cases phase.symm.trans phase'
  | empty _ phase' => cases phase.symm.trans phase'
  | broken phase' => cases phase.symm.trans phase'

def pierSession : Session := .start fun _ _ =>
  .rows [] [[.null, .null, .int 7], [.null, .null, .int 8], [.null, .null, .int 9]] fun _ => .none

/-- The flag goes up after the first of two rows in the buffer; a third row is never fetched. -/
theorem cancelled_scan_serves_second_row :
    ∃ opened s', jetty.Opens pierSession opened s' ∧
      let run := ((⟨opened, s', .empty⟩ : Run).used .fetchNext).used (.cancel 0)
      run.scan.phase.name = "Streaming" ∧ run.isCancelled = true ∧
        run.collectRemaining.1.toOption.map (List.map Feature.id) = some [8] ∧
        run.collectRemaining.2.session.tracker.fetches = run.session.tracker.fetches ∧
        run.collectRemaining.2.scan.phase = .closed ∧
        run.collectRemaining.2.rewind = (.ok false, run.collectRemaining.2) := by
  have course : (jetty.action.run pierSession).1.toOption.map (fun scan =>
      let run := ((⟨scan, (jetty.action.run pierSession).2, .empty⟩ : Run).used .fetchNext).used (.cancel 0)
      (run.scan.phase.name, run.isCancelled, run.collectRemaining.1.toOption.map (List.map Feature.id),
        run.collectRemaining.2.scan.phase.name)) = some ("Streaming", true, some [8], "Closed") := by
    decide +kernel
  rcases found : jetty.action.run pierSession with ⟨outcome, s'⟩
  rw [found] at course
  cases outcome with
  | error e => cases course
  | ok opened =>
    simp only [Except.toOption, Option.map_some, Option.some.injEq, Prod.mk.injEq] at course
    obtain ⟨streaming, raised, collected, closed⟩ := course
    have opens : jetty.Opens pierSession opened s' := ⟨opened, opened.publication, opened.cancel, found, rfl⟩
    let begun : Run := ⟨opened, s', .empty⟩
    have since : Since opened begun ((begun.used .fetchNext).used (.cancel 0)) :=
      .used (.cancel 0) (by rintro ⟨⟩) (.used .fetchNext (by rintro ⟨⟩) (.opened s' .empty))
    obtain ⟨result, buffer, isDrained, phase⟩ := Scan.Phase.of_streaming streaming
    obtain ⟨-, statement, decoder, rows, -, -, -, serves⟩ :=
      cancelled_scan_serves_what_it_fetched jetty opens since .refl phase raised
    obtain ⟨given, rest, -, before⟩ := serves [] (List.forall_mem_nil _)
    obtain ⟨given', rest', -, after⟩ := serves [.collectRemaining] (by decide)
    have ended := before.collectedEnds
    cases isDrained with
    | true =>
      have exhausted : (((⟨opened, s', .empty⟩ : Run).used .fetchNext).used
          (.cancel 0)).collectRemaining.2.scan.phase = .exhausted := (ended.whole rfl).1
      rw [exhausted] at closed
      exact absurd closed (by decide)
    | false =>
      obtain ⟨closed, -, -, rewound⟩ := ended.broken rfl
      exact ⟨opened, s', opens, streaming, raised, collected, after.fetches, closed, rewound⟩

end Run

end FeatureLayers
