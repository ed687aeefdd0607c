import FeatureLayers.Proofs.Scan.Delivery
import FeatureLayers.Proofs.Scan.Yield

namespace FeatureLayers

open Relation (ReflTransGen)
open Warehouse (Disturbance)

structure Scan.IsNew (s : Scan) : Prop where
  position : s.position = 0
  cache : s.cache = .empty
  stats : s.stats = .start

namespace Run

/-- Enough calls bring the scan to its end, and it has yielded these features then and counted so much. -/
structure ReadsOut (run : Run) (features : List Feature) (stats : Scan.Stats) : Prop where
  ends : ∃ count, .ok none ∈ (run.fetchTimes count).1
  ended : ∀ count, .ok none ∈ (run.fetchTimes count).1 →
    yieldsOf (run.fetchTimes count).1 = features ∧ (run.fetchTimes count).2.scan.phase = .exhausted ∧
      (run.fetchTimes count).2.scan.stats = stats

variable {run next : Run}

theorem fetchNext_idle (idle : ¬ run.IsActive) : run.fetchNext = (.ok none, run) := by
  unfold fetchNext
  split
  · rename_i phase work
    simp [IsActive, phase, work] at idle
  · rename_i phase work
    simp [IsActive, phase, work] at idle
  · rfl

theorem Lasting.fetchTimes {I : Run → Prop} (lasting : Lasting I) (holds : I run) (count : Nat) :
    I (run.fetchTimes count).2 := by
  induction count with
  | zero => exact holds
  | succ count ih =>
    rw [fetchTimes_succ]
    exact lasting.fetchNext ih

theorem fetchTimes_ended {count : Nat} (ended : .ok none ∈ (run.fetchTimes count).1) :
    ¬ (run.fetchTimes count).2.IsActive := by
  induction count with
  | zero => cases ended
  | succ count ih =>
    rw [fetchTimes_succ] at ended ⊢
    rcases List.mem_append.mp ended with before | last
    · rw [fetchNext_idle (ih before)]
      exact ih before
    · have same : (run.fetchTimes count).2.fetchNext.1 = .ok none := (List.mem_singleton.mp last).symm
      exact (fetchNext_none (Prod.ext same rfl)).2

theorem Silent.decoded (move : Silent run next) : next.scan.stats.rowsDecoded = run.scan.stats.rowsDecoded := by
  cases move with
  | skip => rfl
  | refill phase work clear fetched =>
    obtain ⟨cancel, flag, rfl⟩ := pollCancel_flags clear
    rfl
  | refuse => rfl

theorem Concludes.tally {outcome : Except Layer.Error (Option Feature)} (move : Concludes run outcome next) :
    next.scan.cache.toList = run.scan.cache.toList ++ yieldsOf [outcome] ∧
      next.scan.stats.rowsDecoded = run.scan.stats.rowsDecoded + (yieldsOf [outcome]).length := by
  cases move with
  | yields => exact ⟨Array.toList_push .., rfl⟩
  | shows => exact ⟨Array.toList_push .., rfl⟩
  | drains | ends =>
    rw [finish_scan]
    exact ⟨(List.append_nil _).symm, rfl⟩
  | cancels phase work raised =>
    obtain ⟨cancel, flag, rfl⟩ := pollCancel_flags raised
    rw [close_scan]
    exact ⟨(List.append_nil _).symm, rfl⟩
  | fails phase work clear failed =>
    obtain ⟨cancel, flag, rfl⟩ := pollCancel_flags clear
    exact ⟨(List.append_nil _).symm, rfl⟩
  | rests => exact ⟨(List.append_nil _).symm, rfl⟩

theorem fetchTimes_tally (run : Run) (count : Nat) :
    (run.fetchTimes count).2.scan.cache.toList = run.scan.cache.toList ++ yieldsOf (run.fetchTimes count).1 ∧
      (run.fetchTimes count).2.scan.stats.rowsDecoded =
        run.scan.stats.rowsDecoded + (yieldsOf (run.fetchTimes count).1).length := by
  induction count with
  | zero => exact ⟨(List.append_nil _).symm, rfl⟩
  | succ count ih =>
    -- Moves within a call change neither the cache nor the count; the one that concludes it changes both alike.
    obtain ⟨middle, silent, concluded⟩ := fetchNext_moves (run.fetchTimes count).2
    have decoded : middle.scan.stats.rowsDecoded = (run.fetchTimes count).2.scan.stats.rowsDecoded := by
      clear concluded
      induction silent with
      | refl => rfl
      | tail _ move same => exact move.decoded.trans same
    obtain ⟨cached, counted⟩ := concluded.tally
    obtain ⟨cachedBefore, countedBefore⟩ := ih
    rw [fetchTimes_succ]
    dsimp only
    have split : ∀ outcomes outcome, yieldsOf (outcomes ++ [outcome]) = yieldsOf outcomes ++ yieldsOf [outcome] :=
      fun _ _ => List.filterMap_append
    rw [split, cached, counted, (silent_cache silent).1, decoded, cachedBefore, countedBefore, List.append_assoc,
      List.length_append, Nat.add_assoc]
    exact ⟨rfl, rfl⟩

theorem Faultless.ends (faultless : run.Faultless) {bound : Nat} (enough : run.remaining < bound) :
    .ok none ∈ (run.fetchTimes bound).1 := by
  induction bound generalizing run with
  | zero => exact (Nat.not_lt_zero _ enough).elim
  | succ bound ih =>
    have kept := Faultless.lasting.fetchNext faultless
    unfold Run.fetchTimes
    rcases outcome : run.fetchNext with ⟨_ | _ | feature, next⟩
    · exact (faultless.fetchNext_ok _ _ outcome).elim
    · exact List.mem_cons_self
    · rw [outcome] at kept
      have less := (fetchNext_some outcome).2
      exact List.mem_cons_of_mem _ (ih kept (by omega))

section Streaming

variable {rows : List Row} {statement : Query.Statement} {decoder : Decode.RowDecoder} {columns : List Column}
  {disturbance : Nat → Disturbance}

def Patient (disturbance : Nat → Disturbance) : Prop :=
  ∀ fetches, ∃ later, fetches < later ∧ (disturbance later).error = none

theorem Patient.successes (patient : Patient disturbance) (count : Nat) :
    ∃ fetches, count < fetchSuccesses disturbance fetches := by
  induction count with
  | zero =>
    obtain ⟨_ | later, after, fine⟩ := patient 0
    · cases after
    · exact ⟨later + 1, by rw [fetchSuccesses_succ_none fine]; omega⟩
  | succ count ih =>
    obtain ⟨fetches, more⟩ := ih
    obtain ⟨_ | later, after, fine⟩ := patient fetches
    · cases after
    · have mono : fetchSuccesses disturbance fetches ≤ fetchSuccesses disturbance later :=
        fetchSuccesses_mono (by omega)
      exact ⟨later + 1, by rw [fetchSuccesses_succ_none fine]; omega⟩

theorem serving_new (fresh : run.scan.IsNew)
    (phase : run.scan.phase = .streaming (.ofReply columns rows disturbance) [] false)
    (work : run.scan.work = .statement statement decoder)
    (uncancelled : Uncancelled disturbance run.scan.cancel run.session) :
    Serving rows decoder run.scan.batchSize disturbance run.session.tracker [] run (.ofReply columns rows disturbance)
      [] false where
  phase := phase
  work := ⟨statement, work⟩
  size := rfl
  reads := .start rows decoder columns disturbance fresh.position fresh.cache fresh.stats
  disturbed := rfl
  uncancelled := uncancelled
  tracked := rfl
  tracker := by rw [fresh.stats]; rfl
  yields := by rw [fresh.cache]; rfl
  errors := rfl
  successes := by rw [fresh.stats]; rfl
  last := nofun
  ongoing := List.not_mem_nil

theorem streams_out (fresh : run.scan.IsNew)
    (phase : run.scan.phase = .streaming (.ofReply columns rows disturbance) [] false)
    (work : run.scan.work = .statement statement decoder)
    (uncancelled : Uncancelled disturbance run.scan.cancel run.session) (patient : Patient disturbance) :
    run.ReadsOut (decoder.features rows)
      ⟨rows.length / run.scan.batchSize + 1, (decoder.features rows).length,
        rows.length - (decoder.features rows).length⟩ := by
  have serving := serving_new fresh phase work uncancelled
  have served : ∀ count, .ok none ∈ (run.fetchTimes count).1 → Served rows decoder run.scan.batchSize disturbance
      run.session.tracker (run.fetchTimes count).1 (run.fetchTimes count).2 := by
    intro count ended
    rcases serving.fetchTimes count with ⟨_, _, _, still⟩ | served
    · exact (still.ongoing ended).elim
    · exact served
  refine ⟨?_, fun count ended => ?_⟩
  · -- Each call that is not the last yields a feature or has a fetch that fails, and neither happens more often than this.
    obtain ⟨fetches, enough⟩ := patient.successes (rows.length / run.scan.batchSize)
    refine ⟨(decoder.features rows).length + fetches, ?_⟩
    rcases serving.fetchTimes ((decoder.features rows).length + fetches) with ⟨_, _, _, still⟩ | served
    · have few := still.length_lt enough
      rw [fetchTimes_length] at few
      omega
    · exact served.ended
  · have served := served count ended
    have decoded := (run.fetchTimes_tally count).2
    rw [served.yields, fresh.stats] at decoded
    have visited := served.visited
    refine ⟨served.yields, served.phase, ?_⟩
    rcases stats : (run.fetchTimes count).2.scan.stats with ⟨batches, rowsDecoded, rowsSkipped⟩
    have batched := served.batches
    rw [stats] at decoded visited batched
    simp only [Scan.Stats.start, Nat.zero_add] at decoded
    dsimp only at visited batched
    rw [Scan.Stats.mk.injEq]
    exact ⟨batched, decoded, by omega⟩

end Streaming

section Replaying

structure Unfetched (run : Run) : Prop where
  work : ∃ features selection, run.scan.work = .replay features selection
  batches : run.scan.stats.batches = 0
  skipped : run.scan.stats.rowsSkipped = 0

theorem Unfetched.lasting : Lasting Unfetched where
  silent move unfetched := by
    obtain ⟨features, selection, replays⟩ := unfetched.work
    cases move with
    | skip phase work => cases work.symm.trans replays
    | refill phase work => cases work.symm.trans replays
    | refuse => exact { unfetched with }
  concludes move unfetched := by
    obtain ⟨features, selection, replays⟩ := unfetched.work
    cases move with
    | shows => exact { unfetched with }
    | ends =>
      refine ⟨⟨features, selection, ?_⟩, ?_, ?_⟩
      all_goals rw [finish_scan]
      · exact replays
      · exact unfetched.batches
      · exact unfetched.skipped
    | rests => exact unfetched
    | yields phase work | drains phase work | cancels phase work | fails phase work => cases work.symm.trans replays

theorem replays_out (fresh : run.scan.IsNew) {features : List Feature} {selection : Selection}
    (phase : run.scan.phase = .replaying features) (work : run.scan.work = .replay features selection) :
    run.ReadsOut ((features.filter selection.admits).map (selection.shape run.scan.transform))
      ⟨0, (features.filter selection.admits).length, 0⟩ := by
  have faultless : run.Faultless := by
    unfold Faultless
    rw [phase]
    exact nofun
  have replays : Replays features selection run.scan.transform run :=
    .showing phase work rfl (List.nil_append features).symm (by rw [fresh.cache]; rfl)
  have unfetched : run.Unfetched := ⟨⟨features, selection, work⟩, by rw [fresh.stats]; rfl, by rw [fresh.stats]; rfl⟩
  refine ⟨⟨_, faultless.ends (Nat.lt_succ_self _)⟩, fun count ended => ?_⟩
  have idle := fetchTimes_ended ended
  have kept := Unfetched.lasting.fetchTimes unfetched count
  obtain ⟨cached, decoded⟩ := run.fetchTimes_tally count
  rw [fresh.cache] at cached
  rw [fresh.stats] at decoded
  cases (Replays.lasting features selection run.scan.transform).fetchTimes replays count with
  | showing phase work => simp [IsActive, phase, work] at idle
  | shown phase shown =>
    have yields := cached.symm.trans shown
    change yieldsOf (run.fetchTimes count).1 = _ at yields
    refine ⟨yields, phase, ?_⟩
    rw [yields, List.length_map] at decoded
    rcases stats : (run.fetchTimes count).2.scan.stats with ⟨batches, rowsDecoded, rowsSkipped⟩
    have batched := kept.batches
    have skipped := kept.skipped
    rw [stats] at decoded batched skipped
    rw [Scan.Stats.mk.injEq]
    exact ⟨batched, decoded.trans (Nat.zero_add _), skipped⟩

end Replaying

end Run

end FeatureLayers
