import FeatureLayers.Scan.Fetch
import FeatureLayers.Scan.Rewind
import Mathlib.Logic.Relation

namespace FeatureLayers.Run

def skipping (run : Run) : Run :=
  { run with scan := { run.scan with position := run.scan.position + 1 }.skipped }.note .warn "Skipping undecodable row"

def yielding (feature : Feature) (run : Run) : Run :=
  { run with scan := { run.scan with position := run.scan.position + 1 }.yielded feature }

def refilled (result : Warehouse.ResultSet) (session : Warehouse.Session) (batch : List Row) (run : Run) : Run :=
  ({ run with session, scan := run.scan.fetched }.note .debug "Fetched batch").inPhase
    (.streaming result batch (decide (batch.length < run.scan.batchSize)))

/-- The scan is in a phase of its kind of work, so a call for the next feature does something. -/
def IsActive (run : Run) : Prop :=
  match run.scan.phase, run.scan.work with
  | .streaming _ _ _, .statement _ _ => True
  | .replaying _, .replay _ _ => True
  | _, _ => False

inductive Silent : Run → Run → Prop
  | skip {run : Run} {statement decoder result row rest isDrained fault}
      (phase : run.scan.phase = .streaming result (row :: rest) isDrained)
      (work : run.scan.work = .statement statement decoder)
      (undecoded : decoder.decode row run.scan.position = .error fault) :
      Silent run (run.skipping.inPhase (.streaming result rest isDrained))
  | refill {run polled : Run} {statement decoder result result' session batch}
      (phase : run.scan.phase = .streaming result [] false)
      (work : run.scan.work = .statement statement decoder)
      (clear : run.pollCancel = (false, polled))
      (fetched : result.fetchMany run.scan.batchSize polled.session = (.ok batch, result', session)) :
      Silent run (polled.refilled result' session batch)
  | refuse {run : Run} {feature rest features selection}
      (phase : run.scan.phase = .replaying (feature :: rest))
      (work : run.scan.work = .replay features selection)
      (refused : selection.admits feature = false) :
      Silent run (run.inPhase (.replaying rest))

inductive Concludes : Run → Except Layer.Error (Option Feature) → Run → Prop
  | yields {run : Run} {statement decoder result row rest isDrained feature}
      (phase : run.scan.phase = .streaming result (row :: rest) isDrained)
      (work : run.scan.work = .statement statement decoder)
      (decoded : decoder.decode row run.scan.position = .ok feature) :
      Concludes run (.ok (some feature)) ((run.yielding feature).inPhase (.streaming result rest isDrained))
  | shows {run : Run} {feature rest features selection}
      (phase : run.scan.phase = .replaying (feature :: rest))
      (work : run.scan.work = .replay features selection)
      (admitted : selection.admits feature = true) :
      Concludes run (.ok (some (selection.shape run.scan.transform feature)))
        ({ run with scan := run.scan.yielded (selection.shape run.scan.transform feature) }.inPhase (.replaying rest))
  | drains {run : Run} {statement decoder result}
      (phase : run.scan.phase = .streaming result [] true)
      (work : run.scan.work = .statement statement decoder) :
      Concludes run (.ok none) run.finish
  | ends {run : Run} {features selection}
      (phase : run.scan.phase = .replaying [])
      (work : run.scan.work = .replay features selection) :
      Concludes run (.ok none) run.finish
  | cancels {run polled : Run} {statement decoder result}
      (phase : run.scan.phase = .streaming result [] false)
      (work : run.scan.work = .statement statement decoder)
      (raised : run.pollCancel = (true, polled)) :
      Concludes run (.ok none) (polled.note .info "Scan cancelled").close
  | fails {run polled : Run} {statement decoder result result' session e}
      (phase : run.scan.phase = .streaming result [] false)
      (work : run.scan.work = .statement statement decoder)
      (clear : run.pollCancel = (false, polled))
      (failed : result.fetchMany run.scan.batchSize polled.session = (.error e, result', session)) :
      Concludes run (.error (.warehouse e)) ({ polled with session }.inPhase (.streaming result' [] false))
  | rests {run : Run} (idle : ¬ run.IsActive) : Concludes run (.ok none) run

open Relation (ReflTransGen)

/-- Silent moves, and then the one that concludes. -/
def Moves (run : Run) (outcome : Except Layer.Error (Option Feature) × Run) : Prop :=
  ∃ middle, ReflTransGen Silent run middle ∧ Concludes middle outcome.1 outcome.2

theorem Moves.after {run next : Run} {outcome : Except Layer.Error (Option Feature) × Run}
    (first : ReflTransGen Silent run next) (moves : next.Moves outcome) : run.Moves outcome := by
  obtain ⟨middle, silent, concluded⟩ := moves
  exact ⟨middle, first.trans silent, concluded⟩

theorem visit_ok {decoder : Decode.RowDecoder} {row : Row} {run : Run} {feature : Feature}
    (decoded : decoder.decode row run.scan.position = .ok feature) :
    run.visit decoder row = (some feature, run.yielding feature) := by
  simp only [visit, decoded, yielding]

theorem visit_error {decoder : Decode.RowDecoder} {row : Row} {run : Run} {fault : Decode.Fault}
    (undecoded : decoder.decode row run.scan.position = .error fault) :
    run.visit decoder row = (none, run.skipping) := by
  simp only [visit, undecoded, skipping]

theorem takeBuffered_some {statement : Query.Statement} {decoder : Decode.RowDecoder} {feature : Feature}
    (result : Warehouse.ResultSet) (isDrained : Bool) (buffer rest : List Row) (run final : Run)
    (work : run.scan.work = .statement statement decoder)
    (h : takeBuffered decoder buffer run = (some feature, rest, final)) :
    (run.inPhase (.streaming result buffer isDrained)).Moves
      (.ok (some feature), final.inPhase (.streaming result rest isDrained)) := by
  induction buffer generalizing run with
  | nil => simp [takeBuffered] at h
  | cons row buffer ih =>
    rw [takeBuffered] at h
    cases decoded : decoder.decode row run.scan.position with
    | ok found =>
      rw [visit_ok decoded] at h
      simp only [Prod.mk.injEq, Option.some.injEq] at h
      obtain ⟨rfl, rfl, rfl⟩ := h
      exact ⟨_, .refl, .yields rfl work decoded⟩
    | error fault =>
      rw [visit_error decoded] at h
      exact (ih run.skipping work h).after (.single (.skip rfl work decoded))

theorem takeBuffered_none {statement : Query.Statement} {decoder : Decode.RowDecoder}
    (result : Warehouse.ResultSet) (isDrained : Bool) (buffer rest : List Row) (run final : Run)
    (work : run.scan.work = .statement statement decoder)
    (h : takeBuffered decoder buffer run = (none, rest, final)) :
    ReflTransGen Silent (run.inPhase (.streaming result buffer isDrained))
      (final.inPhase (.streaming result [] isDrained)) ∧
      final.scan.work = run.scan.work ∧ final.scan.batchSize = run.scan.batchSize := by
  induction buffer generalizing run with
  | nil =>
    simp only [takeBuffered, Prod.mk.injEq, true_and] at h
    obtain ⟨-, rfl⟩ := h
    exact ⟨.refl, rfl, rfl⟩
  | cons row buffer ih =>
    rw [takeBuffered] at h
    cases decoded : decoder.decode row run.scan.position with
    | ok found =>
      rw [visit_ok decoded] at h
      simp at h
    | error fault =>
      rw [visit_error decoded] at h
      obtain ⟨silent, same⟩ := ih run.skipping work h
      exact ⟨.head (.skip rfl work decoded) silent, same⟩

theorem pollCancel_flags {run polled : Run} {isRaised : Bool} (h : run.pollCancel = (isRaised, polled)) :
    ∃ cancel flag, polled =
      { run with scan := { run.scan with cancel }, session := { run.session with cancel := flag } } := by
  unfold pollCancel at h
  split at h
  · rename_i flag _
    cases h
    exact ⟨.own flag.polled, run.session.cancel, rfl⟩
  · cases h
    exact ⟨run.scan.cancel, run.session.cancel.polled, rfl⟩

theorem streamNext_moves {statement : Query.Statement} {decoder : Decode.RowDecoder} {batchSize : Nat}
    (positive : 0 < batchSize) (result : Warehouse.ResultSet) (buffer : List Row) (isDrained : Bool) (run : Run)
    (work : run.scan.work = .statement statement decoder) (size : run.scan.batchSize = batchSize) :
    (run.inPhase (.streaming result buffer isDrained)).Moves
      (streamNext decoder batchSize positive result buffer isDrained run) := by
  fun_induction streamNext decoder batchSize positive result buffer isDrained run with
  | case1 result buffer isDrained run feature rest final taken =>
    exact takeBuffered_some result isDrained buffer rest run final work taken
  | case2 result buffer run rest emptied taken =>
    obtain ⟨silent, sameWork, -⟩ := takeBuffered_none result true buffer rest run emptied work taken
    exact Moves.after silent ⟨_, .refl, .drains rfl (sameWork.trans work)⟩
  | case3 result buffer isDrained run rest emptied taken _ full polled raised =>
    obtain rfl : isDrained = false := by simpa using full
    obtain ⟨silent, sameWork, -⟩ := takeBuffered_none result false buffer rest run emptied work taken
    exact Moves.after silent ⟨_, .refl, .cancels rfl (sameWork.trans work) raised⟩
  | case4 result buffer isDrained run rest emptied taken _ full polled clear e result' session failed =>
    obtain rfl : isDrained = false := by simpa using full
    obtain ⟨silent, sameWork, sameSize⟩ := takeBuffered_none result false buffer rest run emptied work taken
    subst size
    rw [← sameSize] at failed
    exact Moves.after silent ⟨_, .refl, .fails rfl (sameWork.trans work) clear failed⟩
  | case5 result buffer isDrained run rest emptied taken waiting full polled clear batch result' session fetched next
      ih =>
    obtain rfl : isDrained = false := by simpa using full
    obtain ⟨silent, sameWork, sameSize⟩ := takeBuffered_none result false buffer rest run emptied work taken
    obtain ⟨cancel, flag, polledFlags⟩ := pollCancel_flags clear
    have nextWork : polled.scan.work = .statement statement decoder := by
      rw [polledFlags]
      exact sameWork.trans work
    have nextSize : polled.scan.batchSize = batchSize := by
      rw [polledFlags]
      exact sameSize.trans size
    have refill : Silent waiting (polled.refilled result' session batch) := by
      refine .refill rfl (sameWork.trans work) clear ?_
      rwa [show waiting.scan.batchSize = batchSize from sameSize.trans size]
    refine Moves.after (silent.tail refill) ?_
    have buffered : polled.refilled result' session batch =
        next.inPhase (.streaming result' batch (decide (batch.length < batchSize))) := by
      rw [← nextSize]
      rfl
    rw [buffered]
    exact ih nextWork nextSize

theorem replayNext_moves {features : List Feature} {selection : Selection} (rest : List Feature) (run : Run)
    (work : run.scan.work = .replay features selection) :
    (run.inPhase (.replaying rest)).Moves (replayNext selection rest run) := by
  induction rest with
  | nil => exact ⟨_, .refl, .ends rfl work⟩
  | cons feature rest ih =>
    rw [replayNext]
    split
    · rename_i admitted
      exact ⟨_, .refl, .shows rfl work admitted⟩
    · rename_i refused
      exact ih.after (.single (.refuse rfl work (by simpa using refused)))

/-- A call for the next feature is silent moves and a concluding one. -/
theorem fetchNext_moves (run : Run) : run.Moves run.fetchNext := by
  rw [fetchNext]
  split
  · rename_i result buffer isDrained statement decoder phase work
    have synced : run = run.inPhase (.streaming result buffer isDrained) := by rw [← phase]; rfl
    have moves := streamNext_moves run.scan.batchSize_pos result buffer isDrained run work rfl
    rwa [← synced] at moves
  · rename_i rest features selection phase work
    have synced : run = run.inPhase (.replaying rest) := by rw [← phase]; rfl
    have moves := replayNext_moves rest run work
    rwa [← synced] at moves
  · rename_i notStreaming notReplaying
    refine ⟨run, .refl, .rests ?_⟩
    unfold IsActive
    split
    · rename_i phase work
      exact (notStreaming _ _ _ _ _ phase work).elim
    · rename_i phase work
      exact (notReplaying _ _ _ phase work).elim
    · exact not_false

/-- What every move keeps. -/
structure Lasting (I : Run → Prop) : Prop where
  silent : ∀ {before after}, Silent before after → I before → I after
  concludes : ∀ {before outcome after}, Concludes before outcome after → I before → I after

namespace Lasting

variable {I : Run → Prop}

theorem silently (lasting : Lasting I) {before after : Run} (moves : ReflTransGen Silent before after)
    (holds : I before) : I after := by
  induction moves with
  | refl => exact holds
  | tail _ last ih => exact lasting.silent last ih

theorem fetchNext (lasting : Lasting I) {run : Run} (holds : I run) : I run.fetchNext.2 := by
  obtain ⟨middle, silent, concluded⟩ := fetchNext_moves run
  exact lasting.concludes concluded (lasting.silently silent holds)

theorem advance (lasting : Lasting I) (count : Nat) {run : Run} (holds : I run) : I (run.advance count).2 := by
  fun_induction Run.advance count run with
  | case1 => exact holds
  | case2 count run e next failed =>
    have kept := lasting.fetchNext holds
    rwa [failed] at kept
  | case3 count run next ended =>
    have kept := lasting.fetchNext holds
    rwa [ended] at kept
  | case4 count run feature next yielded ih =>
    have kept := lasting.fetchNext holds
    rw [yielded] at kept
    exact ih kept

theorem featureAt (lasting : Lasting I) (position : Nat) {run : Run} (holds : I run) :
    I (run.featureAt position).2 := by
  have kept := lasting.advance (position + 1 - run.scan.cache.size) holds
  unfold Run.featureAt
  split <;> simp_all

theorem collectFrom (lasting : Lasting I) (bound : Nat) (taken : List Feature) {run : Run} (holds : I run) :
    I (run.collectFrom bound taken).2 := by
  fun_induction Run.collectFrom bound taken run with
  | case1 => exact holds
  | case2 bound taken run e next failed =>
    have kept := lasting.fetchNext holds
    rwa [failed] at kept
  | case3 bound taken run next ended =>
    have kept := lasting.fetchNext holds
    rwa [ended] at kept
  | case4 bound taken run feature next yielded ih =>
    have kept := lasting.fetchNext holds
    rw [yielded] at kept
    exact ih kept

theorem collectRemaining (lasting : Lasting I) {run : Run} (holds : I run) : I run.collectRemaining.2 :=
  lasting.collectFrom _ _ holds

end Lasting

end FeatureLayers.Run
