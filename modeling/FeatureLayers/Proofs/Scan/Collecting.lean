import FeatureLayers.Proofs.Scan.Ending
import FeatureLayers.Proofs.Scan.Reading

namespace FeatureLayers.Run

open Relation (ReflTransGen)

theorem Silent.cache {run next : Run} (move : Silent run next) : next.scan.cache = run.scan.cache := by
  cases move with
  | skip => rfl
  | refill phase work clear fetched =>
    obtain ⟨cancel, flag, rfl⟩ := pollCancel_flags clear
    rfl
  | refuse => rfl

theorem Silent.remaining {run next : Run} (move : Silent run next) : next.remaining ≤ run.remaining := by
  cases move with
  | skip phase =>
    simp only [Run.remaining, phase, skipping, inPhase, List.length_cons]
    omega
  | refill phase work clear fetched =>
    obtain ⟨rfl, left⟩ := Warehouse.ResultSet.fetchMany_ok fetched
    simp only [Run.remaining, phase, refilled, inPhase, left, List.length_take, List.length_drop, List.length_nil]
    omega
  | refuse phase =>
    simp only [Run.remaining, phase, inPhase, List.length_cons]
    omega

theorem close_idle (run : Run) : ¬ run.close.IsActive := by
  unfold IsActive
  rw [close_scan]
  exact not_false

theorem finish_idle (run : Run) : ¬ run.finish.IsActive := by
  unfold IsActive
  rw [finish_scan]
  exact not_false

theorem Concludes.some {run next : Run} {feature : Feature} (move : Concludes run (.ok (some feature)) next) :
    next.scan.cache = run.scan.cache.push feature ∧ next.remaining < run.remaining := by
  cases move with
  | yields phase =>
    refine ⟨rfl, ?_⟩
    simp only [Run.remaining, phase, yielding, inPhase, List.length_cons]
    omega
  | shows phase =>
    refine ⟨rfl, ?_⟩
    simp only [Run.remaining, phase, inPhase, List.length_cons]
    omega

theorem Concludes.none {run next : Run} (move : Concludes run (.ok none) next) :
    next.scan.cache.toList = run.scan.cache.toList ∧ ¬ next.IsActive := by
  cases move with
  | drains => exact ⟨by rw [finish_scan]; rfl, finish_idle _⟩
  | ends => exact ⟨by rw [finish_scan]; rfl, finish_idle _⟩
  | cancels phase work raised =>
    obtain ⟨cancel, flag, rfl⟩ := pollCancel_flags raised
    exact ⟨by rw [close_scan]; rfl, close_idle _⟩
  | rests idle => exact ⟨rfl, idle⟩

theorem silent_cache {run next : Run} (moves : ReflTransGen Silent run next) :
    next.scan.cache = run.scan.cache ∧ next.remaining ≤ run.remaining := by
  induction moves with
  | refl => exact ⟨rfl, Nat.le_refl _⟩
  | tail _ move ih => exact ⟨move.cache.trans ih.1, Nat.le_trans move.remaining ih.2⟩

theorem fetchNext_some {run next : Run} {feature : Feature} (h : run.fetchNext = (.ok (some feature), next)) :
    next.scan.cache.toList = run.scan.cache.toList ++ [feature] ∧ next.remaining < run.remaining := by
  obtain ⟨middle, silent, concluded⟩ := fetchNext_moves run
  rw [h] at concluded
  obtain ⟨sameCache, bound⟩ := silent_cache silent
  obtain ⟨pushed, less⟩ := concluded.some
  refine ⟨?_, Nat.lt_of_lt_of_le less bound⟩
  rw [pushed, sameCache]
  exact Array.toList_push ..

theorem fetchNext_none {run next : Run} (h : run.fetchNext = (.ok none, next)) :
    next.scan.cache.toList = run.scan.cache.toList ∧ ¬ next.IsActive := by
  obtain ⟨middle, silent, concluded⟩ := fetchNext_moves run
  rw [h] at concluded
  obtain ⟨sameCache, idle⟩ := concluded.none
  exact ⟨by rw [sameCache, (silent_cache silent).1], idle⟩

theorem collectFrom_ok (bound : Nat) (taken features : List Feature) (run last : Run)
    (enough : run.remaining < bound) (h : run.collectFrom bound taken = (.ok features, last)) :
    ¬ last.IsActive ∧ ∃ more, features = taken.reverse ++ more ∧
      last.scan.cache.toList = run.scan.cache.toList ++ more := by
  fun_induction Run.collectFrom bound taken run with
  | case1 => exact (Nat.not_lt_zero _ enough).elim
  | case2 => cases h
  | case3 bound taken run next ended =>
    cases h
    obtain ⟨same, idle⟩ := fetchNext_none ended
    exact ⟨idle, [], by simp, by simp [same]⟩
  | case4 bound taken run feature next yielded ih =>
    obtain ⟨pushed, less⟩ := fetchNext_some yielded
    obtain ⟨idle, more, rfl, cached⟩ := ih (by omega) h
    exact ⟨idle, feature :: more, by simp, by simp [cached, pushed]⟩

theorem collectRemaining_ok {features : List Feature} {run last : Run}
    (h : run.collectRemaining = (.ok features, last)) :
    ¬ last.IsActive ∧ last.scan.cache.toList = run.scan.cache.toList ++ features := by
  obtain ⟨idle, more, rfl, cached⟩ := collectFrom_ok _ _ _ _ _ (Nat.lt_succ_self _) h
  exact ⟨idle, cached⟩

theorem Lasting.collects {I : Run → Prop} (lasting : Lasting I)
    (fine : ∀ run e next, I run → run.fetchNext ≠ (.error e, next)) {run : Run} (holds : I run) :
    ∃ features last, run.collectRemaining = (.ok features, last) := by
  suffices general : ∀ bound taken run, I run → ∃ features last, run.collectFrom bound taken = (.ok features, last) from
    general _ _ _ holds
  intro bound taken run holds
  fun_induction Run.collectFrom bound taken run with
  | case1 taken run => exact ⟨_, _, rfl⟩
  | case2 bound taken run e next failed => exact (fine run e next holds failed).elim
  | case3 bound taken run next ended => exact ⟨_, _, rfl⟩
  | case4 bound taken run feature next yielded ih =>
    have kept := lasting.fetchNext holds
    rw [yielded] at kept
    exact ih kept

theorem pollCancel_precedes {run polled : Run} {isRaised : Bool} (h : run.pollCancel = (isRaised, polled)) :
    run.session.Precedes polled.session := by
  obtain ⟨cancel, flag, rfl⟩ := pollCancel_flags h
  exact .of_eq rfl rfl

theorem precedes_lasting (s : Warehouse.Session) : Lasting fun run => s.Precedes run.session where
  silent move before := by
    cases move with
    | skip => exact before.trans (.note _ _ _ _)
    | refill phase work clear fetched =>
      exact ((before.trans (pollCancel_precedes clear)).trans (.fetchMany fetched)).trans (.note _ _ _ _)
    | refuse => exact before
  concludes move before := by
    cases move with
    | yields => exact before
    | shows => exact before
    | drains | ends => exact before.trans (finish_precedes _)
    | cancels phase work raised =>
      exact (before.trans (pollCancel_precedes raised)).trans
        ((Warehouse.Session.Precedes.note _ _ _ _).trans (close_precedes (note .info "Scan cancelled" _)))
    | fails phase work clear failed => exact (before.trans (pollCancel_precedes clear)).trans (.fetchMany failed)
    | rests => exact before

/-- A pass over all rows of an answer: under way, at its end, or broken off. -/
inductive Pass (rows : List Row) (decoder : Decode.RowDecoder) (publication : Option Nat) (store : Store) (run : Run) :
    Prop
  | reading {statement result buffer isDrained} (phase : run.scan.phase = .streaming result buffer isDrained)
      (work : run.scan.work = .statement statement decoder) (published : run.scan.publication = publication)
      (unchanged : run.store = store) (reads : run.scan.Reads rows decoder result buffer isDrained)
  | finished (phase : run.scan.phase = .exhausted) (cached : run.scan.cache.toList = decoder.features rows)
      (stored : run.store = store.offered publication (decoder.features rows))
  | broken (phase : run.scan.phase = .closed) (unchanged : run.store = store)

def Undisturbed (run : Run) : Prop :=
  run.scan.phase ≠ .closed ∧ ∃ flag : Warehouse.CancelFlag, run.scan.cancel = .own flag ∧ flag.raisedFrom = none

section Pass

variable {rows : List Row} {decoder : Decode.RowDecoder} {publication : Option Nat} {store : Store} {run next : Run}

theorem Pass.silent (pass : Pass rows decoder publication store run) (move : Silent run next) :
    Pass rows decoder publication store next := by
  cases pass with
  | reading phase work published unchanged reads =>
    cases move with
    | skip phase' work' undecoded =>
      cases phase.symm.trans phase'
      cases work.symm.trans work'
      exact .reading rfl work published unchanged { reads.skip undecoded with }
    | refill phase' work' clear fetched =>
      cases phase.symm.trans phase'
      obtain ⟨cancel, flag, rfl⟩ := pollCancel_flags clear
      exact .reading rfl work published unchanged { reads.refill rfl fetched with }
    | refuse phase' => cases phase.symm.trans phase'
  | finished phase => cases move with | _ phase' => cases phase.symm.trans phase'
  | broken phase => cases move with | _ phase' => cases phase.symm.trans phase'

theorem Pass.concludes {outcome : Except Layer.Error (Option Feature)}
    (pass : Pass rows decoder publication store run) (move : Concludes run outcome next) :
    Pass rows decoder publication store next := by
  cases pass with
  | reading phase work published unchanged reads =>
    cases move with
    | yields phase' work' decoded =>
      cases phase.symm.trans phase'
      cases work.symm.trans work'
      exact .reading rfl work published unchanged { reads.yield decoded with }
    | drains phase' work' =>
      cases phase.symm.trans phase'
      refine .finished (by rw [finish_scan]) (by rw [finish_scan]; exact reads.finished.2) ?_
      rw [finish_store, published, unchanged, reads.finished.2]
    | cancels phase' work' raised =>
      obtain ⟨cancel, flag, rfl⟩ := pollCancel_flags raised
      exact .broken (by rw [close_scan]) ((close_store _).trans unchanged)
    | fails phase' work' clear failed =>
      cases phase.symm.trans phase'
      obtain ⟨cancel, flag, rfl⟩ := pollCancel_flags clear
      exact .reading rfl work published unchanged { reads.fail failed with }
    | shows phase' => cases phase.symm.trans phase'
    | ends phase' => cases phase.symm.trans phase'
    | rests idle => simp [IsActive, phase, work] at idle
  | finished phase cached stored =>
    cases move with
    | rests idle => exact .finished phase cached stored
    | _ phase' => cases phase.symm.trans phase'
  | broken phase unchanged =>
    cases move with
    | rests idle => exact .broken phase unchanged
    | _ phase' => cases phase.symm.trans phase'

theorem Pass.lasting (rows : List Row) (decoder : Decode.RowDecoder) (publication : Option Nat) (store : Store) :
    Lasting (Pass rows decoder publication store) where
  silent move pass := pass.silent move
  concludes move pass := pass.concludes move

theorem Pass.idle (pass : Pass rows decoder publication store run) (idle : ¬ run.IsActive)
    (isOpen : run.scan.phase ≠ .closed) :
    run.scan.phase = .exhausted ∧ run.scan.cache.toList = decoder.features rows ∧
      run.store = store.offered publication (decoder.features rows) := by
  cases pass with
  | reading phase work => simp [IsActive, phase, work] at idle
  | finished phase cached stored => exact ⟨phase, cached, stored⟩
  | broken phase => exact (isOpen phase).elim

/-- A pass that was collected from its start, and not broken off, gave the features of all rows and has offered them. -/
theorem Pass.collected (pass : Pass rows decoder publication store run) (fresh : run.scan.cache.toList = [])
    {features : List Feature} (collected : run.collectRemaining = (.ok features, next))
    (isOpen : next.scan.phase ≠ .closed) :
    features = decoder.features rows ∧ next.store = store.offered publication features := by
  have ended := (Pass.lasting rows decoder publication store).collectRemaining pass
  rw [collected] at ended
  obtain ⟨idle, cached⟩ := collectRemaining_ok collected
  obtain ⟨-, whole, stored⟩ := ended.idle idle isOpen
  have all : features = decoder.features rows := by rw [← whole, cached, fresh, List.nil_append]
  exact ⟨all, all ▸ stored⟩

end Pass

theorem Undisturbed.poll {run polled : Run} {isRaised : Bool} (undisturbed : run.Undisturbed)
    (h : run.pollCancel = (isRaised, polled)) : isRaised = false ∧ polled.Undisturbed := by
  obtain ⟨isOpen, flag, own, lowered⟩ := undisturbed
  simp only [pollCancel, own, Prod.mk.injEq] at h
  obtain ⟨rfl, rfl⟩ := h
  exact ⟨by simp [Warehouse.CancelFlag.isRaised, lowered], isOpen, flag.polled, rfl, lowered⟩

theorem Undisturbed.lasting : Lasting Undisturbed where
  silent move undisturbed := by
    cases move with
    | skip => exact ⟨nofun, undisturbed.2⟩
    | refill phase work clear fetched => exact ⟨nofun, (undisturbed.poll clear).2.2⟩
    | refuse => exact ⟨nofun, undisturbed.2⟩
  concludes move undisturbed := by
    cases move with
    | yields => exact ⟨nofun, undisturbed.2⟩
    | shows => exact ⟨nofun, undisturbed.2⟩
    | drains | ends =>
      unfold Undisturbed
      rw [finish_scan]
      exact ⟨nofun, undisturbed.2⟩
    | cancels phase work raised => cases (undisturbed.poll raised).1
    | fails phase work clear failed => exact ⟨nofun, (undisturbed.poll clear).2.2⟩
    | rests => exact undisturbed

end FeatureLayers.Run
