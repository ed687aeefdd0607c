import FeatureLayers.Proofs.Scan.Cancelling

namespace FeatureLayers

namespace Warehouse

structure Session.Unasked (s s' : Session) : Prop where
  log : s'.log = s.log
  cancel : s'.cancel = s.cancel
  fetches : s'.tracker.fetches = s.tracker.fetches

theorem Session.Unasked.refl (s : Session) : s.Unasked s := ⟨rfl, rfl, rfl⟩

theorem Session.Unasked.note (level : Journal.Level) (topic : Journal.Topic) (message : String)
    (s : Session) : s.Unasked (s.note level topic message) := ⟨rfl, rfl, rfl⟩

theorem Session.Unasked.trans {a b c : Session} (first : a.Unasked b) (second : b.Unasked c) : a.Unasked c :=
  ⟨second.log.trans first.log, second.cancel.trans first.cancel, second.fetches.trans first.fetches⟩

end Warehouse

theorem Cache.length_toList (c : Cache) : c.toList.length = c.size := Array.length_toList

namespace Run

open Warehouse (ResultSet Session)

def saysEnd : Except Layer.Error (Option Feature) → Bool
  | .ok none => true
  | .ok (some _) | .error _ => false

def reportsEnd (run : Run) : Use → Bool
  | .fetchNext => saysEnd run.fetchNext.1
  | .featureAt position => saysEnd (run.featureAt position).1
  | .collectRemaining => run.collectRemaining.1.toOption.isSome
  | .rewind | .close | .takeMaterialized | .cancel _ => false

section Calls

variable {run next : Run}

theorem fetchNext_none_size (ended : run.fetchNext = (.ok none, next)) :
    next.scan.cache.size = run.scan.cache.size := by
  rw [← Cache.length_toList, ← Cache.length_toList, (fetchNext_none ended).1]

theorem fetchNext_some_size {feature : Feature} (yielded : run.fetchNext = (.ok (some feature), next)) :
    next.scan.cache.size = run.scan.cache.size + 1 := by
  rw [← Cache.length_toList, ← Cache.length_toList, (fetchNext_some yielded).1, List.length_append,
    List.length_singleton]

theorem Concludes.active {outcome : Except Layer.Error (Option Feature)} (move : Concludes run outcome next)
    (goesOn : saysEnd outcome = false) : next.IsActive := by
  cases move with
  | yields phase work => simp [IsActive, inPhase, yielding, Scan.yielded, work]
  | shows phase work => simp [IsActive, inPhase, Scan.yielded, work]
  | fails phase work clear =>
    obtain ⟨cancel, flag, rfl⟩ := pollCancel_flags clear
    simp [IsActive, inPhase, work]
  | drains | ends | cancels | rests => cases goesOn

theorem fetchNext_active {outcome : Except Layer.Error (Option Feature)} (called : run.fetchNext = (outcome, next))
    (goesOn : saysEnd outcome = false) : next.IsActive := by
  obtain ⟨middle, silent, concluded⟩ := fetchNext_moves run
  rw [called] at concluded
  exact concluded.active goesOn

theorem advance_ok {count : Nat} (h : run.advance count = (.ok (), next)) :
    (next.scan.cache.size = run.scan.cache.size + count ∧ (run.IsActive → next.IsActive)) ∨
      (run.scan.cache.size ≤ next.scan.cache.size ∧ next.scan.cache.size < run.scan.cache.size + count ∧
        ¬ next.IsActive) := by
  fun_induction Run.advance count run with
  | case1 run =>
    cases h
    exact .inl ⟨rfl, id⟩
  | case2 => cases h
  | case3 count run last ended =>
    cases h
    have size := fetchNext_none_size ended
    exact .inr ⟨by omega, by omega, (fetchNext_none ended).2⟩
  | case4 count run feature last yielded ih =>
    have size := fetchNext_some_size yielded
    have active : last.IsActive := fetchNext_active yielded rfl
    rcases ih h with ⟨reached, onward⟩ | ⟨more, short, idle⟩
    · exact .inl ⟨by omega, fun _ => onward active⟩
    · exact .inr ⟨by omega, by omega, idle⟩

theorem advance_active {count : Nat} {e : Layer.Error} (h : run.advance count = (.error e, next)) : next.IsActive := by
  fun_induction Run.advance count run with
  | case1 => cases h
  | case2 count run e' last failed =>
    cases h
    exact fetchNext_active failed rfl
  | case3 => cases h
  | case4 count run feature last yielded ih => exact ih h

theorem featureAt_ok {position : Nat} {found : Option Feature} (h : run.featureAt position = (.ok found, next)) :
    found = next.scan.cache.toList[position]? ∧
      ((next.scan.cache.size = max run.scan.cache.size (position + 1) ∧ (run.IsActive → next.IsActive)) ∨
        (next.scan.cache.size ≤ position ∧ ¬ next.IsActive)) := by
  unfold featureAt at h
  split at h
  · cases h
  · rename_i last advanced
    cases h
    refine ⟨(Array.getElem?_toList ..).symm, ?_⟩
    rcases advance_ok advanced with ⟨reached, onward⟩ | ⟨more, short, idle⟩
    · exact .inl ⟨by omega, onward⟩
    · exact .inr ⟨by omega, idle⟩

theorem featureAt_active {position : Nat} {e : Layer.Error} (h : run.featureAt position = (.error e, next)) :
    next.IsActive := by
  unfold featureAt at h
  split at h
  · rename_i failed
    cases h
    exact advance_active failed
  · cases h

theorem collectFrom_active {bound : Nat} {taken : List Feature} {e : Layer.Error}
    (h : run.collectFrom bound taken = (.error e, next)) : next.IsActive := by
  fun_induction Run.collectFrom bound taken run with
  | case1 => cases h
  | case2 bound taken run e' last failed =>
    cases h
    exact fetchNext_active failed rfl
  | case3 => cases h
  | case4 bound taken run feature last yielded ih => exact ih h

/-- A call that reads on leaves the scan at work, unless it says that the sequence has ended. -/
theorem used_active {use : Use} (readsOn : use.readsOn) (active : run.IsActive) (goesOn : run.reportsEnd use = false) :
    (run.used use).IsActive := by
  cases use with
  | fetchNext => exact fetchNext_active rfl goesOn
  | featureAt position =>
    change saysEnd (run.featureAt position).1 = false at goesOn
    change (run.featureAt position).2.IsActive
    rcases outcome : run.featureAt position with ⟨e | _ | feature, next⟩
    · exact featureAt_active outcome
    · rw [outcome] at goesOn
      cases goesOn
    · obtain ⟨here, ⟨-, onward⟩ | ⟨short, -⟩⟩ := featureAt_ok outcome
      · exact onward active
      · rw [List.getElem?_eq_none (Cache.length_toList _ ▸ short)] at here
        cases here
  | collectRemaining =>
    change run.collectRemaining.1.toOption.isSome = false at goesOn
    change run.collectRemaining.2.IsActive
    rcases outcome : run.collectRemaining with ⟨e | features, next⟩
    · exact collectFrom_active outcome
    · rw [outcome] at goesOn
      cases goesOn
  | rewind | close | takeMaterialized | cancel => cases readsOn

theorem used_idle {use : Use} (ended : run.reportsEnd use = true) : ¬ (run.used use).IsActive := by
  cases use with
  | fetchNext =>
    change saysEnd run.fetchNext.1 = true at ended
    change ¬ run.fetchNext.2.IsActive
    rcases outcome : run.fetchNext with ⟨e | _ | feature, next⟩ <;> rw [outcome] at ended <;> cases ended
    exact (fetchNext_none outcome).2
  | featureAt position =>
    change saysEnd (run.featureAt position).1 = true at ended
    change ¬ (run.featureAt position).2.IsActive
    rcases outcome : run.featureAt position with ⟨e | _ | feature, next⟩ <;> rw [outcome] at ended <;> cases ended
    obtain ⟨here, ⟨reached, -⟩ | ⟨-, idle⟩⟩ := featureAt_ok outcome
    · have behind := List.getElem?_eq_none_iff.mp here.symm
      rw [Cache.length_toList] at behind
      omega
    · exact idle
  | collectRemaining =>
    change run.collectRemaining.1.toOption.isSome = true at ended
    change ¬ run.collectRemaining.2.IsActive
    rcases outcome : run.collectRemaining with ⟨e | features, next⟩ <;> rw [outcome] at ended <;> cases ended
    exact (collectRemaining_ok outcome).1
  | rewind | close | takeMaterialized | cancel => cases ended

theorem idle_lasting : Lasting fun run => ¬ run.IsActive where
  silent move idle := by
    cases move with
    | skip phase work | refill phase work | refuse phase work => simp [IsActive, phase, work] at idle
  concludes move idle := by
    cases move with
    | rests => exact idle
    | drains | ends => exact finish_idle _
    | cancels => exact close_idle _
    | yields phase work | shows phase work | fails phase work => simp [IsActive, phase, work] at idle

end Calls

theorem Lasting.used {I : Run → Prop} (lasting : Lasting I) {run : Run} {use : Use} (readsOn : use.readsOn)
    (holds : I run) : I (run.used use) := by
  cases use with
  | fetchNext => exact lasting.fetchNext holds
  | featureAt position => exact lasting.featureAt position holds
  | collectRemaining => exact lasting.collectRemaining holds
  | rewind | close | takeMaterialized | cancel => cases readsOn

theorem takeMaterialized_none {run : Run} (nothing : run.takeMaterialized.1 = none) : run.takeMaterialized.2 = run := by
  by_cases complete : run.scan.cache.isComplete = true
  · simp [takeMaterialized, Cache.take, complete] at nothing
  · simp only [takeMaterialized, Cache.take, complete, if_false, Bool.false_eq_true]

section Session

variable {run next : Run}

/-- Within a call a batch is fetched for an empty buffer, and counted. -/
theorem Silent.batches (move : Silent run next) : next.scan.stats.batches = run.scan.stats.batches ∨
    (next.scan.stats.batches = run.scan.stats.batches + 1 ∧ ∃ result, run.scan.phase = .streaming result [] false) := by
  cases move with
  | skip => exact .inl rfl
  | refill phase work clear fetched =>
    obtain ⟨cancel, flag, rfl⟩ := pollCancel_flags clear
    exact .inr ⟨rfl, _, phase⟩
  | refuse => exact .inl rfl

theorem Concludes.batches {outcome : Except Layer.Error (Option Feature)} (move : Concludes run outcome next) :
    next.scan.stats.batches = run.scan.stats.batches ∧
      ∀ e, outcome = .error e → ∃ result, run.scan.phase = .streaming result [] false := by
  cases move with
  | yields | shows | rests => exact ⟨rfl, nofun⟩
  | drains | ends =>
    rw [finish_scan]
    exact ⟨rfl, nofun⟩
  | cancels phase work raised =>
    obtain ⟨cancel, flag, rfl⟩ := pollCancel_flags raised
    rw [close_scan]
    exact ⟨rfl, nofun⟩
  | fails phase work clear =>
    obtain ⟨cancel, flag, rfl⟩ := pollCancel_flags clear
    exact ⟨rfl, fun _ _ => ⟨_, phase⟩⟩

theorem holdsCursor_lasting : Lasting fun run => run.scan.HoldsCursor where
  silent move holds := ((Balanced.refl holds).silent move).holds
  concludes move holds := ((Balanced.lasting _).concludes move (.refl holds)).holds

/-- No statement was run since, and every batch that the scan counts was counted by the session as well. -/
structure Fetched (before run : Run) : Prop where
  holds : run.scan.HoldsCursor
  log : run.session.log = before.session.log
  counted : run.session.tracker.fetches + before.scan.stats.batches =
    before.session.tracker.fetches + run.scan.stats.batches

theorem disturbed_session (result : ResultSet) (s : Session) :
    (result.disturbed s).log = s.log ∧ (result.disturbed s).tracker = s.tracker := by
  unfold ResultSet.disturbed
  split <;> exact ⟨rfl, rfl⟩

theorem releaseCursor_unasked (run : Run) : run.session.Unasked run.releaseCursor.session := by
  unfold releaseCursor
  split
  · exact ⟨rfl, rfl, Warehouse.Cursor.close_fetches _ _⟩
  all_goals exact .refl _

theorem publish_unasked (run : Run) : run.session.Unasked run.publish.session := by
  unfold publish
  split
  · exact .refl _
  · dsimp only
    split
    · exact .note _ _ _ _
    · exact .refl _

theorem finish_unasked (run : Run) : run.session.Unasked run.finish.session := by
  refine .trans ?_ (.note .info .scan "Scan complete" _)
  refine .trans ?_ (publish_unasked _)
  exact run.releaseCursor_unasked

theorem close_unasked (run : Run) : run.session.Unasked run.close.session := by
  unfold close
  split
  · exact run.releaseCursor_unasked.trans (.note _ _ _ _)
  all_goals exact .refl _

theorem Fetched.silent {before : Run} (fetched : Fetched before run) (move : Silent run next) :
    Fetched before next := by
  have holds := holdsCursor_lasting.silent move fetched.holds
  cases move with
  | skip | refuse => exact { fetched with holds }
  | refill phase work clear took =>
    obtain ⟨cancel, flag, rfl⟩ := pollCancel_flags clear
    obtain ⟨isOpen, tracked⟩ := fetched.holds _ _ _ phase
    obtain ⟨-, -, -, rfl⟩ := ResultSet.fetchMany_batch isOpen took
    refine ⟨holds, (disturbed_session _ _).1.trans fetched.log, ?_⟩
    have counted := fetched.counted
    simp only [refilled, note, inPhase, Session.note, tracked, if_true, Warehouse.Tracker.noteFetch, Scan.fetched]
    omega

theorem Fetched.lasting (before : Run) : Lasting (Fetched before) where
  silent move fetched := fetched.silent move
  concludes {run outcome next} move fetched := by
    have holds := holdsCursor_lasting.concludes move fetched.holds
    have batches := move.batches.1
    cases move with
    | yields | shows | rests => exact { fetched with holds }
    | drains | ends =>
      have unasked := run.finish_unasked
      refine ⟨holds, unasked.log.trans fetched.log, ?_⟩
      rw [unasked.fetches, batches]
      exact fetched.counted
    | @cancels polled _ _ _ phase work raised =>
      have unasked := (polled.note .info "Scan cancelled").close_unasked
      obtain ⟨cancel, flag, rfl⟩ := pollCancel_flags raised
      refine ⟨holds, unasked.log.trans fetched.log, ?_⟩
      rw [unasked.fetches, batches]
      exact fetched.counted
    | fails phase work clear failed =>
      obtain ⟨cancel, flag, rfl⟩ := pollCancel_flags clear
      obtain ⟨isOpen, -⟩ := fetched.holds _ _ _ phase
      obtain ⟨-, -, rfl⟩ := ResultSet.fetchMany_error isOpen failed
      refine ⟨holds, (disturbed_session _ _).1.trans fetched.log, ?_⟩
      simp only [inPhase, (disturbed_session _ _).2]
      exact fetched.counted

theorem pollCancel_raised (raised : run.pollCancel = (true, next)) : next.isCancelled = true := by
  have stays : ∀ flag : Warehouse.CancelFlag, flag.isRaised = true → flag.polled.isRaised = true := by
    intro flag up
    obtain ⟨polls, raisedFrom, within⟩ := Option.any_eq_true _ _ |>.mp up
    refine Option.any_eq_true _ _ |>.mpr ⟨polls, raisedFrom, ?_⟩
    rw [decide_eq_true_eq] at within ⊢
    exact Nat.le_succ_of_le within
  -- The flag is the scan's own or the session's.
  unfold pollCancel at raised
  split at raised
  · obtain ⟨up, rfl⟩ := Prod.mk.inj raised
    exact stays _ up
  · rename_i shared
    obtain ⟨up, rfl⟩ := Prod.mk.inj raised
    simp only [isCancelled, pollCancel, shared]
    exact stays _ up

theorem closed_lasting : Lasting fun run => run.scan.phase = .closed → run.isCancelled = true where
  silent move _ := by
    cases move with | _ => nofun
  concludes move cancelled := by
    cases move with
    | yields | shows | fails => nofun
    | drains | ends =>
      rw [finish_scan]
      nofun
    | @cancels polled _ _ _ phase work raised =>
      have unasked := (polled.note .info "Scan cancelled").close_unasked
      exact fun _ => isCancelled_kept (pollCancel_raised raised) (by rw [close_scan]; rfl) unasked.cancel
    | rests => exact cancelled

theorem grown_lasting (before : Run) : Lasting fun run => before.scan.cache.toList <+: run.scan.cache.toList where
  silent move grown := by rwa [move.cache]
  concludes move grown := by
    rw [move.tally.1]
    exact grown.trans (List.prefix_append _ _)

end Session

end Run

end FeatureLayers
