import FeatureLayers.Proofs.Scan.Calls
import FeatureLayers.Proofs.Scan.Restart

namespace FeatureLayers

open Relation (ReflTransGen)
open Warehouse (ResultSet Session)

namespace Scan

def sequence (s : Scan) : List Feature :=
  match s.phase, s.work with
  | .streaming result _ _, .statement _ decoder => decoder.features result.cursor.rows
  | .replaying features, .replay _ selection =>
    (features.filter selection.admits).map (selection.shape s.transform)
  | _, _ => []

def sequenceOf (batches : Nat) (s : Scan) : List Feature :=
  match s.phase, s.work with
  | .streaming result _ _, .statement _ decoder => decoder.features (result.cursor.rows.take (batches * s.batchSize))
  | _, _ => []

def batchCount (s : Scan) : Nat :=
  match s.phase with
  | .streaming result _ _ => result.cursor.rows.length / s.batchSize + 1
  | .replaying _ | .exhausted | .closed => 0

section Sequence

variable {s : Scan} {result : ResultSet} {buffer : List Row} {isDrained : Bool} {statement : Query.Statement}
  {decoder : Decode.RowDecoder} {features : List Feature} {selection : Selection}

theorem sequence_streaming (phase : s.phase = .streaming result buffer isDrained)
    (work : s.work = .statement statement decoder) : s.sequence = decoder.features result.cursor.rows := by
  simp only [sequence, phase, work]

theorem sequence_replaying (phase : s.phase = .replaying features) (work : s.work = .replay features selection) :
    s.sequence = (features.filter selection.admits).map (selection.shape s.transform) := by
  simp only [sequence, phase, work]

end Sequence

theorem Phase.ne_closed {phase : Phase} {name : String} (named : phase.name = name) (other : name ≠ "Closed") :
    phase ≠ .closed := by
  rintro rfl
  exact other named.symm

/-- Once so many batches are there, one more has to be fetched to come to a position. -/
def Needs (start : Scan) (position batches : Nat) : Prop :=
  batches < start.batchCount ∧ (start.sequenceOf batches).length ≤ position

theorem Reads.emptied {s : Scan} {rows : List Row} {decoder : Decode.RowDecoder} {result : ResultSet}
    (reads : s.Reads rows decoder result [] false) :
    s.position = s.stats.batches * s.batchSize ∧ s.stats.batches ≤ rows.length / s.batchSize := by
  have taken := reads.taken
  have full := reads.full rfl
  rw [reads.counted, List.length_nil] at taken
  refine ⟨by omega, ?_⟩
  rw [Nat.le_div_iff_mul_le s.batchSize_pos]
  omega

end Scan

namespace Run

inductive Begins (opened : Scan) : (start : Run) → Prop
  | opened (session : Session) (store : Store) : Begins opened ⟨opened, session, store⟩
  | rewound {origin before start : Run} (since : Since opened origin before)
      (succeeded : before.rewind = (.ok true, start)) : Begins opened start

/--
The course of a pass: calls that read on, vain attempts to take the features, and whatever others make of the session
and of the store. It tells whether a call has said that the sequence has ended.
-/
inductive Asked (start : Run) : (ended : Bool) → (run : Run) → Prop
  | start : Asked start false start
  | elsewhere {ended : Bool} {run : Run} (session : Session) (store : Store) (asked : Asked start ended run) :
      Asked start ended { run with session, store }
  | kept {ended : Bool} {run : Run} (nothing : run.takeMaterialized.1 = none) (asked : Asked start ended run) :
      Asked start ended run.takeMaterialized.2
  | used {ended : Bool} {run : Run} (use : Use) (readsOn : use.readsOn) (asked : Asked start ended run) :
      Asked start (ended || run.reportsEnd use) (run.used use)

section Course

variable {start run : Run} {ended : Bool}

theorem Asked.keeps {I : Run → Prop} (lasting : Lasting I)
    (elsewhere : ∀ run session store, I run → I { run with session, store }) (holds : I start)
    (asked : Asked start ended run) : I run := by
  induction asked with
  | start => exact holds
  | elsewhere session store asked ih => exact elsewhere _ session store ih
  | kept nothing asked ih =>
    rw [takeMaterialized_none nothing]
    exact ih
  | used use readsOn asked ih => exact lasting.used readsOn ih

theorem Asked.active (active : start.IsActive) (asked : Asked start ended run) : run.IsActive ↔ ended = false := by
  induction asked with
  | start => exact iff_of_true active rfl
  | elsewhere session store asked ih => exact ih
  | kept nothing asked ih =>
    rw [takeMaterialized_none nothing]
    exact ih
  | @used ended run use readsOn asked ih =>
    cases ended with
    | true => exact iff_of_false (idle_lasting.used readsOn (by simpa using ih)) nofun
    | false =>
      rw [Bool.false_or]
      cases reported : run.reportsEnd use with
      | true => exact iff_of_false (used_idle reported) nofun
      | false => exact iff_of_true (used_active readsOn (ih.mpr rfl) reported) rfl

end Course

inductive Along (start : Scan) (run : Run) : Prop
  | streams {columns rows disturbance statement decoder publication store}
      (began : start.phase = .streaming (.ofReply columns rows disturbance) [] false)
      (work : start.work = .statement statement decoder) (pass : Pass rows decoder publication store run)
  | replays {features selection} (began : start.phase = .replaying features)
      (work : start.work = .replay features selection) (shown : Replays features selection start.transform run)

/-- A scan in the course of a pass. -/
structure Follows (start : Scan) (run : Run) : Prop where
  along : Along start run
  remains : start.Remains run.scan
  complete : run.scan.cache.isComplete = true ↔ run.scan.phase = .exhausted

section Follows

variable {start : Scan} {run next : Run}

theorem Along.lasting (start : Scan) : Lasting (Along start) where
  silent move along := by
    cases along with
    | streams began work pass => exact .streams began work (pass.silent move)
    | replays began work shown => exact .replays began work ((Replays.lasting _ _ _).silent move shown)
  concludes move along := by
    cases along with
    | streams began work pass => exact .streams began work (pass.concludes move)
    | replays began work shown => exact .replays began work ((Replays.lasting _ _ _).concludes move shown)

theorem complete_amid (complete : run.scan.cache.isComplete = true ↔ run.scan.phase = .exhausted)
    (amid : run.scan.phase ≠ .exhausted) (onward : next.scan.phase ≠ .exhausted)
    (kept : next.scan.cache.isComplete = run.scan.cache.isComplete) :
    next.scan.cache.isComplete = true ↔ next.scan.phase = .exhausted := by
  rw [kept]
  exact iff_of_false (fun whole => amid (complete.mp whole)) onward

theorem complete_lasting : Lasting fun run => run.scan.cache.isComplete = true ↔ run.scan.phase = .exhausted where
  silent move complete := by
    have kept := congrArg Cache.isComplete move.cache
    cases move with
    | skip phase | refill phase | refuse phase => exact complete_amid complete (by rw [phase]; nofun) nofun kept
  concludes move complete := by
    cases move with
    | yields phase | shows phase => exact complete_amid complete (by rw [phase]; nofun) nofun rfl
    | drains | ends =>
      rw [finish_scan]
      exact iff_of_true rfl rfl
    | cancels phase work raised =>
      obtain ⟨cancel, flag, rfl⟩ := pollCancel_flags raised
      exact complete_amid complete (by rw [phase]; nofun) (by rw [close_scan]; nofun) (by rw [close_scan]; rfl)
    | fails phase work clear =>
      obtain ⟨cancel, flag, rfl⟩ := pollCancel_flags clear
      exact complete_amid complete (by rw [phase]; nofun) nofun rfl
    | rests => exact complete

theorem Follows.lasting (start : Scan) : Lasting (Follows start) where
  silent move follows := ⟨(Along.lasting start).silent move follows.along,
    (remains_lasting start).silent move follows.remains, complete_lasting.silent move follows.complete⟩
  concludes move follows := ⟨(Along.lasting start).concludes move follows.along,
    (remains_lasting start).concludes move follows.remains, complete_lasting.concludes move follows.complete⟩

theorem Pass.elsewhere {rows : List Row} {decoder : Decode.RowDecoder} {publication : Option Nat} {before : Store}
    (pass : Pass rows decoder publication before run) (session : Session) (store : Store) :
    ∃ publication, Pass rows decoder publication store { run with session, store } := by
  cases pass with
  | reading phase work published unchanged reads => exact ⟨_, .reading phase work rfl rfl reads⟩
  | finished phase cached stored =>
    -- Whatever the store is now, it is as good as one that nothing was offered to.
    exact ⟨none, .finished phase cached rfl⟩
  | broken phase => exact ⟨none, .broken phase rfl⟩

theorem Follows.elsewhere (follows : Follows start run) (session : Session) (store : Store) :
    Follows start { run with session, store } := by
  refine ⟨?_, follows.remains, follows.complete⟩
  cases follows.along with
  | streams began work pass =>
    obtain ⟨publication, pass⟩ := pass.elsewhere session store
    exact .streams began work pass
  | replays began work shown =>
    refine .replays began work ?_
    cases shown with
    | showing phase work moves split cached => exact .showing phase work moves split cached
    | shown phase cached => exact .shown phase cached

theorem Follows.cached (follows : Follows start run) (isOpen : run.scan.phase ≠ .closed) :
    run.scan.cache.toList <+: start.sequence := by
  cases follows.along with
  | streams began work pass =>
    rw [Scan.sequence_streaming began work]
    cases pass with
    | reading phase worked published unchanged reads =>
      rw [reads.cached]
      exact ⟨_, (Decode.RowDecoder.features_take_drop _ reads.inside).symm⟩
    | finished phase cached stored => exact cached ▸ List.prefix_rfl
    | broken phase => exact (isOpen phase).elim
  | replays began work shown =>
    rw [Scan.sequence_replaying began work]
    cases shown with
    | showing phase work moves split cached =>
      rw [cached, split, List.filter_append, List.map_append]
      exact List.prefix_append _ _
    | shown phase cached => exact cached ▸ List.prefix_rfl

theorem Follows.idle (follows : Follows start run) (isOpen : run.scan.phase ≠ .closed) (idle : ¬ run.IsActive) :
    run.scan.phase = .exhausted ∧ run.scan.cache.toList = start.sequence := by
  cases follows.along with
  | streams began work pass =>
    rw [Scan.sequence_streaming began work]
    obtain ⟨phase, cached, -⟩ := pass.idle idle isOpen
    exact ⟨phase, cached⟩
  | replays began work shown =>
    rw [Scan.sequence_replaying began work]
    cases shown with
    | showing phase work => simp [IsActive, phase, work] at idle
    | shown phase cached => exact ⟨phase, cached⟩

theorem Follows.needs {result : ResultSet} {position : Nat} (follows : Follows start run)
    (phase : run.scan.phase = .streaming result [] false) (short : run.scan.cache.size ≤ position) :
    start.Needs position run.scan.stats.batches := by
  cases follows.along with
  | streams began work pass =>
    cases pass with
    | reading phase' work' published unchanged reads =>
      cases phase.symm.trans phase'
      obtain ⟨here, few⟩ := reads.emptied
      have cached := congrArg List.length reads.cached
      rw [Cache.length_toList, here] at cached
      rw [follows.remains.size] at few cached
      refine ⟨?_, ?_⟩
      · simp only [Scan.batchCount, began]
        exact Nat.lt_succ_of_le few
      · simp only [Scan.sequenceOf, began, work]
        exact Nat.le_trans (Nat.le_of_eq cached.symm) short
    | finished phase' => cases phase.symm.trans phase'
    | broken phase' => cases phase.symm.trans phase'
  | replays began work shown =>
    cases shown with
    | showing phase' => cases phase.symm.trans phase'
    | shown phase' => cases phase.symm.trans phase'

end Follows

section Frugal

variable {run next : Run}

def FetchesAt {α : Type} (run : Run) (call : Except Layer.Error α × Run) (batches : Nat) : Prop :=
  run.scan.stats.batches ≤ batches ∧
    (batches < call.2.scan.stats.batches ∨ (batches = call.2.scan.stats.batches ∧ ∃ e, call.1 = .error e))

variable {start : Scan} {position batches : Nat}

theorem FetchesAt.within {α β : Type} {call : Except Layer.Error α × Run} {inner : Except Layer.Error β × Run}
    (fetches : run.FetchesAt call batches) (same : inner.2 = call.2)
    (failing : ∀ e, call.1 = .error e → inner.1 = .error e) : run.FetchesAt inner batches := by
  obtain ⟨le, lt | ⟨last, e, failed⟩⟩ := fetches
  · exact ⟨le, .inl (same ▸ lt)⟩
  · exact ⟨le, .inr ⟨same ▸ last, e, failing e failed⟩⟩

theorem Follows.fetchNext_needs (follows : Follows start run) (short : run.scan.cache.size ≤ position)
    (fetches : run.FetchesAt run.fetchNext batches) : start.Needs position batches := by
  obtain ⟨middle, silent, concluded⟩ := fetchNext_moves run
  -- Up to the middle the cache is as it was, so each batch was fetched where it holds too little.
  have amid : Follows start middle ∧ middle.scan.cache.size ≤ position ∧
      ∀ batches, run.scan.stats.batches ≤ batches → batches < middle.scan.stats.batches →
        start.Needs position batches := by
    clear concluded
    induction silent with
    | refl => exact ⟨follows, short, fun _ le lt => (Nat.not_lt.mpr le lt).elim⟩
    | @tail middle last _ move ih =>
      obtain ⟨follows, short, needed⟩ := ih
      refine ⟨(Follows.lasting start).silent move follows, by rw [move.cache]; exact short, fun batches le lt => ?_⟩
      rcases move.batches with same | ⟨more, result, phase⟩
      · exact needed batches le (same ▸ lt)
      · rcases Nat.lt_or_eq_of_le (Nat.le_of_lt_succ (more ▸ lt)) with before | rfl
        · exact needed batches le before
        · exact follows.needs phase short
  obtain ⟨follows, short, needed⟩ := amid
  obtain ⟨same, failing⟩ := concluded.batches
  obtain ⟨le, lt | ⟨rfl, e, failed⟩⟩ := fetches
  · exact needed batches le (same ▸ lt)
  · obtain ⟨result, phase⟩ := failing e failed
    rw [same]
    exact follows.needs phase short

theorem Follows.advance_needs (follows : Follows start run) {count : Nat}
    (few : count ≤ position + 1 - run.scan.cache.size) (fetches : run.FetchesAt (run.advance count) batches) :
    start.Needs position batches := by
  fun_induction Run.advance count run with
  | case1 run =>
    obtain ⟨le, lt | ⟨-, e, failed⟩⟩ := fetches
    · exact (Nat.not_lt.mpr le lt).elim
    · cases failed
  | case2 count run e next failed =>
    exact follows.fetchNext_needs (by omega) (fetches.within (by rw [failed]) (by rw [failed]; rintro _ ⟨⟩; rfl))
  | case3 count run next ended =>
    exact follows.fetchNext_needs (by omega) (fetches.within (by rw [ended]) fun _ same => by cases same)
  | case4 count run feature next yielded ih =>
    have kept := (Follows.lasting start).fetchNext follows
    rw [yielded] at kept
    have size := fetchNext_some_size yielded
    obtain ⟨le, later⟩ := fetches
    -- The batches up to the call for this feature are its own, the others those of the calls behind it.
    rcases Nat.lt_or_ge batches next.scan.stats.batches with before | behind
    · refine follows.fetchNext_needs (by omega) ⟨le, .inl ?_⟩
      rw [yielded]
      exact before
    · exact ih kept (by omega) ⟨behind, later⟩

theorem Follows.featureAt_needs (follows : Follows start run)
    (fetches : run.FetchesAt (run.featureAt position) batches) : start.Needs position batches := by
  refine follows.advance_needs (Nat.le_refl _) (fetches.within ?_ ?_)
  all_goals
    unfold featureAt
    rcases run.advance (position + 1 - run.scan.cache.size) with ⟨e | ⟨⟩, next⟩
  · rfl
  · rfl
  · rintro _ ⟨⟩
    rfl
  · nofun

end Frugal

section Beginning

variable {o : Scan.Opening} {s s' : Session} {opened : Scan} {start : Run}

theorem Begins.since (begins : Begins opened start) : Since opened start start := by
  cases begins with
  | opened session store => exact .opened session store
  | rewound since succeeded =>
    have again := Since.rewound since
    rwa [succeeded] at again

theorem Begins.along (began : o.Began s opened s') (begins : Begins opened start) :
    Along start.scan start ∧ start.IsActive ∧ start.scan.cache = .empty := by
  cases begins with
  | opened session store =>
    cases began with
    | @streams _ transform statement columns rows disturbance _ publication cancel live found transformed same =>
      subst same
      exact ⟨.streams rfl rfl (.reading rfl rfl rfl rfl (.start rows _ columns disturbance rfl rfl rfl)), trivial, rfl⟩
    | @replays spec transform features selection publication cancel loaded found transformed selected same =>
      subst same
      exact ⟨.replays rfl rfl (.showing rfl rfl rfl (List.nil_append features).symm rfl), trivial, rfl⟩
  | @rewound origin before _ since succeeded =>
    have isOpen : before.scan.phase ≠ .closed := by
      intro closed
      cases (rewind_closed closed).symm.trans succeeded
    cases work : before.scan.work with
    | statement statement decoder =>
      obtain ⟨-, columns, rows, disturbance, publication, journal, store, reply, rfl⟩ :=
        rewind_streams isOpen work succeeded
      refine ⟨.streams rfl work (.reading rfl work rfl rfl (.start rows _ columns disturbance rfl rfl rfl)), ?_, rfl⟩
      simp [IsActive, work]
    | replay features selection =>
      cases (rewind_replay isOpen work).symm.trans succeeded
      have restart := before.restarted_scan
      have same : before.restarted.scan.work = .replay features selection := (congrArg Scan.work restart).trans work
      have fresh : before.restarted.scan.cache = .empty := congrArg Scan.cache restart
      refine ⟨.replays rfl same (.showing rfl same rfl (List.nil_append features).symm ?_), ?_, fresh⟩
      · exact congrArg Cache.toList fresh
      · change IsActive (before.restarted.inPhase (.replaying features))
        simp [IsActive, inPhase, same]

theorem Begins.follows (began : o.Began s opened s') (begins : Begins opened start) : Follows start.scan start := by
  obtain ⟨along, active, fresh⟩ := begins.along began
  refine ⟨along, ⟨rfl, rfl, rfl, rfl⟩, ?_⟩
  rw [fresh]
  refine iff_of_false nofun fun exhausted => ?_
  simp [IsActive, exhausted] at active

end Beginning

/--
What calls give in the course of a pass. The cache is how far its sequence was read, and a call continues behind that,
whatever was called before.
-/
structure Gives (start : Scan) (ended : Bool) (run : Run) : Prop where
  cached : run.scan.cache.toList <+: start.sequence
  taken : run.takeMaterialized.1 = if ended then some start.sequence else none
  next : ∀ found last, run.fetchNext = (.ok found, last) → last.scan.phase ≠ .closed →
    found = start.sequence[run.scan.cache.size]? ∧
      last.scan.cache.toList = start.sequence.take (run.scan.cache.size + 1)
  placed : ∀ position found last, run.featureAt position = (.ok found, last) → last.scan.phase ≠ .closed →
    found = start.sequence[position]? ∧
      last.scan.cache.toList = start.sequence.take (max run.scan.cache.size (position + 1))
  collected : ∀ features last, run.collectRemaining = (.ok features, last) → last.scan.phase ≠ .closed →
    features = start.sequence.drop run.scan.cache.size ∧ last.scan.cache.toList = start.sequence
  onward : ∀ use : Use, use.readsOn → run.scan.cache.toList <+: (run.used use).scan.cache.toList
  closes : ∀ use : Use, use.readsOn → (run.used use).scan.phase = .closed → (run.used use).isCancelled = true

/-- What a call for a position asks of the warehouse. -/
structure Frugal (start : Scan) (run : Run) (position : Nat) : Prop where
  statements : (run.featureAt position).2.session.log = run.session.log
  fetches : (run.featureAt position).2.session.tracker.fetches + run.scan.stats.batches =
    run.session.tracker.fetches + (run.featureAt position).2.scan.stats.batches
  needed : ∀ batches, run.FetchesAt (run.featureAt position) batches → start.Needs position batches

section Giving

variable {start : Scan} {run last : Run} {ended : Bool}

theorem Follows.take (follows : Follows start run) (isOpen : run.scan.phase ≠ .closed) {size : Nat}
    (reached : run.scan.cache.size = size ∨ (run.scan.cache.size ≤ size ∧ ¬ run.IsActive)) :
    run.scan.cache.toList = start.sequence.take size := by
  rcases reached with rfl | ⟨short, idle⟩
  · have cached := List.prefix_iff_eq_take.mp (follows.cached isOpen)
    rwa [Cache.length_toList] at cached
  · obtain ⟨-, whole⟩ := follows.idle isOpen idle
    rw [whole, List.take_of_length_le]
    rwa [← whole, Cache.length_toList]

theorem Follows.fetchNext_ok {found : Option Feature} (follows : Follows start run)
    (called : run.fetchNext = (.ok found, last)) (isOpen : last.scan.phase ≠ .closed) :
    found = start.sequence[run.scan.cache.size]? ∧
      last.scan.cache.toList = start.sequence.take (run.scan.cache.size + 1) := by
  have kept := (Follows.lasting start).fetchNext follows
  rw [called] at kept
  cases found with
  | none =>
    obtain ⟨same, idle⟩ := fetchNext_none called
    have size := fetchNext_none_size called
    refine ⟨?_, kept.take isOpen (.inr ⟨Nat.le_succ_of_le (Nat.le_of_eq size), idle⟩)⟩
    rw [← (kept.idle isOpen idle).2, same, List.getElem?_eq_none]
    exact Nat.le_of_eq (Cache.length_toList _)
  | some feature =>
    refine ⟨?_, kept.take isOpen (.inl (fetchNext_some_size called))⟩
    obtain ⟨rest, split⟩ := kept.cached isOpen
    rw [← split, (fetchNext_some called).1, ← Cache.length_toList]
    simp

theorem Follows.featureAt_ok {position : Nat} {found : Option Feature} (follows : Follows start run)
    (called : run.featureAt position = (.ok found, last)) (isOpen : last.scan.phase ≠ .closed) :
    found = start.sequence[position]? ∧
      last.scan.cache.toList = start.sequence.take (max run.scan.cache.size (position + 1)) := by
  have kept := (Follows.lasting start).featureAt position follows
  rw [called] at kept
  obtain ⟨rfl, reached⟩ := Run.featureAt_ok called
  have cached : last.scan.cache.toList = start.sequence.take (max run.scan.cache.size (position + 1)) := by
    refine kept.take isOpen ?_
    rcases reached with ⟨size, -⟩ | ⟨short, idle⟩
    · exact .inl size
    · exact .inr ⟨Nat.le_trans short (by omega), idle⟩
  refine ⟨?_, cached⟩
  rw [cached, List.getElem?_take_of_lt (by omega)]

theorem Follows.collectRemaining_ok {features : List Feature} (follows : Follows start run)
    (called : run.collectRemaining = (.ok features, last)) (isOpen : last.scan.phase ≠ .closed) :
    features = start.sequence.drop run.scan.cache.size ∧ last.scan.cache.toList = start.sequence := by
  have kept := (Follows.lasting start).collectRemaining follows
  rw [called] at kept
  obtain ⟨idle, cached⟩ := Run.collectRemaining_ok called
  have whole := (kept.idle isOpen idle).2
  refine ⟨?_, whole⟩
  rw [← whole, cached]
  simp [Cache.toList, Cache.size]

theorem Follows.taken (follows : Follows start run) (isOpen : run.scan.phase ≠ .closed)
    (active : run.IsActive ↔ ended = false) :
    run.takeMaterialized.1 = if ended then some start.sequence else none := by
  unfold takeMaterialized Cache.take
  cases ended with
  | false =>
    have unfinished : ¬ run.scan.cache.isComplete = true := by
      intro complete
      have working := active.mpr rfl
      simp [IsActive, follows.complete.mp complete] at working
    simp [unfinished]
  | true =>
    obtain ⟨exhausted, whole⟩ := follows.idle isOpen (by simp [active])
    simp [follows.complete.mpr exhausted, whole]

end Giving

/--
Whatever was called since a pass began, as long as it was not closed and its features not taken: a feature that is
asked for by position is the one at that place of the pass's sequence, and there is none exactly when the sequence is no
longer than that. The call runs no statement and fetches no batch that it can do without, and the next call continues
behind the furthest position that was reached.
-/
theorem positions_share_one_sequence (o : Scan.Opening) {s s' : Session} {opened : Scan} {start run : Run}
    {ended : Bool} (opens : o.Opens s opened s') (begins : Begins opened start)
    (asked : Asked start ended run) (isOpen : run.scan.phase ≠ .closed) :
    Gives start.scan ended run ∧ ∀ position, Frugal start.scan run position := by
  have began := opens.began
  have follows : Follows start.scan run :=
    asked.keeps (Follows.lasting start.scan) (fun _ session store follows => follows.elsewhere session store)
      (begins.follows began)
  have holds : run.scan.HoldsCursor :=
    asked.keeps holdsCursor_lasting (fun _ _ _ holds => holds) (begins.since.holdsCursor began.holdsCursor)
  have active := asked.active (begins.along began).2.1
  refine ⟨?_, fun position => ?_⟩
  · exact {
      cached := follows.cached isOpen
      taken := follows.taken isOpen active
      next := fun _ _ called stays => follows.fetchNext_ok called stays
      placed := fun _ _ _ called stays => follows.featureAt_ok called stays
      collected := fun _ _ called stays => follows.collectRemaining_ok called stays
      onward := fun _ readsOn => (grown_lasting run).used readsOn List.prefix_rfl
      closes := fun _ readsOn => closed_lasting.used readsOn fun closed => (isOpen closed).elim }
  · have fetched := (Fetched.lasting run).featureAt position ⟨holds, rfl, rfl⟩
    exact ⟨fetched.log, fetched.counted, fun _ fetches => follows.featureAt_needs fetches⟩

/-- Of two rows the second does not decode, and every second fetch fails; the third call for it says that it is none. -/
theorem positions_share_one_sequence_on_quay :
    ∃ opened s', quay.Opens quaySession opened s' ∧
      let start : Run := ⟨opened, s', .empty⟩
      let amid := start.used (.featureAt 1)
      let last := (amid.used (.featureAt 1)).used (.featureAt 1)
      Asked start false amid ∧ amid.scan.phase.name = "Streaming" ∧ Gives opened false amid ∧
        Frugal opened amid 1 ∧ Asked start true last ∧ last.takeMaterialized.1 = some opened.sequence ∧
        opened.sequence.map Feature.id = [7] := by
  have course : (quay.action.run quaySession).1.toOption.map (fun scan =>
      let start : Run := ⟨scan, (quay.action.run quaySession).2, .empty⟩
      let amid := start.used (.featureAt 1)
      let later := amid.used (.featureAt 1)
      ([start, amid, later].map (reportsEnd · (.featureAt 1)), amid.scan.phase.name,
        (later.used (.featureAt 1)).scan.phase.name, scan.sequence.map Feature.id)) =
          some ([false, false, true], "Streaming", "Exhausted", [7]) := by
    decide +kernel
  rcases found : quay.action.run quaySession with ⟨outcome, s'⟩
  rw [found] at course
  cases outcome with
  | error e => cases course
  | ok opened =>
    simp only [Except.toOption, Option.map_some, Option.some.injEq, Prod.mk.injEq] at course
    obtain ⟨reports, streaming, exhausted, sequence⟩ := course
    simp only [List.map_cons, List.map_nil, List.cons.injEq, and_true] at reports
    obtain ⟨first, second, third⟩ := reports
    have opens : quay.Opens quaySession opened s' := ⟨opened, opened.publication, opened.cancel, found, rfl⟩
    refine ⟨opened, s', opens, ?_⟩
    dsimp only
    have begins : Begins opened ⟨opened, s', .empty⟩ := .opened s' .empty
    have sameScan : opened = (⟨opened, s', .empty⟩ : Run).scan := rfl
    rw [sameScan] at sequence ⊢
    -- From here on the run at the start is only a name, so that no step of it is computed once more.
    generalize (⟨opened, s', .empty⟩ : Run) = start at *
    have amid : Asked start false (start.used (.featureAt 1)) := by
      have asked := Asked.used (.featureAt 1) rfl (.start : Asked start false start)
      rwa [first] at asked
    have last : Asked start true (((start.used (.featureAt 1)).used (.featureAt 1)).used (.featureAt 1)) := by
      have asked := Asked.used (.featureAt 1) rfl (.used (.featureAt 1) rfl amid)
      rwa [second, third] at asked
    obtain ⟨gives, frugal⟩ :=
      positions_share_one_sequence quay opens begins amid (Scan.Phase.ne_closed streaming (by decide))
    obtain ⟨ended, -⟩ :=
      positions_share_one_sequence quay opens begins last (Scan.Phase.ne_closed exhausted (by decide))
    exact ⟨amid, streaming, gives, frugal 1, last, ended.taken, sequence⟩

end Run

end FeatureLayers
