import FeatureLayers.Proofs.Decode.Keys
import FeatureLayers.Proofs.Query.Slot
import FeatureLayers.Proofs.Scan.Course

namespace FeatureLayers

open Warehouse (ResultSet Session)

def Scan.due (s : Scan) : List Feature :=
  match s.phase, s.work with
  | .streaming result buffer _, .statement _ decoder => decoder.featuresFrom s.position (buffer ++ result.cursor.rows)
  | .replaying rest, .replay _ selection => (rest.filter selection.admits).map (selection.shape s.transform)
  | _, _ => []

namespace Run

/-- A scan that has all of these features to yield, and has not yielded others. -/
structure Owes (all : List Feature) (run : Run) : Prop where
  within : run.scan.cache.toList ++ run.scan.due <+: all
  unfinished : run.IsActive → run.scan.cache.isComplete = false

section Owes

variable {all : List Feature} {start run next : Run}

theorem due_idle (idle : ¬ run.IsActive) : run.scan.due = [] := by
  unfold Scan.due
  split
  · rename_i phase work
    simp [IsActive, phase, work] at idle
  · rename_i phase work
    simp [IsActive, phase, work] at idle
  · rfl

theorem Owes.stays (owes : Owes all run) (due : next.scan.due = run.scan.due) (cache : next.scan.cache = run.scan.cache)
    (active : run.IsActive) : Owes all next := by
  refine ⟨?_, fun _ => ?_⟩
  · rw [due, cache]
    exact owes.within
  · rw [cache]
    exact owes.unfinished active

theorem Owes.ends (owes : Owes all run) (cached : next.scan.cache.toList = run.scan.cache.toList)
    (idle : ¬ next.IsActive) : Owes all next := by
  refine ⟨?_, fun active => absurd active idle⟩
  rw [due_idle idle, List.append_nil, cached]
  exact (List.prefix_append _ _).trans owes.within

theorem Owes.yields {feature : Feature} (owes : Owes all run) (due : run.scan.due = feature :: next.scan.due)
    (cache : next.scan.cache = run.scan.cache.push feature) (active : run.IsActive) : Owes all next := by
  refine ⟨?_, fun _ => ?_⟩
  · have within := owes.within
    rw [due, List.append_cons] at within
    rw [cache]
    have pushed : (run.scan.cache.push feature).toList = run.scan.cache.toList ++ [feature] := Array.toList_push ..
    rw [pushed]
    exact within
  · rw [cache]
    exact owes.unfinished active

theorem owes_silent (held : run.scan.HoldsCursor) (owes : Owes all run) (move : Silent run next) : Owes all next := by
  cases move with
  | @skip statement decoder result row rest isDrained fault phase work undecoded =>
    refine owes.stays ?_ rfl (by simp [IsActive, phase, work])
    have before : run.scan.due = decoder.featuresFrom run.scan.position (row :: (rest ++ result.cursor.rows)) := by
      simp only [Scan.due, phase, work, List.cons_append]
    rw [before, Decode.RowDecoder.featuresFrom_cons_error _ undecoded]
    simp only [Scan.due, inPhase, skipping, note, Scan.skipped, work]
  | @refill polled statement decoder result result' session batch phase work clear fetched =>
    obtain ⟨cancel, flag, rfl⟩ := pollCancel_flags clear
    obtain ⟨-, rfl, rfl, -⟩ := ResultSet.fetchMany_batch (held _ _ _ phase).1 fetched
    refine owes.stays ?_ rfl (by simp [IsActive, phase, work])
    simp only [Scan.due, refilled, inPhase, note, Scan.fetched, phase, work, List.nil_append, List.take_append_drop]
  | @refuse feature rest features selection phase work refused =>
    refine owes.stays ?_ rfl (by simp [IsActive, phase, work])
    simp [Scan.due, inPhase, phase, work, refused]

theorem owes_concludes {outcome : Except Layer.Error (Option Feature)} (held : run.scan.HoldsCursor)
    (owes : Owes all run) (move : Concludes run outcome next) : Owes all next := by
  cases move with
  | @yields statement decoder result row rest isDrained feature phase work decoded =>
    refine owes.yields ?_ rfl (by simp [IsActive, phase, work])
    have before : run.scan.due = decoder.featuresFrom run.scan.position (row :: (rest ++ result.cursor.rows)) := by
      simp only [Scan.due, phase, work, List.cons_append]
    rw [before, Decode.RowDecoder.featuresFrom_cons_ok _ decoded]
    simp only [Scan.due, inPhase, yielding, Scan.yielded, work]
  | @shows feature rest features selection phase work admitted =>
    refine owes.yields ?_ rfl (by simp [IsActive, phase, work])
    simp [Scan.due, inPhase, Scan.yielded, phase, work, admitted]
  | drains => exact owes.ends (by rw [finish_scan]; rfl) (finish_idle run)
  | ends => exact owes.ends (by rw [finish_scan]; rfl) (finish_idle run)
  | cancels phase work raised =>
    obtain ⟨cancel, flag, rfl⟩ := pollCancel_flags raised
    exact owes.ends (by rw [close_scan]; rfl) (close_idle _)
  | @fails polled statement decoder result result' session e phase work clear failed =>
    obtain ⟨cancel, flag, rfl⟩ := pollCancel_flags clear
    obtain ⟨-, rfl, -⟩ := ResultSet.fetchMany_error (held _ _ _ phase).1 failed
    refine owes.stays ?_ rfl (by simp [IsActive, phase, work])
    simp only [Scan.due, inPhase, phase, work]
  | rests => exact owes

theorem owes_lasting (start : Run) (all : List Feature) : Lasting fun run => Balanced start run ∧ Owes all run where
  silent move both := ⟨both.1.silent move, owes_silent both.1.holds both.2 move⟩
  concludes move both := ⟨(Balanced.lasting start).concludes move both.1, owes_concludes both.1.holds both.2 move⟩

theorem owes_used (held : run.scan.HoldsCursor) (owes : Owes all run) {use : Use} (goesOn : use ≠ .rewind) :
    Owes all (run.used use) := by
  have both : Balanced run run ∧ Owes all run := ⟨.refl held, owes⟩
  cases use with
  | fetchNext => exact ((owes_lasting run all).fetchNext both).2
  | featureAt position => exact ((owes_lasting run all).featureAt position both).2
  | collectRemaining => exact ((owes_lasting run all).collectRemaining both).2
  | rewind => exact (goesOn rfl).elim
  | close => exact owes.ends (by unfold used; rw [close_scan]) (close_idle run)
  | takeMaterialized =>
    by_cases complete : run.scan.cache.isComplete = true
    · -- a complete cache is handed over whole, and nothing is left to yield
      have idle : ¬ run.IsActive := fun active => absurd complete (by rw [owes.unfinished active]; exact Bool.false_ne_true)
      refine ⟨?_, fun active => absurd active idle⟩
      have nothing : (run.used .takeMaterialized).scan.due = [] := due_idle idle
      rw [nothing]
      simp [used, takeMaterialized, Cache.take, complete, Cache.empty, Cache.toList]
    · have same : run.used .takeMaterialized = run := by
        simp [used, takeMaterialized, Cache.take, complete]
      rw [same]
      exact owes
  | cancel polls =>
    unfold used cancelAfter
    dsimp only
    split <;> exact ⟨owes.within, owes.unfinished⟩

end Owes

section Course

variable {o : Scan.Opening} {s s' : Session} {opened : Scan} {origin run : Run}

theorem rewind_new (isOpen : run.scan.phase ≠ .closed) : run.rewind.2.scan.IsNew := by
  have restarted : run.restarted.scan.IsNew := by
    rw [restarted_scan]
    exact ⟨rfl, rfl, rfl⟩
  cases work : run.scan.work with
  | replay features selection =>
    rw [rewind_replay isOpen work]
    exact { restarted with }
  | statement statement decoder =>
    rw [rewind_run isOpen work]
    dsimp only
    split
    · exact restarted
    · exact { restarted with }

theorem Since.origin_new (began : o.Began s opened s') (since : Since opened origin run)
    (isOpen : origin.scan.phase ≠ .closed) : origin.scan.IsNew := by
  induction since with
  | opened => exact began.isNew
  | elsewhere session store since ih => exact ih isOpen
  | used use goesOn since ih => exact ih isOpen
  | @rewound origin before since ih =>
    refine rewind_new fun closed => isOpen ?_
    rw [rewind_closed closed]
    exact closed

theorem Since.owes (began : o.Began s opened s') (since : Since opened origin run)
    (isOpen : origin.scan.phase ≠ .closed) : Owes origin.scan.due run := by
  have fresh {start : Run} (new : start.scan.IsNew) : Owes start.scan.due start := by
    refine ⟨?_, fun _ => ?_⟩
    · rw [new.cache]
      exact List.prefix_refl _
    · rw [new.cache]
      rfl
  -- `isOpen` and `new` speak of the origin, which a rewind changes, so both go into the induction
  have new := since.origin_new began isOpen
  induction since with
  | opened => exact fresh new
  | elsewhere session store since ih =>
    obtain ⟨within, unfinished⟩ := ih isOpen new
    exact ⟨within, unfinished⟩
  | used use goesOn since ih => exact owes_used (since.holdsCursor began.holdsCursor) (ih isOpen new) goesOn
  | rewound since ih => exact fresh new

theorem Since.origin_remains (since : Since opened origin run) : opened.Remains origin.scan := by
  induction since with
  | opened => exact ⟨rfl, rfl, rfl, rfl⟩
  | elsewhere session store since ih => exact ih
  | used use goesOn since ih => exact ih
  | rewound since ih => exact remains_rewind since.remains

theorem Since.streams (began : o.Began s opened s') (since : Since opened origin run) {result : ResultSet}
    {buffer : List Row} {isDrained : Bool} (phase : origin.scan.phase = .streaming result buffer isDrained) :
    ∃ statement decoder, opened.work = .statement statement decoder := by
  induction since with
  | opened =>
    cases began with
    | streams _ _ _ same =>
      subst same
      exact ⟨_, _, rfl⟩
    | replays _ _ _ _ same =>
      subst same
      cases phase
  | elsewhere session store since ih => exact ih phase
  | used use goesOn since ih => exact ih phase
  | @rewound origin before since ih =>
    cases work : opened.work with
    | statement statement decoder => exact ⟨statement, decoder, rfl⟩
    | replay features selection =>
      have still : before.scan.work = .replay features selection := since.remains.work.trans work
      by_cases closed : before.scan.phase = .closed
      · rw [rewind_closed closed, closed] at phase
        cases phase
      · rw [rewind_replay closed still] at phase
        cases phase

end Course

end Run

theorem Query.compose_key {plan : Plan} {request : Request} {expression : Option String} {box : Option BoundingBox}
    {statement : Statement} {key : Nat} (primary : plan.primaryKey = some key) (inside : key < plan.fields.length)
    (composed : compose plan request expression box = .ok statement) :
    statement.projection[statement.layout.id]? = some (.field (fieldName plan.fields key)) := by
  have keyed : ∀ key, plan.primaryKey = some key → key < plan.fields.length := by
    intro key' same
    cases primary.symm.trans same
    exact inside
  obtain ⟨output, attributes, outputs, rfl⟩ := compose_ok composed
  obtain ⟨fields, chosen⟩ := outputFields_ok keyed outputs
  have present : ∀ key, plan.primaryKey = some key → key ∈ projectedFields plan request expression output :=
    fun key same => output_subset_projected fields key (chosen key same)
  rw [projection_id present, identity, primary]

theorem Scan.Opening.Opens.key_column {o : Opening} {s s' : Session} {opened : Scan} (opens : o.Opens s opened s')
    {key : Nat} (primary : o.base.primaryKey = some key) (inside : key < o.base.fields.length)
    {statement : Query.Statement} {decoder : Decode.RowDecoder} (work : opened.work = .statement statement decoder) :
    statement.projection[decoder.layout.id]? = some (.field (Query.fieldName o.base.fields key)) := by
  obtain ⟨found, publication, cancel, opened, rfl⟩ := opens
  unfold action at opened
  split at opened
  · obtain ⟨spec, transform, expression, composed, columns, rows, disturbance, number, -, -, -, composes, rfl, -, -⟩ :=
      stream_ok opened
    cases work
    exact Query.compose_key primary inside composes
  · obtain ⟨spec, transform, selection, -, -, -, rfl, -⟩ := replay_ok opened
    cases work

namespace Run

/--
In every pass the ids come from the key column, or from the places of rows whose keys read as no integer. They repeat
exactly where two keys read alike, or one reads as the place of a row whose own does not. Integers that differ, and keys
that never read as integers, keep all ids apart; a scan that replays has the ids of what it replays.
-/
theorem ids_repeat_only_where_keys_meet (o : Scan.Opening) {key : Nat} (primary : o.base.primaryKey = some key)
    (inside : key < o.base.fields.length) {s s' : Session} {opened : Scan} {origin run : Run}
    (opens : o.Opens s opened s') (since : Since opened origin run) :
    (∀ columns rows disturbance, origin.scan.phase = .streaming (.ofReply columns rows disturbance) [] false →
      ∃ statement decoder, opened.work = .statement statement decoder ∧
        statement.projection[decoder.layout.id]? = some (.field (Query.fieldName o.base.fields key)) ∧
        run.scan.cache.toList <+: decoder.features rows ∧
        (∀ feature next, run.fetchNext = (.ok (some feature), next) →
          run.scan.cache.toList ++ [feature] <+: decoder.features rows) ∧
        (decoder.features rows).map Feature.id = (decoder.keys rows).map Decode.Key.id ∧
        (((decoder.features rows).map Feature.id).Nodup ↔ Decode.KeysApart (decoder.keys rows)) ∧
        ((∀ row ∈ rows, ∃ n, decoder.keyCell row = .int n) → (rows.map decoder.keyCell).Nodup →
          Decode.KeysApart (decoder.keys rows)) ∧
        ((∀ row ∈ rows, (decoder.keyCell row).asInt? = none) → Decode.KeysApart (decoder.keys rows))) ∧
    ∀ features, origin.scan.phase = .replaying features →
      (run.scan.cache.toList.map Feature.id).Sublist (features.map Feature.id) := by
  have began := opens.began
  refine ⟨fun columns rows disturbance phase => ?_, fun features phase => ?_⟩
  · obtain ⟨statement, decoder, work⟩ := since.streams began phase
    have isOpen : origin.scan.phase ≠ .closed := by
      rw [phase]
      exact nofun
    have due : origin.scan.due = decoder.features rows := by
      have same := since.origin_remains.work.trans work
      simp only [Scan.due, phase, same, (since.origin_new began isOpen).position, List.nil_append]
      rfl
    have owes := since.owes began isOpen
    rw [due] at owes
    have cached : run.scan.cache.toList <+: decoder.features rows := (List.prefix_append _ _).trans owes.within
    -- the feature of a further fetch is cached before it is returned
    refine ⟨statement, decoder, work, opens.key_column primary inside work, cached, fun feature next yielded => ?_,
      decoder.featuresFrom_ids 0 rows, decoder.features_ids_nodup rows, decoder.keysApart_of_integers,
      decoder.keysApart_of_unread⟩
    have onward : Owes origin.scan.due run.fetchNext.2 := (since.used .fetchNext nofun).owes began isOpen
    rw [due, yielded] at onward
    rw [← (fetchNext_some yielded).1]
    exact (List.prefix_append _ _).trans onward.within
  · have isOpen : origin.scan.phase ≠ .closed := by
      rw [phase]
      exact nofun
    have cached : run.scan.cache.toList <+: origin.scan.due :=
      (List.prefix_append _ _).trans (since.owes began isOpen).within
    refine (cached.map Feature.id).sublist.trans ?_
    unfold Scan.due
    rw [phase]
    cases origin.scan.work with
    | statement statement decoder => exact List.nil_sublist _
    | replay loaded selection =>
      dsimp only
      rw [List.map_map]
      exact List.filter_sublist.map Feature.id

def slips : Scan.Opening where
  base := ⟨⟨"c", .unset⟩, .table none "SLIPS", [⟨"ID", "TEXT", .text⟩], some 0, none, none, 2, []⟩
  spec := some ⟨"G", .geometry, some .point, some 4326⟩
  request := .all
  loaded := none

def slipsSession (ids : List Value) : Session := .start fun _ _ =>
  .rows [] (ids.map fun id => [id, .null, .null]) fun _ => .none

def slipRows (ids : List Value) : List Row := ids.map fun id => [id, .null, .null]

def slipsCourse (ids : List Value) : Option (Option Nat × List Int) :=
  (slips.action.run (slipsSession ids)).1.toOption.map fun scan =>
    let begun : Run := ⟨scan, (slips.action.run (slipsSession ids)).2, .empty⟩
    (match scan.work with
      | .statement _ decoder => some decoder.layout.id
      | .replay _ _ => none,
      (begun.used .collectRemaining).scan.cache.toList.map Feature.id)

theorem slips_collected {ids : List Value} {collected : List Int} (course : slipsCourse ids = some (some 0, collected)) :
    ∃ opened s' disturbance statement decoder, slips.Opens (slipsSession ids) opened s' ∧
      opened.phase = .streaming (.ofReply [] (slipRows ids) disturbance) [] false ∧
      opened.work = .statement statement decoder ∧ (slipRows ids).map decoder.keyCell = ids ∧
      (((⟨opened, s', .empty⟩ : Run).used .collectRemaining).scan.cache.toList.map Feature.id) = collected := by
  unfold slipsCourse at course
  rcases found : slips.action.run (slipsSession ids) with ⟨outcome, s'⟩
  rw [found] at course
  cases outcome with
  | error e => cases course
  | ok opened =>
    simp only [Except.toOption, Option.map_some, Option.some.injEq, Prod.mk.injEq] at course
    obtain ⟨place, same⟩ := course
    have opens : slips.Opens (slipsSession ids) opened s' := ⟨opened, opened.publication, opened.cancel, found, rfl⟩
    cases opens.began with
    | replays loaded => cases loaded
    | @streams _ _ statement _ _ _ _ _ _ _ _ _ same _ _ _ answered =>
      subst same
      cases answered
      refine ⟨_, s', _, statement, _, opens, rfl, rfl, ?_, same⟩
      have first : statement.layout.id = 0 := Option.some.inj place
      rw [slipRows, List.map_map]
      refine (List.map_congr_left fun id _ => ?_).trans (List.map_id ids)
      simp only [Function.comp_apply, Decode.RowDecoder.keyCell, Decode.RowDecoder.of, first]
      rfl

theorem slips_keyCell {ids : List Value} {decoder : Decode.RowDecoder} {P : Value → Prop}
    (cells : (slipRows ids).map decoder.keyCell = ids) (each : ∀ id ∈ ids, P id) :
    ∀ row ∈ slipRows ids, P (decoder.keyCell row) := by
  intro row member
  have listed : decoder.keyCell row ∈ (slipRows ids).map decoder.keyCell := List.mem_map_of_mem member
  rw [cells] at listed
  exact each _ listed

/-- Each of two integers is the place of the other's row, which does not matter. -/
theorem ids_of_two_slips_are_apart :
    ∃ opened s', slips.Opens (slipsSession [.int 1, .int 0]) opened s' ∧
      let run := (⟨opened, s', .empty⟩ : Run).used .collectRemaining
      run.scan.cache.toList.map Feature.id = [1, 0] ∧ (run.scan.cache.toList.map Feature.id).Nodup := by
  have course : slipsCourse [.int 1, .int 0] = some (some 0, [1, 0]) := by decide +kernel
  obtain ⟨opened, s', disturbance, statement, decoder, opens, phase, work, cells, ids⟩ := slips_collected course
  have since : Since opened ⟨opened, s', .empty⟩ ((⟨opened, s', .empty⟩ : Run).used .collectRemaining) :=
    .used .collectRemaining nofun (.opened s' .empty)
  obtain ⟨statement', decoder', work', -, cached, -, -, whole, integers, -⟩ :=
    (ids_repeat_only_where_keys_meet slips rfl (by decide) opens since).1 _ _ _ phase
  cases work.symm.trans work'
  have each : ∀ id ∈ [Value.int 1, Value.int 0], ∃ n, id = .int n := by
    intro id member
    rcases List.mem_pair.mp member with rfl | rfl
    · exact ⟨1, rfl⟩
    · exact ⟨0, rfl⟩
  have apart := whole.mpr (integers (slips_keyCell cells each) (by rw [cells]; decide))
  exact ⟨opened, s', opens, ids, apart.sublist (cached.map Feature.id).sublist⟩

/-- The second row's key reads as no integer, so the row is known by its place, which the first row's key reads as. -/
theorem mixed_keys_share_an_id :
    ¬ ∀ (o : Scan.Opening) (key : Nat) (s s' : Session) (opened : Scan) (origin run : Run) (columns : List Column)
      (rows : List Row) (disturbance : Nat → Warehouse.Disturbance) (statement : Query.Statement)
      (decoder : Decode.RowDecoder), o.base.primaryKey = some key → key < o.base.fields.length → o.Opens s opened s' →
      Since opened origin run → origin.scan.phase = .streaming (.ofReply columns rows disturbance) [] false →
      opened.work = .statement statement decoder → (∀ row ∈ rows, Decode.mayBeKey (decoder.keyCell row) = true) →
      (rows.map decoder.keyCell).Nodup → (run.scan.cache.toList.map Feature.id).Nodup := by
  intro always
  have course : slipsCourse [.text "1", .text "a"] = some (some 0, [1, 1]) := by decide +kernel
  obtain ⟨opened, s', disturbance, statement, decoder, opens, phase, work, cells, ids⟩ := slips_collected course
  have since : Since opened ⟨opened, s', .empty⟩ ((⟨opened, s', .empty⟩ : Run).used .collectRemaining) :=
    .used .collectRemaining nofun (.opened s' .empty)
  have each : ∀ id ∈ [Value.text "1", Value.text "a"], Decode.mayBeKey id = true := by decide
  have apart := always slips 0 (slipsSession [.text "1", .text "a"]) s' opened _ _ [] _ disturbance statement decoder rfl
    (by decide) opens since phase work (slips_keyCell cells each) (by rw [cells]; decide)
  rw [ids] at apart
  exact absurd apart (by decide)

end Run

end FeatureLayers
