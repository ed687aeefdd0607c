import FeatureLayers.Proofs.Scan.Course

namespace FeatureLayers

open Warehouse (Session)

def Scan.command? (s : Scan) : Option Warehouse.Command :=
  s.statement?.map fun statement => s.endpoint.command statement.toSql

/--
From a number on, the session answers the command with these rows whenever it is sent. The scan is not cancelled while it
fetches them, and fetches do not fail forever.
-/
def Run.Supplied (run : Run) (start : Nat) (command : Warehouse.Command) (rows : List Row) : Prop :=
  ∀ number, start ≤ number → ∃ columns disturbance, run.session.answer number command = .rows columns rows disturbance ∧
    Uncancelled disturbance run.scan.cancel run.session ∧ Patient disturbance

def Scan.Stats.ofRows (decoder : Decode.RowDecoder) (batchSize : Nat) (rows : List Row) : Stats where
  batches := rows.length / batchSize + 1
  rowsDecoded := (decoder.features rows).length
  rowsSkipped := rows.length - (decoder.features rows).length

variable {o : Scan.Opening} {s s' : Session} {opened : Scan} {statement : Query.Statement}
  {decoder : Decode.RowDecoder} {rows : List Row}

theorem Scan.Opening.Began.reads_out (began : o.Began s opened s') (store : Store)
    (work : opened.work = .statement statement decoder)
    (supplied : Run.Supplied ⟨opened, s', store⟩ s.log.size (opened.endpoint.command statement.toSql) rows) :
    Run.ReadsOut ⟨opened, s', store⟩ (decoder.features rows) (.ofRows decoder opened.batchSize rows) := by
  have new := began.isNew
  cases began with
  | streams live found transformed same answer since sent answered =>
    subst same
    cases work
    obtain ⟨columns, disturbance, reply, uncancelled, patient⟩ := supplied _ since
    dsimp only at reply
    rw [answer] at reply
    cases answered.symm.trans reply
    exact Run.streams_out new rfl rfl uncancelled patient
  | replays loaded found transformed selected same =>
    subst same
    cases work

theorem Scan.Opening.Began.sent (began : o.Began s opened s') (command : Warehouse.Command)
    (sends : opened.command? = some command) : s'.log.back? = some command := by
  cases began with
  | streams live found transformed same answer since sent =>
    subst same
    cases sends
    exact sent
  | replays loaded found transformed selected same =>
    subst same
    cases sends

namespace Run

variable {origin run next : Run} {isRestarted : Bool}

theorem rewind_streams (isOpen : run.scan.phase ≠ .closed) (work : run.scan.work = .statement statement decoder)
    (rewound : run.rewind = (.ok isRestarted, next)) :
    isRestarted = true ∧ ∃ columns rows disturbance publication journal store,
      run.session.answer run.session.log.size (run.scan.endpoint.command statement.toSql) =
        .rows columns rows disturbance ∧
      next = ⟨{ run.scan with
          phase := .streaming (.ofReply columns rows disturbance) [] false, cache := .empty, publication, position := 0,
          stats := .start },
        { run.session with
          log := run.session.log.push (run.scan.endpoint.command statement.toSql),
          tracker := run.releaseCursor.session.tracker.noteOpened, journal }, store⟩ := by
  rw [rewind_run isOpen work] at rewound
  dsimp only at rewound
  split at rewound
  · cases rewound
  · rename_i columns rows disturbance reply
    cases rewound
    let noted := (run.session.note .info .scan "Executing feature query").note .debug .scan "Rewound"
    refine ⟨rfl, columns, rows, disturbance, run.scan.publication.map fun _ => run.store.generation + 1, noted.journal,
      run.restarted.store, reply, ?_⟩
    simp only [note, inPhase, restarted_scan, restarted_session]
    rfl

theorem rewind_reads_out (isOpen : run.scan.phase ≠ .closed) (work : run.scan.work = .statement statement decoder)
    (supplied : run.Supplied run.session.log.size (run.scan.endpoint.command statement.toSql) rows)
    (rewound : run.rewind = (.ok isRestarted, next)) :
    next.ReadsOut (decoder.features rows) (.ofRows decoder run.scan.batchSize rows) := by
  obtain ⟨columns, disturbance, reply, uncancelled, patient⟩ := supplied _ (Nat.le_refl _)
  obtain ⟨-, columns', rows', disturbance', publication, journal, store, reply', rfl⟩ :=
    rewind_streams isOpen work rewound
  cases reply.symm.trans reply'
  exact streams_out ⟨rfl, rfl, rfl⟩ rfl work uncancelled patient

theorem rewind_replays_out {features : List Feature} {selection : Selection} (isOpen : run.scan.phase ≠ .closed)
    (work : run.scan.work = .replay features selection) (rewound : run.rewind = (.ok isRestarted, next)) :
    next.ReadsOut ((features.filter selection.admits).map (selection.shape run.scan.transform))
      ⟨0, (features.filter selection.admits).length, 0⟩ := by
  cases (rewind_replay isOpen work).symm.trans rewound
  have restart := run.restarted_scan
  have moves : run.restarted.scan.transform = run.scan.transform := by rw [restart]
  rw [← moves]
  refine replays_out ?_ rfl ?_
  · exact ⟨congrArg Scan.position restart, congrArg Scan.cache restart, congrArg Scan.stats restart⟩
  · exact (congrArg Scan.work restart).trans work

/-- What becomes of an open scan that is rewound. -/
structure Restarts (o : Scan.Opening) (opened : Scan) (run next : Run) : Prop where
  sent : next.session.log.toList = run.session.log.toList ++ opened.command?.toList
  cursors : next.session.tracker = { run.session.tracker with
    opened := run.session.tracker.opened + next.scan.cursors
    closed := run.session.tracker.closed + run.scan.cursors }
  again : ∀ fresh s s' store, o.Opens s fresh s' → fresh.statement? = opened.statement? →
    (∀ command, opened.command? = some command → ∃ rows, run.Supplied run.session.log.size command rows ∧
      Supplied ⟨fresh, s', store⟩ s.log.size command rows) →
    ∃ features stats, next.ReadsOut features stats ∧ ReadsOut ⟨fresh, s', store⟩ features stats

theorem restarts_streaming (began : o.Began s opened s') (since : Since opened origin run)
    (work : opened.work = .statement statement decoder) (isOpen : run.scan.phase ≠ .closed)
    (rewound : run.rewind = (.ok isRestarted, next)) : isRestarted = true ∧ Restarts o opened run next := by
  have remains := since.remains
  have sameWork := remains.work.trans work
  have command : opened.command? = some (run.scan.endpoint.command statement.toSql) := by
    simp only [Scan.command?, Scan.statement?, work, Option.map_some, remains.endpoint]
  have readsOut : ∀ rows, run.Supplied run.session.log.size (run.scan.endpoint.command statement.toSql) rows →
      next.ReadsOut (decoder.features rows) (.ofRows decoder run.scan.batchSize rows) :=
    fun rows supplied => rewind_reads_out isOpen sameWork supplied rewound
  obtain ⟨rfl, columns, rows, disturbance, publication, journal, store, reply, rfl⟩ :=
    rewind_streams isOpen sameWork rewound
  refine ⟨rfl, ?_, ?_, fun fresh s₂ s₃ store opens planned supplies => ?_⟩
  · rw [command]
    exact Array.toList_push ..
  · have released := releaseCursor_closed (since.holdsCursor began.holdsCursor)
    rw [released]
    rfl
  · -- Both are planned alike, so what the fresh scan reads out is told with the decoder and the batch size of this one.
    obtain ⟨rows, here, there⟩ := supplies _ command
    have alike := began.planned opens.began planned
    refine ⟨decoder.features rows, .ofRows decoder run.scan.batchSize rows, readsOut rows here, ?_⟩
    rw [remains.endpoint, ← alike.endpoint] at there
    rw [remains.size, ← alike.size]
    exact opens.began.reads_out store (alike.work.trans work) there

theorem restarts_replaying {features : List Feature} {selection : Selection} (began : o.Began s opened s')
    (since : Since opened origin run) (work : opened.work = .replay features selection)
    (isOpen : run.scan.phase ≠ .closed) (rewound : run.rewind = (.ok isRestarted, next)) :
    isRestarted = true ∧ Restarts o opened run next := by
  have remains := since.remains
  have sameWork := remains.work.trans work
  have readsOut := rewind_replays_out isOpen sameWork rewound
  cases (rewind_replay isOpen sameWork).symm.trans rewound
  refine ⟨rfl, ?_, ?_, fun fresh s₂ s₃ store opens planned _ => ⟨_, _, readsOut, ?_⟩⟩
  · have command : opened.command? = none := by simp only [Scan.command?, Scan.statement?, work, Option.map_none]
    rw [command]
    change run.restarted.session.log.toList = _
    rw [restarted_session]
    exact (List.append_nil _).symm
  · have released := releaseCursor_closed (since.holdsCursor began.holdsCursor)
    change run.restarted.session.tracker = _
    rw [restarted_session, released]
    rfl
  · have alike := began.planned opens.began planned
    rw [remains.transform, ← alike.transform]
    have sameWork := alike.work.trans work
    exact replays_out opens.began.isNew (opens.began.replaying sameWork) sameWork

/--
A scan that is not closed and that could be rewound is as good as one that is opened anew: it has sent the statement that
was sent when it was opened, or none when it replays, has given back its cursor, and reads out the same features with the
same counters. On a closed scan a rewind does nothing.
-/
theorem rewind_restarts (o : Scan.Opening) {s s' : Session} {opened : Scan} {origin run : Run}
    (opens : o.Opens s opened s') (since : Since opened origin run) :
    (∀ command, opened.command? = some command → s'.log.back? = some command) ∧
    (run.scan.phase = .closed → run.rewind = (.ok false, run)) ∧
    ∀ isRestarted next, run.scan.phase ≠ .closed → run.rewind = (.ok isRestarted, next) →
      isRestarted = true ∧ Restarts o opened run next := by
  have began := opens.began
  refine ⟨began.sent, rewind_closed, fun isRestarted next isOpen rewound => ?_⟩
  cases work : opened.work with
  | statement statement decoder => exact restarts_streaming began since work isOpen rewound
  | replay features selection => exact restarts_replaying began since work isOpen rewound

/-- A query with two rows, of which the second does not decode; it is read row by row, and every second fetch fails. -/
def quay : Scan.Opening where
  base := ⟨⟨"c", .unset⟩, .query "q", [], none, none, none, 1, []⟩
  spec := some ⟨"G", .geometry, some .point, some 4326⟩
  request := .all
  loaded := none

def quayRows : List Row := [[.null, .null, .int 7], [.null]]

def quaySession : Session := .start fun _ _ =>
  .rows [] quayRows fun fetch => ⟨if fetch % 2 = 0 then some ⟨606, "lost"⟩ else none, false⟩

theorem quay_supplied {flag : Warehouse.CancelFlag} (answer : run.session.answer = quaySession.answer)
    (own : run.scan.cancel = .own flag) (lowered : flag.raisedFrom = none) (start : Nat) (command : Warehouse.Command) :
    run.Supplied start command quayRows := by
  intro number _
  refine ⟨[], _, by rw [answer]; rfl, ?_, fun fetches => ⟨2 * fetches + 1, by omega, ?_⟩⟩
  · rw [own]
    exact lowered
  · have odd : (2 * fetches + 1) % 2 = 1 := by omega
    simp [odd]

theorem rewind_restarts_amid_rows :
    ∃ opened s' next, quay.Opens quaySession opened s' ∧
      (fetchNext ⟨opened, s', .empty⟩).2.rewind = (.ok true, next) ∧
      Restarts quay opened (fetchNext ⟨opened, s', .empty⟩).2 next ∧
      ∃ features stats, next.ReadsOut features stats ∧ ReadsOut ⟨opened, s', .empty⟩ features stats := by
  have answer : (quay.action.run quaySession).2.answer = quaySession.answer :=
    (Scan.stream_precedes quay.base quay.spec quay.request quaySession).answer
  have course : (quay.action.run quaySession).1.toOption.map (fun scan =>
      let run := (fetchNext ⟨scan, (quay.action.run quaySession).2, .empty⟩).2
      (scan.cancel, run.scan.cancel, run.scan.phase.name, run.rewind.1.toOption)) =
        some (.own .lowered, .own ⟨1, none⟩, "Streaming", some true) := by
    decide +kernel
  rcases found : quay.action.run quaySession with ⟨outcome, s'⟩
  rw [found] at course answer
  cases outcome with
  | error e => cases course
  | ok opened =>
    simp only [Except.toOption, Option.map_some, Option.some.injEq, Prod.mk.injEq] at course
    obtain ⟨own, own', streaming, succeeded⟩ := course
    have opens : quay.Opens quaySession opened s' := ⟨opened, opened.publication, opened.cancel, found, rfl⟩
    let begun : Run := ⟨opened, s', .empty⟩
    have since : Since opened begun (begun.used .fetchNext) := .used .fetchNext (by rintro ⟨⟩) (.opened s' .empty)
    have isOpen : begun.fetchNext.2.scan.phase ≠ .closed := by
      intro closed
      rw [closed] at streaming
      exact absurd streaming (by decide)
    rcases rewound : begun.fetchNext.2.rewind with ⟨outcome, next⟩
    rw [rewound] at succeeded
    cases outcome with
    | error e => cases succeeded
    | ok isRestarted =>
      obtain ⟨-, -, leaves⟩ := rewind_restarts quay opens since
      obtain ⟨rfl, restarts⟩ := leaves isRestarted next isOpen rewound
      refine ⟨opened, s', next, opens, rewound, restarts, ?_⟩
      refine restarts.again opened quaySession s' .empty opens rfl fun command _ => ⟨quayRows, ?_, ?_⟩
      · have onward : s'.Precedes begun.fetchNext.2.session := (precedes_lasting s').fetchNext (.refl s')
        exact quay_supplied (onward.answer.trans answer) own' rfl _ _
      · exact quay_supplied answer own rfl _ _

end Run

end FeatureLayers
