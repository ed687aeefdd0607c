import FeatureLayers.Proofs.Scan.Collecting
import FeatureLayers.Proofs.Scan.Opening

namespace FeatureLayers.Run

def restarted (run : Run) : Run :=
  let run := run.releaseCursor.rearm
  { run with scan := { run.scan with cache := .empty, position := 0, stats := .start, phase := .exhausted } }

theorem restarted_scan (run : Run) : run.restarted.scan = { run.scan with
    cache := .empty, position := 0, stats := .start, phase := .exhausted,
    publication := run.scan.publication.map fun _ => run.store.generation + 1 } := by
  unfold restarted rearm
  rw [releaseCursor_scan, releaseCursor_store]
  cases publication : run.scan.publication with
  | none => simp [releaseCursor_scan, publication]
  | some generation => rfl

theorem restarted_store (run : Run) :
    run.restarted.store = if run.scan.publication.isSome then run.store.invalidate else run.store := by
  unfold restarted rearm
  rw [releaseCursor_scan, releaseCursor_store]
  cases publication : run.scan.publication with
  | none => exact run.releaseCursor_store
  | some generation => rfl

theorem restarted_precedes (run : Run) : run.session.Precedes run.restarted.session := by
  refine run.releaseCursor_precedes.trans ?_
  unfold restarted rearm
  split <;> exact .refl _

theorem restarted_session (run : Run) :
    run.restarted.session = { run.session with tracker := run.releaseCursor.session.tracker } := by
  have same : run.restarted.session = run.releaseCursor.session := by
    unfold restarted rearm
    split <;> rfl
  rw [same]
  unfold releaseCursor
  split <;> rfl

theorem rewind_closed {run : Run} (phase : run.scan.phase = .closed) : run.rewind = (.ok false, run) := by
  simp [rewind, phase]

theorem rewind_open {run : Run} (phase : run.scan.phase ≠ .closed) :
    run.rewind = match run.restarted.scan.work with
      | .replay features _ => (.ok true, (run.restarted.inPhase (.replaying features)).note .debug "Rewound")
      | .statement statement _ =>
        match (Scan.execute run.restarted.scan.endpoint statement).run run.restarted.session with
        | (.error e, session) => (.error e, { run.restarted with session })
        | (.ok phase, session) =>
          (.ok true, ({ run.restarted with session }.inPhase phase).note .debug "Rewound") := by
  unfold rewind
  split
  · rename_i closed
    exact (phase closed).elim
  all_goals rfl

theorem rewind_replay {run : Run} {features : List Feature} {selection : Selection} (isOpen : run.scan.phase ≠ .closed)
    (work : run.scan.work = .replay features selection) :
    run.rewind = (.ok true, (run.restarted.inPhase (.replaying features)).note .debug "Rewound") := by
  have same : run.restarted.scan.work = .replay features selection := by rw [restarted_scan, ← work]
  rw [rewind_open isOpen, same]

theorem rewind_run {run : Run} {statement : Query.Statement} {decoder : Decode.RowDecoder}
    (isOpen : run.scan.phase ≠ .closed) (work : run.scan.work = .statement statement decoder) :
    run.rewind =
      let command := run.scan.endpoint.command statement.toSql
      let sent := (run.restarted.session.note .info .scan "Executing feature query").logged command
      match run.session.answer run.session.log.size command with
      | .failure e => (.error (.warehouse e), { run.restarted with session := sent })
      | .rows columns rows disturbance =>
        let session := { sent with tracker := run.restarted.session.tracker.noteOpened }
        (.ok true, ({ run.restarted with session }.inPhase
          (.streaming (.ofReply columns rows disturbance) [] false)).note .debug "Rewound") := by
  have same : run.restarted.scan.work = .statement statement decoder := by rw [restarted_scan, ← work]
  have endpoint : run.restarted.scan.endpoint = run.scan.endpoint := by rw [restarted_scan]
  have answer : run.restarted.session.answer = run.session.answer := by rw [restarted_session]
  have log : run.restarted.session.log = run.session.log := by rw [restarted_session]
  rw [rewind_open isOpen, same, endpoint]
  dsimp only
  rw [Scan.execute_run, answer, log]
  dsimp only
  cases run.session.answer run.session.log.size (run.scan.endpoint.command statement.toSql) <;> rfl

theorem rewind_sends {run : Run} {statement : Query.Statement} (isOpen : run.scan.phase ≠ .closed)
    (asked : run.scan.statement? = some statement) :
    run.rewind.2.session.log.back? = some (run.scan.endpoint.command statement.toSql) := by
  obtain ⟨decoder, work⟩ : ∃ decoder, run.scan.work = .statement statement decoder := by
    unfold Scan.statement? at asked
    split at asked <;> cases asked
    exact ⟨_, by assumption⟩
  rw [rewind_run isOpen work]
  dsimp only
  split
  · exact Array.back?_push
  · exact Array.back?_push

/-- The statement fails, and the scan rests; or the scan streams the rows of its new answer. -/
theorem rewind_statement {run : Run} {statement : Query.Statement} {decoder : Decode.RowDecoder}
    (isOpen : run.scan.phase ≠ .closed) (work : run.scan.work = .statement statement decoder) :
    (∃ e session, run.rewind = (.error e, { run.restarted with session }) ∧
      run.restarted.session.Precedes session) ∨
    ∃ columns rows disturbance session number, run.rewind =
      (.ok true, ({ run.restarted with session }.inPhase
        (.streaming (.ofReply columns rows disturbance) [] false)).note .debug "Rewound") ∧
      run.restarted.session.Precedes session ∧
      session.Answered number (run.scan.endpoint.command statement.toSql) rows := by
  have same : run.restarted.scan.work = .statement statement decoder := by rw [restarted_scan, ← work]
  have endpoint : run.restarted.scan.endpoint = run.scan.endpoint := by rw [restarted_scan]
  have onward := Scan.execute_precedes run.scan.endpoint statement run.restarted.session
  rw [rewind_open isOpen, same, endpoint]
  dsimp only
  rcases executed : (Scan.execute run.scan.endpoint statement).run run.restarted.session with ⟨outcome, session⟩
  rw [executed] at onward
  cases outcome with
  | error e => exact .inl ⟨e, session, rfl, onward⟩
  | ok phase =>
    obtain ⟨columns, rows, disturbance, rfl, -, answered⟩ := Scan.execute_ok executed
    exact .inr ⟨columns, rows, disturbance, session, _, rfl, onward, answered⟩

theorem rewind_precedes (run : Run) : run.session.Precedes run.rewind.2.session := by
  by_cases phase : run.scan.phase = .closed
  · rw [rewind_closed phase]
    exact .refl _
  cases work : run.scan.work with
  | replay features selection =>
    rw [rewind_replay phase work]
    exact run.restarted_precedes.trans (.note _ _ _ _)
  | statement statement decoder =>
    rcases rewind_statement phase work with ⟨e, session, rewound, onward⟩ |
      ⟨columns, rows, disturbance, session, number, rewound, onward, -⟩
    · rw [rewound]
      exact run.restarted_precedes.trans onward
    · rw [rewound]
      exact run.restarted_precedes.trans (onward.trans (.note _ _ _ _))

theorem rewind_collects {run next last : Run} {statement : Query.Statement} {decoder : Decode.RowDecoder}
    {features : List Feature} (isOpen : run.scan.phase ≠ .closed) (work : run.scan.work = .statement statement decoder)
    (rewound : run.rewind = (.ok true, next)) (collected : next.collectRemaining = (.ok features, last))
    (ended : last.scan.phase = .exhausted) :
    ∃ rows number, last.session.Answered number (run.scan.endpoint.command statement.toSql) rows ∧
      features = decoder.features rows ∧
      last.store = run.restarted.store.offered run.restarted.scan.publication features := by
  rcases rewind_statement isOpen work with ⟨e, session, failed, -⟩ |
    ⟨columns, rows, disturbance, session, number, again, -, answered⟩
  · cases failed.symm.trans rewound
  have restart := run.restarted_scan
  have same : run.restarted.scan.work = .statement statement decoder := by rw [restart, ← work]
  obtain ⟨-, here⟩ := Prod.mk.inj (rewound.symm.trans again)
  have begun : Pass rows decoder run.restarted.scan.publication run.restarted.store next := by
    rw [here]
    exact .reading rfl same rfl rfl (.start rows decoder columns disturbance
      (congrArg Scan.position restart) (congrArg Scan.cache restart) (congrArg Scan.stats restart))
  have started : session.Precedes next.session := by
    rw [here]
    exact .note _ _ _ _
  have fresh : next.scan.cache.toList = [] := by
    rw [here]
    exact congrArg (Cache.toList ∘ Scan.cache) restart
  have onward := (precedes_lasting session).collectRemaining started
  rw [collected] at onward
  obtain ⟨all, stored⟩ := begun.collected fresh collected (by rw [ended]; nofun)
  exact ⟨rows, number, answered.later onward, all, stored⟩

end FeatureLayers.Run
