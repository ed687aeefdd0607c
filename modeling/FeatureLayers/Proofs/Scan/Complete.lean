import FeatureLayers.Proofs.Scan.Course

namespace FeatureLayers

open Warehouse (Session)

namespace Scan

/-- Every row of the result, or every feature, that the origin had before it was visited. -/
def Complete (origin s : Scan) : Prop :=
  match origin.phase, origin.work with
  | .streaming result _ _, _ => s.stats.rowsDecoded + s.stats.rowsSkipped = result.cursor.rows.length
  | .replaying features, .replay _ selection => s.stats.rowsDecoded = (features.filter selection.admits).length
  | _, _ => False

/-- How far a scan has come with what the origin had before it. -/
inductive Underway (origin s : Scan) : Prop
  | reading {statement decoder columns rows disturbance result buffer isDrained}
      (began : origin.phase = .streaming (.ofReply columns rows disturbance) [] false)
      (phase : s.phase = .streaming result buffer isDrained) (work : s.work = .statement statement decoder)
      (reads : s.Reads rows decoder result buffer isDrained)
  | showing {features selection before rest}
      (began : origin.phase = .replaying features) (replays : origin.work = .replay features selection)
      (phase : s.phase = .replaying rest) (work : s.work = .replay features selection)
      (split : features = before ++ rest) (counted : s.stats.rowsDecoded = (before.filter selection.admits).length)
  | ended (phase : s.phase = .exhausted) (complete : Complete origin s)
  | empty (began : origin.phase = .exhausted) (phase : s.phase = .exhausted)
  | broken (phase : s.phase = .closed)

theorem Underway.touched {origin s : Scan} (underway : origin.Underway s) {cache : Cache}
    (kept : s.cache.isComplete = false → cache = s.cache) (cancel : CancelSource) :
    origin.Underway { s with cache, cancel } := by
  cases underway with
  | reading began phase work reads =>
    obtain rfl := kept reads.unfinished
    exact .reading began phase work { reads with }
  | showing began replays phase work split counted => exact .showing began replays phase work split counted
  | ended phase complete => exact .ended phase complete
  | empty began phase => exact .empty began phase
  | broken phase => exact .broken phase

end Scan

namespace Run

open Scan (Complete Underway)

variable {origin opened : Scan} {start run next : Run}

theorem underway_silent (underway : origin.Underway run.scan) (move : Silent run next) :
    origin.Underway next.scan := by
  cases underway with
  | reading began phase work reads =>
    cases move with
    | skip phase' work' undecoded =>
      cases phase.symm.trans phase'
      cases work.symm.trans work'
      exact .reading began rfl work { reads.skip undecoded with }
    | refill phase' work' clear fetched =>
      cases phase.symm.trans phase'
      obtain ⟨cancel, flag, rfl⟩ := pollCancel_flags clear
      exact .reading began rfl work { reads.refill rfl fetched with }
    | refuse phase' => cases phase.symm.trans phase'
  | @showing features selection before rest began replays phase work split counted =>
    cases move with
    | @refuse feature rest _ _ phase' work' refused =>
      cases phase.symm.trans phase'
      cases work.symm.trans work'
      have sofar : (before ++ [feature]).filter selection.admits = before.filter selection.admits := by
        simp [List.filter_append, refused]
      exact .showing began replays rfl work (split.trans (List.append_cons ..)) (by rw [sofar]; exact counted)
    | _ phase' => cases phase.symm.trans phase'
  | ended phase => cases move with | _ phase' => cases phase.symm.trans phase'
  | empty began phase => cases move with | _ phase' => cases phase.symm.trans phase'
  | broken phase => cases move with | _ phase' => cases phase.symm.trans phase'

theorem underway_concludes {outcome : Except Layer.Error (Option Feature)} (underway : origin.Underway run.scan)
    (move : Concludes run outcome next) : origin.Underway next.scan := by
  cases underway with
  | reading began phase work reads =>
    cases move with
    | yields phase' work' decoded =>
      cases phase.symm.trans phase'
      cases work.symm.trans work'
      exact .reading began rfl work { reads.yield decoded with }
    | drains phase' work' =>
      cases phase.symm.trans phase'
      rw [finish_scan]
      refine .ended rfl ?_
      unfold Complete
      rw [began]
      exact reads.counted.trans reads.finished.1
    | cancels phase' work' raised =>
      rw [close_scan]
      exact .broken rfl
    | fails phase' work' clear failed =>
      cases phase.symm.trans phase'
      obtain ⟨cancel, flag, rfl⟩ := pollCancel_flags clear
      exact .reading began rfl work { reads.fail failed with }
    | rests idle => simp [IsActive, phase, work] at idle
    | shows phase' => cases phase.symm.trans phase'
    | ends phase' => cases phase.symm.trans phase'
  | @showing features selection before rest began replays phase work split counted =>
    cases move with
    | @shows feature rest _ _ phase' work' admitted =>
      cases phase.symm.trans phase'
      cases work.symm.trans work'
      have sofar : (before ++ [feature]).filter selection.admits = before.filter selection.admits ++ [feature] := by
        simp [List.filter_append, admitted]
      refine .showing began replays rfl work (split.trans (List.append_cons ..)) ?_
      rw [sofar, List.length_append, ← counted]
      rfl
    | ends phase' work' =>
      cases phase.symm.trans phase'
      rw [finish_scan]
      refine .ended rfl ?_
      unfold Complete
      rw [began, replays, split, List.append_nil]
      exact counted
    | rests idle => simp [IsActive, phase, work] at idle
    | _ phase' => cases phase.symm.trans phase'
  | ended phase complete =>
    cases move with
    | rests idle => exact .ended phase complete
    | _ phase' => cases phase.symm.trans phase'
  | empty began phase =>
    cases move with
    | rests idle => exact .empty began phase
    | _ phase' => cases phase.symm.trans phase'
  | broken phase =>
    cases move with
    | rests idle => exact .broken phase
    | _ phase' => cases phase.symm.trans phase'

theorem underway_lasting (origin : Scan) : Lasting fun run => origin.Underway run.scan where
  silent move underway := underway_silent underway move
  concludes move underway := underway_concludes underway move

theorem underway_used {use : Use} (underway : origin.Underway run.scan) (goesOn : use ≠ .rewind) :
    origin.Underway (run.used use).scan := by
  cases use with
  | fetchNext => exact (underway_lasting origin).fetchNext underway
  | featureAt position => exact (underway_lasting origin).featureAt position underway
  | collectRemaining => exact (underway_lasting origin).collectRemaining underway
  | rewind => exact (goesOn rfl).elim
  | close =>
    unfold used
    rw [close_scan]
    exact .broken rfl
  | takeMaterialized =>
    have kept : run.scan.cache.isComplete = false → run.scan.cache.take.2 = run.scan.cache := by
      intro unfinished
      simp [Cache.take, unfinished]
    exact underway.touched kept run.scan.cancel
  | cancel polls =>
    unfold used cancelAfter
    dsimp only
    split
    · exact underway.touched (fun _ => rfl) _
    · exact underway

theorem underway_opened {o : Scan.Opening} {s s' : Session} (began : o.Began s opened s') :
    opened.Underway opened := by
  cases began with
  | @streams spec transform statement columns rows disturbance number publication cancel live found transformed same =>
    subst same
    exact .reading rfl rfl rfl (.start rows _ columns disturbance rfl rfl rfl)
  | @replays spec transform features selection publication cancel loaded found transformed selected same =>
    subst same
    exact .showing rfl rfl rfl rfl (List.nil_append features).symm rfl

theorem underway_rewound (run : Run) : run.rewind.2.scan.Underway run.rewind.2.scan := by
  by_cases phase : run.scan.phase = .closed
  · rw [rewind_closed phase]
    exact .broken phase
  have restart := run.restarted_scan
  cases work : run.scan.work with
  | replay features selection =>
    rw [rewind_replay phase work]
    have same := (congrArg Scan.work restart).trans work
    exact .showing rfl same rfl same (List.nil_append features).symm
      (congrArg (fun s : Scan => s.stats.rowsDecoded) restart)
  | statement statement decoder =>
    have same := (congrArg Scan.work restart).trans work
    rw [rewind_run phase work]
    dsimp only
    split
    · exact .empty (congrArg Scan.phase restart) (congrArg Scan.phase restart)
    · rename_i columns rows disturbance reply
      exact .reading rfl rfl same (.start rows decoder columns disturbance (congrArg Scan.position restart)
        (congrArg Scan.cache restart) (congrArg Scan.stats restart))

theorem Since.underway {o : Scan.Opening} {s s' : Session} (began : o.Began s opened s')
    (since : Since opened start run) : start.scan.Underway run.scan := by
  induction since with
  | opened => exact underway_opened began
  | elsewhere session store since ih => exact ih
  | used use goesOn since ih => exact underway_used ih goesOn
  | rewound since ih => exact underway_rewound _

/-- A rewind that fails leaves a scan that is at an end already, and has visited nothing. -/
theorem rewind_error {e : Layer.Error} (failed : run.rewind = (.error e, next)) :
    next.scan.phase = .exhausted ∧ next.scan.stats = .start := by
  have isOpen : run.scan.phase ≠ .closed := by
    intro closed
    cases (rewind_closed closed).symm.trans failed
  have restart := run.restarted_scan
  cases work : run.scan.work with
  | replay features selection => cases (rewind_replay isOpen work).symm.trans failed
  | statement statement decoder =>
    rw [rewind_run isOpen work] at failed
    dsimp only at failed
    split at failed
    · cases failed
      exact ⟨congrArg Scan.phase restart, congrArg Scan.stats restart⟩
    · cases failed

theorem Since.failed {o : Scan.Opening} {s s' : Session} (began : o.Began s opened s')
    (since : Since opened start run) (exhausted : start.scan.phase = .exhausted) :
    ∃ earlier before e, Since opened earlier before ∧ before.rewind = (.error e, start) := by
  induction since with
  | opened =>
    cases began with
    | streams live found transformed same =>
      subst same
      cases exhausted
    | replays loaded found transformed selected same =>
      subst same
      cases exhausted
  | elsewhere session store since ih => exact ih exhausted
  | used use goesOn since ih => exact ih exhausted
  | @rewound earlier before since ih =>
    rcases rewound : before.rewind with ⟨e | isRestarted, next⟩
    · exact ⟨earlier, before, e, since, rewound⟩
    · rw [rewound] at exhausted
      by_cases phase : before.scan.phase = .closed
      · cases (rewind_closed phase).symm.trans rewound
        cases phase.symm.trans exhausted
      · cases work : before.scan.work with
        | replay features selection =>
          cases (rewind_replay phase work).symm.trans rewound
          cases exhausted
        | statement statement decoder =>
          rw [rewind_run phase work] at rewound
          dsimp only at rewound
          split at rewound
          · cases rewound
          · cases rewound
            cases exhausted

/--
When a call says that the sequence has ended, and the scan was not closed, all was visited that there was to read since
the scan was opened or last rewound, unless that rewind failed. A scan whose rewind failed says at once that the sequence
has ended, and has visited nothing.
-/
theorem ended_is_complete_unless_rewind_failed (o : Scan.Opening) {s s' : Session} (opens : o.Opens s opened s')
    (since : Since opened start run) :
    (∀ next, run.fetchNext = (.ok none, next) → next.scan.phase ≠ .closed →
      start.scan.Complete next.scan ∨
        ∃ earlier before e, Since opened earlier before ∧ before.rewind = (.error e, start)) ∧
    ∀ e failed, run.rewind = (.error e, failed) →
      failed.fetchNext = (.ok none, failed) ∧ failed.scan.phase = .exhausted ∧ failed.scan.stats = .start := by
  have began := opens.began
  refine ⟨fun next ended isOpen => ?_, fun e failed fails => ?_⟩
  · -- Of the ways to be underway, only an end, complete or not, and a closed scan leave nothing to do for a call.
    have idle := (fetchNext_none ended).2
    have underway : start.scan.Underway next.scan := by
      have kept := (underway_lasting start.scan).fetchNext (since.underway began)
      rwa [ended] at kept
    cases underway with
    | reading began phase work => simp [IsActive, phase, work] at idle
    | showing began replays phase work => simp [IsActive, phase, work] at idle
    | ended phase complete => exact .inl complete
    | empty exhausted => exact .inr (since.failed began exhausted)
    | broken phase => exact (isOpen phase).elim
  · obtain ⟨phase, stats⟩ := rewind_error fails
    exact ⟨by simp [fetchNext, phase], phase, stats⟩

def jetty : Scan.Opening where
  base := ⟨⟨"c", .unset⟩, .query "q", [], none, none, none, 2, []⟩
  spec := some ⟨"G", .geometry, some .point, some 4326⟩
  request := .all
  loaded := none

def jettySession : Session := .start fun number _ => match number with
  | 0 => .rows [] [[.null, .null, .int 7]] fun _ => .none
  | _ + 1 => .failure ⟨390, "session gone"⟩

theorem ended_is_complete_on_jetty :
    ∃ opened s' last next e failed, jetty.Opens jettySession opened s' ∧
      (fetchNext ⟨opened, s', .empty⟩).2 = last ∧ last.fetchNext = (.ok none, next) ∧
      (opened.Complete next.scan ∨
        ∃ earlier before e, Since opened earlier before ∧ before.rewind = (.error e, ⟨opened, s', .empty⟩)) ∧
      last.rewind = (.error e, failed) ∧ failed.fetchNext = (.ok none, failed) ∧ failed.scan.stats = .start := by
  have course : (jetty.action.run jettySession).1.toOption.map (fun scan =>
      let last := (fetchNext ⟨scan, (jetty.action.run jettySession).2, .empty⟩).2
      (last.rewind.1.toOption, last.fetchNext.1.toOption.map Option.isSome, last.fetchNext.2.scan.phase.name)) =
        some (none, some false, "Exhausted") := by
    decide +kernel
  rcases found : jetty.action.run jettySession with ⟨outcome, s'⟩
  rw [found] at course
  cases outcome with
  | error e => cases course
  | ok opened =>
    simp only [Except.toOption, Option.map_some, Option.some.injEq, Prod.mk.injEq] at course
    obtain ⟨fails, ends, exhausted⟩ := course
    have opens : jetty.Opens jettySession opened s' := ⟨opened, opened.publication, opened.cancel, found, rfl⟩
    let begun : Run := ⟨opened, s', .empty⟩
    have since : Since opened begun (begun.used .fetchNext) := .used .fetchNext (by rintro ⟨⟩) (.opened s' .empty)
    obtain ⟨complete, hidden⟩ := ended_is_complete_unless_rewind_failed jetty opens since
    rcases rewound : begun.fetchNext.2.rewind with ⟨e | isRestarted, failed⟩
    · rcases last : begun.fetchNext.2.fetchNext with ⟨e' | feature, next⟩
      · rw [last] at ends
        cases ends
      · rw [last] at ends exhausted
        obtain rfl : feature = none := by simpa using ends
        have isOpen : next.scan.phase ≠ .closed := by
          intro closed
          rw [closed] at exhausted
          exact absurd exhausted (by decide)
        obtain ⟨again, -, nothing⟩ := hidden e failed rewound
        exact ⟨opened, s', _, next, e, failed, opens, rfl, last, complete next last isOpen, rewound, again, nothing⟩
    · rw [rewound] at fails
      cases fails

/--
The warehouse has one row, and the rewind of a scan that has not read it fails. The scan then says that the sequence has
ended, without having visited the row.
-/
theorem failed_rewind_hides_unread_row :
    ¬ ∀ (o : Scan.Opening) (s s' : Session) (opened : Scan) (start run next : Run) (rows : List Row)
      (columns : List Column) (disturbance : Nat → Warehouse.Disturbance), o.Opens s opened s' →
      opened.phase = .streaming (.ofReply columns rows disturbance) [] false →
      (∀ number command columns answer disturbance, s.answer number command = .rows columns answer disturbance →
        answer = rows) →
      Since opened start run → run.fetchNext = (.ok none, next) → next.scan.phase ≠ .closed →
      next.scan.stats.rowsDecoded + next.scan.stats.rowsSkipped = rows.length := by
  intro always
  have course : (jetty.action.run jettySession).1.toOption.map (fun scan =>
      (scan.statement?.isSome,
        (rewind ⟨scan, (jetty.action.run jettySession).2, .empty⟩).1.toOption)) = some (true, none) := by
    decide +kernel
  rcases found : jetty.action.run jettySession with ⟨outcome, s'⟩
  rw [found] at course
  cases outcome with
  | error e => cases course
  | ok opened =>
    simp only [Except.toOption, Option.map_some, Option.some.injEq, Prod.mk.injEq] at course
    obtain ⟨streams, fails⟩ := course
    have opens : jetty.Opens jettySession opened s' := ⟨opened, opened.publication, opened.cancel, found, rfl⟩
    have answers : ∀ number command columns answer disturbance,
        jettySession.answer number command = .rows columns answer disturbance → answer = [[.null, .null, .int 7]] := by
      intro number command columns answer disturbance reply
      cases number <;> cases reply
      rfl
    obtain ⟨columns, disturbance, phase⟩ : ∃ columns disturbance,
        opened.phase = .streaming (.ofReply columns [[.null, .null, .int 7]] disturbance) [] false := by
      cases opens.began with
      | streams _ _ _ same _ _ _ answered =>
        subst same
        cases answers _ _ _ _ _ answered
        exact ⟨_, _, rfl⟩
      | replays _ _ _ _ same =>
        subst same
        cases streams
    rcases rewound : rewind ⟨opened, s', .empty⟩ with ⟨e | isRestarted, failed⟩
    · have since : Since opened failed failed := by
        have again := Since.rewound (.opened s' .empty : Since opened _ ⟨opened, s', .empty⟩)
        rwa [rewound] at again
      obtain ⟨exhausted, nothing⟩ := rewind_error rewound
      have ended : failed.fetchNext = (.ok none, failed) := by simp [fetchNext, exhausted]
      have visited := always jetty jettySession s' opened failed failed failed [[.null, .null, .int 7]] columns
        disturbance opens phase answers since ended (by rw [exhausted]; rintro ⟨⟩)
      rw [nothing] at visited
      cases visited
    · rw [rewound] at fails
      cases fails

end Run

end FeatureLayers
