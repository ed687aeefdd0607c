import FeatureLayers.Program.Commands
import FeatureLayers.Proofs.Scan.Identifiers

namespace FeatureLayers

theorem Scan.Opening.Began.isOpen {o : Opening} {session session' : Warehouse.Session} {scan : Scan}
    (began : o.Began session scan session') : scan.phase ≠ .closed := by
  cases began with
  | streams live found transformed same =>
    subst same
    exact nofun
  | replays loaded found transformed selected same =>
    subst same
    exact nofun

namespace Program

open Warehouse.Action (run_bind bind_ok)

variable {α β : Type}

namespace Action

theorem ofLayer_run (action : Layer.Action α) (stage : Stage) : (ofLayer action).run stage =
    match action.run stage.session with
      | (.ok a, session) => (.ok a, { stage with session })
      | (.error e, session) => (.error (.ofLayer e), { stage with session }) := by
  have unfolded : (ofLayer action).run stage = ((action.run stage.session).1.mapError Failure.ofLayer,
      { stage with session := (action.run stage.session).2 }) := rfl
  rw [unfolded]
  rcases action.run stage.session with ⟨result, session⟩
  cases result <;> rfl

theorem ofLayer_ok {action : Layer.Action α} {stage final : Stage} {a : α}
    (h : (ofLayer action).run stage = (.ok a, final)) : action.run stage.session = (.ok a, final.session) := by
  rw [ofLayer_run] at h
  split at h
  · rename_i a session done
    cases h
    exact done
  · cases h

def Quiet (action : Action α) : Prop := ∀ stage, (action.run stage).2.printed = stage.printed

namespace Quiet

theorem pure (a : α) : Quiet (pure a) := fun _ => rfl

theorem ofExcept (result : Except Failure α) : Quiet (ofExcept result) := fun _ => rfl

theorem ofLayer (action : Layer.Action α) : Quiet (ofLayer action) := fun _ => rfl

theorem bind {action : Action α} {next : α → Action β} (first : Quiet action) (second : ∀ a, Quiet (next a)) :
    Quiet (action >>= next) := by
  intro stage
  rw [run_bind]
  have before := first stage
  split
  · rename_i a middle same
    rw [same] at before
    exact (second a middle).trans before
  · rename_i failure middle same
    rwa [same] at before

theorem failingWith (what : String) (result : Except Warehouse.Error Unit) : Quiet (failingWith what result) := by
  cases result <;> exact fun _ => rfl

theorem connect (connector : Connector) (name : String) (parameters : Parameters) :
    Quiet (connect connector name parameters) := by
  unfold Action.connect
  dsimp only
  split
  · exact fun _ => rfl
  · refine bind (fun _ => rfl) fun _ => bind (failingWith _ _) fun _ => bind (fun _ => rfl) fun _ => ?_
    split
    · exact bind (fun _ => rfl) fun _ => bind (failingWith _ _) fun _ => ofLayer _
    · exact ofLayer _

end Quiet

end Action

namespace Setting

open FeatureLayers.Program.Action (Quiet)

variable (s : Setting) {a : CommandLine.SourceArguments}

theorem openSession_quiet (name : String) : Quiet (s.openSession name) :=
  .bind (.ofExcept _) fun _ => .bind (.connect _ _ _) fun _ => .pure _

theorem openLayer_quiet (a : CommandLine.SourceArguments) : Quiet (s.openLayer a) := by
  refine .bind (.ofExcept _) fun d => .bind (s.openSession_quiet _) fun endpoint => .bind (.ofLayer _) fun layer => ?_
  dsimp only
  split
  · exact .pure _
  · refine .bind (.ofLayer _) fun answer => ?_
    split
    · exact .bind (.ofLayer _) fun _ => .pure _
    · exact .pure _

theorem openLayer_ok {stage opened : Stage} {l : Layer} (opens : (s.openLayer a).run stage = (.ok l, opened)) :
    l.store.features = none ∧ ∀ key, l.base.primaryKey = some key → key < l.fields.length := by
  obtain ⟨d, stage₁, described, h⟩ := bind_ok opens
  obtain ⟨endpoint, stage₂, connected, h⟩ := bind_ok h
  obtain ⟨fresh, stage₃, built, h⟩ := bind_ok h
  have isFresh := Layer.ofDescriptor_fresh (Action.ofLayer_ok built)
  have unloaded : fresh.store.features = none := congrArg Store.features isFresh.store
  dsimp only at h
  split at h
  · cases h
    exact ⟨unloaded, isFresh.keyed⟩
  · obtain ⟨⟨isAccepted, l'⟩, stage₄, filtered, h⟩ := bind_ok h
    obtain rfl : l' = l := by
      dsimp only at h
      split at h
      · obtain ⟨⟨⟩, stage₅, noted, h⟩ := bind_ok h
        cases h
        rfl
      · cases h
        rfl
    rcases Layer.setSubset_ok (Action.ofLayer_ok filtered) with rfl | rfl
    · exact ⟨unloaded, isFresh.keyed⟩
    · refine ⟨rfl, fun key primary => ?_⟩
      simp only [Layer.refiltered_fields, Layer.refiltered_primaryKey] at primary ⊢
      exact isFresh.keyed key primary

variable {o : Scan.Opening} {session session' : Warehouse.Session} {begun : Scan} {origin run : Run}

theorem linesFrom_since (names : List String) (began : o.Began session begun session')
    (isOpen : origin.scan.phase ≠ .closed) (since : Run.Since begun origin run) (bound : Nat) (lines : List String) :
    ∃ features, run.scan.cache.toList ++ features <+: origin.scan.due ∧
      (linesFrom names bound lines run).2.1 = (features.map (Feature.line names)).reverse ++ lines ∧
      run.session.Precedes (linesFrom names bound lines run).2.2.session := by
  have nothing : run.scan.cache.toList ++ [] <+: origin.scan.due := by
    rw [List.append_nil]
    exact (List.prefix_append _ _).trans (since.owes began isOpen).within
  induction bound generalizing run lines with
  | zero => exact ⟨[], nothing, rfl, .refl _⟩
  | succ bound ih =>
    have onward : run.session.Precedes run.fetchNext.2.session := (Run.precedes_lasting run.session).fetchNext (.refl _)
    rw [linesFrom]
    rcases fetched : run.fetchNext with ⟨e | found, next⟩
    · rw [fetched] at onward
      exact ⟨[], nothing, rfl, onward⟩
    cases found with
    | none =>
      rw [fetched] at onward
      exact ⟨[], nothing, rfl, onward⟩
    | some feature =>
      have later : Run.Since begun origin run.fetchNext.2 := since.used .fetchNext nofun
      rw [fetched] at later onward
      have cached := (Run.fetchNext_some fetched).1
      obtain ⟨features, within, printed, further⟩ := ih later (feature.line names :: lines)
        (by rw [List.append_nil]; exact (List.prefix_append _ _).trans (later.owes began isOpen).within)
      refine ⟨feature :: features, ?_, ?_, onward.trans further⟩
      · rwa [cached, List.append_assoc] at within
      · rw [printed, List.map_cons, List.reverse_cons, List.append_assoc]
        rfl

theorem printFeatures_run (names : List String) (limit : Option Nat) (l : Layer) (scan : Scan) (stage : Stage) :
    let run : Run := ⟨scan, stage.session, l.store⟩
    let bound := limit.elim (run.remaining + 1) (min (run.remaining + 1))
    ((printFeatures names limit l scan).run stage).2 = { stage with
      session := (linesFrom names bound [] run).2.2.close.session
      printed := stage.printed ++ (linesFrom names bound [] run).2.1.reverse } := rfl

/-- What is printed of a scan that was just opened are features that lie before it, from the first one on. -/
theorem printFeatures_prints (names : List String) (limit : Option Nat) (l : Layer)
    (began : o.Began session begun session') (stage : Stage) :
    let final := ((printFeatures names limit l begun).run stage).2
    ∃ features, features <+: begun.due ∧
      final.printed.toList = stage.printed.toList ++ features.map (Feature.line names) ∧
      stage.session.Precedes final.session := by
  intro final
  let run : Run := ⟨begun, stage.session, l.store⟩
  let bound := limit.elim (run.remaining + 1) (min (run.remaining + 1))
  obtain ⟨features, within, lines, onward⟩ :=
    linesFrom_since names began began.isOpen (.opened stage.session l.store) bound []
  have left : final = _ := printFeatures_run names limit l begun stage
  refine ⟨features, ?_, ?_, ?_⟩
  · rwa [began.isNew.cache] at within
  · rw [congrArg Stage.printed left]
    show (stage.printed ++ (linesFrom names bound [] run).2.1.reverse).toList = _
    rw [lines, List.append_nil, List.reverse_reverse, Array.toList_appendList]
  · rw [congrArg Stage.session left]
    exact onward.trans (Run.close_precedes _)

/-- A scan prints the lines of features that lay before it when it was opened, from the first one on. -/
theorem scan_prints {a : CommandLine.ScanArguments} {stage opened : Stage} {l : Layer} {request : Request}
    (opens : (s.openLayer a.source).run stage = (.ok l, opened)) (asks : a.request = .ok request) :
    let final := ((s.scan a).run stage).2
    ∃ features, final.printed.toList = stage.printed.toList ++
        features.map (Feature.line (request.attributes.getD (l.fields.map (·.name)))) ∧
      (features ≠ [] → ∃ begun session, (l.getFeatures request).run opened.session = (.ok begun, session) ∧
        features <+: begun.due ∧ session.Precedes final.session) := by
  have unprinted : opened.printed = stage.printed := by
    have quiet := s.openLayer_quiet a.source stage
    rwa [opens] at quiet
  have asked : (Action.ofExcept a.request).run opened = (.ok request, opened) := by
    rw [asks]
    rfl
  unfold Setting.scan
  rw [run_bind, opens]
  dsimp only
  rw [run_bind, asked]
  dsimp only
  rw [run_bind, Action.ofLayer_run]
  rcases gets : (l.getFeatures request).run opened.session with ⟨e | begun, session⟩
  · exact ⟨[], by simp [unprinted], fun written => (written rfl).elim⟩
  let names := request.attributes.getD (l.fields.map (·.name))
  obtain ⟨loaded, begins⟩ := Layer.getFeatures_opens gets
  obtain ⟨features, first, printed, onward⟩ :=
    printFeatures_prints names a.limit l begins.began { opened with session }
  dsimp only
  rw [run_bind]
  -- Printing may fail on a feature; what was printed until then stays.
  rcases outcome : (printFeatures names a.limit l begun).run { opened with session } with ⟨result, last⟩
  rw [outcome] at printed onward
  dsimp only at printed
  rw [unprinted] at printed
  cases result with
  | error failure => exact ⟨features, printed, fun _ => ⟨begun, session, rfl, first, onward⟩⟩
  | ok done => exact ⟨features, printed, fun _ => ⟨begun, session, rfl, first, onward.trans (.note _ _ _ _)⟩⟩

end Setting

end Program

end FeatureLayers
