import FeatureLayers.Proofs.Layer.Loading
import FeatureLayers.Proofs.Scan.Cursors
import FeatureLayers.Proofs.Scan.ReadingOut

namespace FeatureLayers

open Warehouse (Session)

structure Scan.Remains (opened s : Scan) : Prop where
  work : s.work = opened.work
  endpoint : s.endpoint = opened.endpoint
  transform : s.transform = opened.transform
  size : s.batchSize = opened.batchSize

namespace Scan

structure Opening where
  base : ScanBase
  spec : Option GeometryColumn
  request : Request
  loaded : Option (List Feature)

namespace Opening

def action (o : Opening) : Layer.Action Scan :=
  match o.loaded with
  | none => stream o.base o.spec o.request
  | some features => replay o.base o.spec features o.request

/-- A scan as it was opened in a session, to publish or not, and to listen to whatever flag. -/
def Opens (o : Opening) (s : Session) (scan : Scan) (s' : Session) : Prop :=
  ∃ found publication cancel, o.action.run s = (.ok found, s') ∧ scan = { found with publication, cancel }

inductive Began (o : Opening) (s : Session) (scan : Scan) (s' : Session) : Prop
  | streams {spec transform statement columns rows disturbance number publication cancel}
      (live : o.loaded = none) (found : o.spec = some spec)
      (transformed : transformFor o.base spec o.request = .ok transform)
      (same : scan = { begun o.base spec statement
        (.of statement.layout o.base.fields spec.encoding transform) transform (.ofReply columns rows disturbance) with
        publication, cancel })
      (answer : s'.answer = s.answer) (since : s.log.size ≤ number)
      (sent : s'.log.back? = some (o.base.endpoint.command statement.toSql))
      (answered : s.answer number (o.base.endpoint.command statement.toSql) = .rows columns rows disturbance)
  | replays {spec transform features selection publication cancel}
      (loaded : o.loaded = some features) (found : o.spec = some spec)
      (transformed : transformFor o.base spec o.request = .ok transform)
      (selected : selectionFor o.base o.request transform = .ok selection)
      (same : scan = { idle o.base spec (.replay features selection) transform with
        phase := .replaying features, publication, cancel })

variable {o : Opening} {s s' : Session} {scan : Scan}

theorem Opens.began (opens : o.Opens s scan s') : o.Began s scan s' := by
  obtain ⟨found, publication, cancel, opened, rfl⟩ := opens
  unfold action at opened
  split at opened
  · rename_i live
    obtain ⟨spec, transform, statement, columns, rows, disturbance, number, found, transformed, rfl, answer, sent,
      since, answered⟩ := stream_began opened
    exact .streams live found transformed rfl answer since sent answered
  · rename_i features loaded
    obtain ⟨spec, transform, selection, found, transformed, selected, rfl, -⟩ := replay_ok opened
    exact .replays loaded found transformed selected rfl

theorem Began.isNew (began : o.Began s scan s') : scan.IsNew := by
  cases began with
  | streams live found transformed same =>
    subst same
    exact ⟨rfl, rfl, rfl⟩
  | replays loaded found transformed selected same =>
    subst same
    exact ⟨rfl, rfl, rfl⟩

theorem Began.planned {s₂ s₃ : Session} {fresh : Scan} (began : o.Began s scan s') (again : o.Began s₂ fresh s₃)
    (same : fresh.statement? = scan.statement?) : scan.Remains fresh := by
  cases began with
  | streams live found transformed opened =>
    cases again with
    | streams live' found' transformed' opened' =>
      subst opened opened'
      cases found.symm.trans found'
      cases transformed.symm.trans transformed'
      cases same
      exact ⟨rfl, rfl, rfl, rfl⟩
    | replays loaded => cases live.symm.trans loaded
  | replays loaded found transformed selected opened =>
    cases again with
    | streams live => cases live.symm.trans loaded
    | replays loaded' found' transformed' selected' opened' =>
      subst opened opened'
      cases loaded.symm.trans loaded'
      cases found.symm.trans found'
      cases transformed.symm.trans transformed'
      cases selected.symm.trans selected'
      exact ⟨rfl, rfl, rfl, rfl⟩

theorem Began.replaying {features : List Feature} {selection : Selection} (began : o.Began s scan s')
    (work : scan.work = .replay features selection) : scan.phase = .replaying features := by
  cases began with
  | streams live found transformed same =>
    subst same
    cases work
  | replays loaded found transformed selected same =>
    subst same
    cases work
    rfl

theorem Began.holdsCursor (began : o.Began s scan s') : scan.HoldsCursor := by
  cases began with
  | streams live found transformed same =>
    subst same
    exact Scan.holdsCursor_streaming rfl ⟨rfl, rfl⟩
  | replays loaded found transformed selected same =>
    subst same
    exact Scan.holdsCursor_idle rfl

end Opening

end Scan

theorem Layer.getFeatures_opens {l : Layer} {request : Request} {s s' : Session} {scan : Scan}
    (opened : (l.getFeatures request).run s = (.ok scan, s')) :
    ∃ loaded, Scan.Opening.Opens ⟨l.base, l.spec, request, loaded⟩ s scan s' := by
  rcases getFeatures_ok opened with ⟨features, loaded, replays⟩ | ⟨streaming, streams, rfl⟩
  · exact ⟨some features, scan, scan.publication, scan.cancel, replays, rfl⟩
  · split
    · exact ⟨none, streaming, some l.store.generation, streaming.cancel, streams, rfl⟩
    · exact ⟨none, streaming, streaming.publication, streaming.cancel, streams, rfl⟩

theorem Layer.getFeatures_sends {l : Layer} {request : Request} {s s' : Session} {scan : Scan}
    {statement : Query.Statement} (opened : (l.getFeatures request).run s = (.ok scan, s'))
    (asked : scan.statement? = some statement) :
    s'.log.back? = some (l.base.endpoint.command statement.toSql) := by
  obtain ⟨loaded, opens⟩ := getFeatures_opens opened
  cases opens.began with
  | streams live found transformed same answer since sent answered =>
    subst same
    cases asked
    exact sent
  | replays loaded found transformed selected same =>
    subst same
    cases asked

namespace Run

/--
Any use of a scan that was opened, and whatever others make of its session and of the store. The origin is the scan as it
was opened, or as its last rewind left it.
-/
inductive Since (opened : Scan) : (origin run : Run) → Prop
  | opened (session : Session) (store : Store) : Since opened ⟨opened, session, store⟩ ⟨opened, session, store⟩
  | elsewhere {origin run : Run} (session : Session) (store : Store) (since : Since opened origin run) :
      Since opened origin { run with session, store }
  | used {origin run : Run} (use : Use) (goesOn : use ≠ .rewind) (since : Since opened origin run) :
      Since opened origin (run.used use)
  | rewound {origin run : Run} (since : Since opened origin run) : Since opened run.rewind.2 run.rewind.2

variable {opened : Scan} {origin run : Run}

theorem remains_lasting (opened : Scan) : Lasting fun run => opened.Remains run.scan where
  silent move remains := by
    cases move with
    | skip => exact { remains with }
    | refill phase work clear fetched =>
      obtain ⟨cancel, flag, rfl⟩ := pollCancel_flags clear
      exact { remains with }
    | refuse => exact { remains with }
  concludes move remains := by
    cases move with
    | yields => exact { remains with }
    | shows => exact { remains with }
    | drains | ends =>
      rw [finish_scan]
      exact { remains with }
    | cancels phase work raised =>
      obtain ⟨cancel, flag, rfl⟩ := pollCancel_flags raised
      rw [close_scan]
      exact { remains with }
    | fails phase work clear failed =>
      obtain ⟨cancel, flag, rfl⟩ := pollCancel_flags clear
      exact { remains with }
    | rests => exact remains

theorem remains_rewind (remains : opened.Remains run.scan) : opened.Remains run.rewind.2.scan := by
  by_cases phase : run.scan.phase = .closed
  · rw [rewind_closed phase]
    exact remains
  have restarted : opened.Remains run.restarted.scan := by
    rw [restarted_scan]
    exact { remains with }
  cases work : run.scan.work with
  | replay features selection =>
    rw [rewind_replay phase work]
    exact { restarted with }
  | statement statement decoder =>
    rw [rewind_run phase work]
    dsimp only
    split
    · exact restarted
    · exact { restarted with }

theorem remains_used (remains : opened.Remains run.scan) (use : Use) : opened.Remains (run.used use).scan := by
  cases use with
  | fetchNext => exact (remains_lasting opened).fetchNext remains
  | featureAt position => exact (remains_lasting opened).featureAt position remains
  | collectRemaining => exact (remains_lasting opened).collectRemaining remains
  | rewind => exact remains_rewind remains
  | close =>
    unfold used
    rw [close_scan]
    exact { remains with }
  | takeMaterialized => exact { remains with }
  | cancel polls =>
    unfold used cancelAfter
    dsimp only
    split
    · exact { remains with }
    · exact remains

theorem used_precedes (run : Run) (use : Use) : run.session.Precedes (run.used use).session := by
  cases use with
  | fetchNext => exact (precedes_lasting run.session).fetchNext (.refl _)
  | featureAt position => exact (precedes_lasting run.session).featureAt position (.refl _)
  | collectRemaining => exact (precedes_lasting run.session).collectRemaining (.refl _)
  | rewind => exact run.rewind_precedes
  | close => exact run.close_precedes
  | takeMaterialized => exact .refl _
  | cancel polls =>
    unfold used cancelAfter
    dsimp only
    split
    · exact .refl _
    · exact .of_eq rfl rfl

theorem Since.remains (since : Since opened origin run) : opened.Remains run.scan := by
  induction since with
  | opened => exact ⟨rfl, rfl, rfl, rfl⟩
  | elsewhere session store since ih => exact ih
  | used use goesOn since ih => exact remains_used ih use
  | rewound since ih => exact remains_rewind ih

theorem Since.holdsCursor (holds : opened.HoldsCursor) (since : Since opened origin run) : run.scan.HoldsCursor := by
  induction since with
  | opened => exact holds
  | elsewhere session store since ih => exact ih
  | used use goesOn since ih => exact ((Balanced.refl ih).used use).holds
  | rewound since ih => exact (Balanced.refl ih).rewind.holds

end Run

end FeatureLayers
