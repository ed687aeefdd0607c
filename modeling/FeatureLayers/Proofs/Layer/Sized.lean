import FeatureLayers.Proofs.Layer.Loading
import FeatureLayers.Proofs.Layer.Statistics
import FeatureLayers.Proofs.Scan.Course

namespace FeatureLayers

open Warehouse (Session)

def Query.Statement.selection (statement : Query.Statement) : String :=
  "SELECT * FROM (SELECT " ++ commaList (statement.projection.map Query.Projected.text) ++ " FROM " ++
    statement.source.fromClause ++ " WHERE " ++ statement.guard ++ ")"

/-- A sample is taken behind all filters if there are at least as many rows as the cap, and else nothing stands there. -/
def Query.Statement.SampledFrom (rowCount cap : Nat) (statement : Query.Statement) : Prop :=
  if cap ≤ rowCount then
    statement.toSql = statement.selection ++ statement.filterText ++ " ORDER BY RANDOM() LIMIT " ++ intText cap
  else statement.orderLimit = none ∧ statement.toSql = statement.selection ++ statement.filterText

def Sampling.limitOf (rowCount cap : Nat) : Option Nat := if cap ≤ rowCount then some cap else none

theorem Settings.rowCap_eq (settings : Settings) (encoding : Encoding) : settings.rowCap encoding =
    if encoding = .cellId then settings.cellRowCap else settings.geometryRowCap := by
  cases encoding <;> rfl

theorem Sampling.ofRowCount_eq (settings : Settings) (encoding : Encoding) (rowCount : Nat) :
    ofRowCount settings encoding rowCount = ⟨rowCount, limitOf rowCount (settings.rowCap encoding)⟩ := by
  simp [ofRowCount, Settings.needsSampling, limitOf]

theorem Query.Statement.toSql_selection (statement : Query.Statement) :
    statement.toSql = statement.selection ++ statement.filterText ++ statement.orderLimit.getD "" := rfl

theorem Query.Statement.SampledFrom.ofLimit {rowCount cap : Nat} {statement : Query.Statement}
    (limit : statement.sampleLimit = Sampling.limitOf rowCount cap) : statement.SampledFrom rowCount cap := by
  unfold Sampling.limitOf at limit
  by_cases enough : cap ≤ rowCount
  · rw [if_pos enough] at limit
    have ordered : statement.orderLimit = some (samplingText cap) := by rw [orderLimit, limit, Option.map_some]
    have text : statement.toSql = statement.selection ++ statement.filterText ++ samplingText cap := by
      rw [toSql_selection, ordered, Option.getD_some]
    rw [SampledFrom, if_pos enough]
    exact text.trans String.append_assoc.symm
  · rw [if_neg enough] at limit
    have unordered : statement.orderLimit = none := by rw [orderLimit, limit, Option.map_none]
    have text : statement.toSql = statement.selection ++ statement.filterText ++ "" := by
      rw [toSql_selection, unordered, Option.getD_none]
    rw [SampledFrom, if_neg enough]
    exact ⟨unordered, text.trans String.append_empty⟩

namespace Run

structure Withheld (store : Store) (run : Run) : Prop where
  publication : run.scan.publication = none
  store : run.store = store

variable {store : Store} {run : Run}

theorem Withheld.lasting (store : Store) : Lasting (Withheld store) where
  silent move withheld := by
    cases move with
    | skip => exact { withheld with }
    | refill phase work clear fetched =>
      obtain ⟨cancel, flag, rfl⟩ := pollCancel_flags clear
      exact { withheld with }
    | refuse => exact { withheld with }
  concludes move withheld := by
    cases move with
    | yields => exact { withheld with }
    | shows => exact { withheld with }
    | drains | ends =>
      refine ⟨by rw [finish_scan]; exact withheld.publication, ?_⟩
      rw [finish_store, withheld.publication]
      exact withheld.store
    | cancels phase work raised =>
      obtain ⟨cancel, flag, rfl⟩ := pollCancel_flags raised
      refine ⟨by rw [close_scan]; exact withheld.publication, ?_⟩
      rw [close_store]
      exact withheld.store
    | fails phase work clear failed =>
      obtain ⟨cancel, flag, rfl⟩ := pollCancel_flags clear
      exact { withheld with }
    | rests => exact withheld

theorem Withheld.rewind (withheld : Withheld store run) : Withheld store run.rewind.2 := by
  by_cases phase : run.scan.phase = .closed
  · rw [rewind_closed phase]
    exact withheld
  have restarted : Withheld store run.restarted := by
    refine ⟨by rw [restarted_scan, withheld.publication]; rfl, ?_⟩
    rw [restarted_store, withheld.publication]
    exact withheld.store
  cases work : run.scan.work with
  | replay features selection =>
    rw [rewind_replay phase work]
    exact { restarted with }
  | statement statement decoder =>
    rw [rewind_run phase work]
    dsimp only
    split
    · exact { restarted with }
    · exact { restarted with }

theorem Withheld.used (withheld : Withheld store run) (use : Use) : Withheld store (run.used use) := by
  cases use with
  | fetchNext => exact (lasting store).fetchNext withheld
  | featureAt position => exact (lasting store).featureAt position withheld
  | collectRemaining => exact (lasting store).collectRemaining withheld
  | rewind => exact withheld.rewind
  | close =>
    refine ⟨by unfold Run.used; rw [close_scan]; exact withheld.publication, ?_⟩
    exact (close_store run).trans withheld.store
  | takeMaterialized => exact { withheld with }
  | cancel polls =>
    unfold Run.used cancelAfter
    dsimp only
    split
    · exact { withheld with }
    · exact { withheld with }

end Run

structure Scan.Samples (limit : Option Nat) (s : Scan) : Prop where
  statement : ∀ statement, s.statement? = some statement → statement.sampleLimit = limit
  unpublished : limit.isSome = true → s.publication = none

theorem Scan.Samples.used {limit : Option Nat} {run : Run} (samples : run.scan.Samples limit) (use : Use) :
    (run.used use).scan.Samples limit ∧ (limit.isSome = true → (run.used use).store = run.store) := by
  have remains : run.scan.Remains (run.used use).scan := Run.remains_used ⟨rfl, rfl, rfl, rfl⟩ use
  have withheld : limit.isSome = true → Run.Withheld run.store (run.used use) := fun sampled =>
    Run.Withheld.used ⟨samples.unpublished sampled, rfl⟩ use
  refine ⟨⟨fun statement same => samples.statement statement ?_, fun sampled => (withheld sampled).publication⟩,
    fun sampled => (withheld sampled).store⟩
  rw [← same]
  unfold Scan.statement?
  rw [remains.work]

theorem Scan.Samples.listening {limit : Option Nat} {s : Scan} (samples : s.Samples limit) (shared : Bool) :
    (if shared then s.listeningToShared else s).Samples limit := by
  split
  · exact { samples with }
  · exact samples

theorem Query.compose_sampleLimit {plan : Query.Plan} {request : Request} {expression : Option String}
    {box : Option BoundingBox} {statement : Query.Statement}
    (composed : Query.compose plan request expression box = .ok statement) :
    statement.sampleLimit = plan.sampleLimit := by
  obtain ⟨output, attributes, -, rfl⟩ := Query.compose_ok composed
  rfl

namespace Layer

/--
The layer has this column and takes this sample. If it does take one, it holds only what was adopted; and what it remembers
was answered since it was opened.
-/
structure Sized (spec : GeometryColumn) (limit : Option Nat) (adopted : List Feature → Prop) (since now : Session)
    (l : Layer) : Prop where
  column : l.spec = some spec
  sample : l.base.sampleLimit = limit
  limited : l.isLimited = limit.isSome
  loaded : limit.isSome = true → ∀ features, l.store.features = some features → adopted features
  onward : since.Precedes now
  remembers : l.Remembers since now

variable {spec : GeometryColumn} {limit : Option Nat} {adopted adopted' : List Feature → Prop}
  {since s s' : Session} {l l' : Layer}

theorem Sized.later (sized : l.Sized spec limit adopted since s) (precedes : s.Precedes s')
    (more : ∀ features, adopted features → adopted' features) : l.Sized spec limit adopted' since s' where
  column := sized.column
  sample := sized.sample
  limited := sized.limited
  loaded sampled features loaded := more features (sized.loaded sampled features loaded)
  onward := sized.onward.trans precedes
  remembers := sized.remembers.later precedes

theorem Sized.stored (sized : l.Sized spec limit adopted since s) {store : Store}
    (withheld : limit.isSome = true → store = l.store) : ({ l with store } : Layer).Sized spec limit adopted since s where
  column := sized.column
  sample := sized.sample
  limited := sized.limited
  loaded sampled features loaded := by
    rw [withheld sampled] at loaded
    exact sized.loaded sampled features loaded
  onward := sized.onward
  remembers := { sized.remembers with }

theorem Sized.registerTransform (sized : l.Sized spec limit adopted since s) (transform : Crs.Transform) :
    (l.registerTransform transform).Sized spec limit adopted since s :=
  { sized with remembers := { sized.remembers with } }

theorem Sized.setSubset {filter : Option String} {isAccepted : Bool} (sized : l.Sized spec limit adopted since s)
    (h : (l.setSubset filter).run s = (.ok (isAccepted, l'), s')) : l'.Sized spec limit adopted since s' := by
  have later := sized.later ((setSubset_keeps Warehouse.Action.precedes_frame l filter).outcome h) fun _ => id
  rcases setSubset_ok h with rfl | rfl
  · exact later
  · exact ⟨later.column, later.sample, later.limited, nofun, later.onward, .nothing rfl rfl⟩

theorem Sized.adopt {features : List Feature} (sized : l.Sized spec limit adopted since s)
    (h : (l.adopt features).run s = (.ok l', s')) :
    l'.Sized spec limit (fun found => adopted found ∨ found = features) since s' := by
  obtain ⟨⟨⟩, s₁, noted, returned⟩ := Warehouse.Action.bind_ok h
  cases noted
  cases returned
  have later := sized.later (.note .debug .source "Adopted materialized features" s) fun _ => id
  refine { later with loaded := fun sampled found loaded => ?_, remembers := { later.remembers with } }
  cases loaded
  exact .inr rfl

theorem Sized.getFeatures {request : Request} {scan : Scan} (sized : l.Sized spec limit adopted since s)
    (h : (l.getFeatures request).run s = (.ok scan, s')) : scan.Samples limit := by
  rcases getFeatures_ok h with ⟨features, loaded, replays⟩ | ⟨opened, streams, rfl⟩
  · obtain ⟨spec, transform, selection, -, -, -, rfl, -⟩ := Scan.replay_ok replays
    refine ⟨fun statement asked => ?_, fun _ => rfl⟩
    cases asked
  · have unwhole : limit.isSome = true → l.isWhole request opened = false := by
      intro sampled
      rw [isWhole, sized.limited, sampled]
      exact Bool.and_false _
    obtain ⟨spec, transform, expression, statement, columns, rows, disturbance, number, -, -, -, composed, rfl, -⟩ :=
      Scan.stream_ok streams
    have samples : ∀ statement', some statement = some statement' → statement'.sampleLimit = limit := by
      rintro _ ⟨⟩
      exact (Query.compose_sampleLimit composed).trans sized.sample
    split
    · rename_i whole
      refine ⟨samples, fun sampled => ?_⟩
      cases (unwhole sampled).symm.trans whole
    · exact ⟨samples, fun _ => rfl⟩

theorem Sized.explain {request : Request} {statement : Query.Statement} (sized : l.Sized spec limit adopted since s)
    {now : Session} (h : (l.explain request).run now = (.ok statement, s')) : statement.sampleLimit = limit := by
  obtain ⟨found, s₁, required, h₁⟩ := Warehouse.Action.bind_ok h
  obtain ⟨⟨planned, transform⟩, s₂, plans, returned⟩ := Warehouse.Action.bind_ok h₁
  cases returned
  obtain ⟨-, expression, -, composed⟩ := Scan.plan_ok plans
  exact (Query.compose_sampleLimit composed).trans sized.sample

theorem loadAll_keeps (l : Layer) : Warehouse.Action.Keeps Session.Precedes l.loadAll := by
  intro s
  cases loaded : l.store.features with
  | some features =>
    rw [loadAll_loaded loaded]
    exact .refl _
  | none =>
    have opens := getFeatures_keeps l .all s
    rw [loadAll_run loaded]
    rcases outcome : (l.getFeatures .all).run s with ⟨e | scan, s'⟩
    · rw [outcome] at opens
      exact opens
    · rw [outcome] at opens
      let begun : Run := ⟨scan, s', l.store⟩
      have collects : s'.Precedes begun.collectRemaining.2.session :=
        (Run.precedes_lasting s').collectRemaining (.refl s')
      exact opens.trans (collects.trans (Run.close_precedes _))

theorem Sized.loadAll {count : Nat} (sized : l.Sized spec limit adopted since s)
    (h : (l.loadAll).run s = (.ok (count, l'), s')) : l'.Sized spec limit adopted since s' := by
  have later := sized.later (l.loadAll_keeps.outcome h) fun _ => id
  cases loaded : l.store.features with
  | some features =>
    rw [loadAll_loaded loaded] at h
    cases h
    exact later
  | none =>
    rw [loadAll_run loaded] at h
    rcases opens : (l.getFeatures .all).run s with ⟨e | scan, s₁⟩
    · rw [opens] at h
      cases h
    · rw [opens] at h
      dsimp only at h
      have samples := sized.getFeatures opens
      have begun : limit.isSome = true → Run.Withheld l.store ⟨scan, s₁, l.store⟩ := fun sampled =>
        ⟨samples.unpublished sampled, rfl⟩
      rcases collected : Run.collectRemaining ⟨scan, s₁, l.store⟩ with ⟨e | features, last⟩
      · rw [collected] at h
        cases h
      · rw [collected] at h
        cases h
        -- The scan of a sampled layer publishes nothing, so collecting all of it leaves the store alone.
        refine later.stored fun sampled => ?_
        have withheld := (Run.Withheld.lasting l.store).collectRemaining (begun sampled)
        rw [collected] at withheld
        exact (Run.close_store last).trans withheld.store

theorem Sized.inMemory (sized : l.Sized spec limit adopted since s) (sampled : limit.isSome = true) :
    l.wholeInMemory? = none := by
  rw [wholeInMemory?, sized.limited, sampled, if_pos rfl]

theorem Sized.featureCount {count : Nat} (sized : l.Sized spec limit adopted since s)
    (h : l.featureCount.run s = (.ok (count, l'), s')) :
    l'.Sized spec limit adopted since s' ∧ (limit.isSome = true →
      ∃ rows, since.AnsweredSince s' (l.base.endpoint.command l.countText) rows ∧ count = firstCount rows) := by
  have later := sized.later ((featureCount_keeps Warehouse.Action.precedes_frame l).outcome h) fun _ => id
  obtain ⟨remembers, counted⟩ := sized.remembers.featureCount sized.onward h
  have left := featureCount_left h
  refine ⟨?_, fun sampled => counted (sized.inMemory sampled)⟩
  rw [left] at remembers ⊢
  exact { later with remembers }

theorem Sized.extent {extent : Option BoundingBox} (sized : l.Sized spec limit adopted since s)
    (h : l.extent.run s = (.ok (extent, l'), s')) :
    l'.Sized spec limit adopted since s' ∧ (limit.isSome = true →
      ∃ rows, since.AnsweredSince s' (l.base.endpoint.command (l.extentText spec)) rows ∧
        extent = extentOfRows rows) := by
  have later := sized.later ((extent_keeps Warehouse.Action.precedes_frame l).outcome h) fun _ => id
  obtain ⟨remembers, measured⟩ := sized.remembers.extentFound sized.onward h
  have left := extent_left h
  refine ⟨?_, fun sampled => measured spec sized.column (sized.inMemory sampled)⟩
  rw [left] at remembers ⊢
  exact { later with remembers }

theorem ofDescriptor_sized {d : Descriptor} {context : Warehouse.Context} {settings : Settings}
    (h : (ofDescriptor d context settings).run s = (.ok l, s')) (found : l.spec = some spec) :
    ∃ rows, s.AnsweredSince s'
        (Warehouse.Endpoint.command ⟨d.connection, context⟩ ("SELECT COUNT(*) FROM " ++ d.source.fromClause)) rows ∧
      let limit := Sampling.limitOf (firstCount rows) (settings.rowCap spec.encoding)
      l.sampling = some ⟨firstCount rows, limit⟩ ∧ l.Sized spec limit adopted s' s' := by
  have frame := Warehouse.Action.precedes_frame
  obtain ⟨spec', fields, sampling, s₁, s₂, s₃, s₄, s₅, finds, noted, listed, noted', assessed, rfl, rfl⟩ :=
    ofDescriptor_stages h
  cases found
  obtain ⟨size, s₇, assesses, returned⟩ := Warehouse.Action.bind_ok assessed
  cases returned
  obtain ⟨rowCount, s₈, counts, h₇⟩ := Warehouse.Action.bind_ok assesses
  obtain ⟨⟨⟩, s₉, noted₃, returned⟩ := Warehouse.Action.bind_ok h₇
  cases returned
  obtain ⟨rows, s₁₀, asked, returned⟩ := Warehouse.Action.bind_ok counts
  cases returned
  have before : s.Precedes s₄ := (((findSpec_keeps frame _ d).outcome finds).trans
    ((noteWhen_keeps frame _ _).outcome noted)).trans (((findFields_keeps frame _ _).outcome listed).trans
      ((noteWhen_keeps frame _ _).outcome noted'))
  have after := ((frame.noted _ _ _).outcome noted₃).trans (.note .info .source "Opened data source" _)
  rw [Sampling.ofRowCount_eq]
  exact ⟨rows, (queryAll_ok asked).within before after, rfl, rfl, rfl, rfl, nofun, .refl _, .nothing rfl rfl⟩

end Layer

end FeatureLayers
