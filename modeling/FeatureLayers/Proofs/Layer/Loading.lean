import FeatureLayers.Proofs.Layer.Passes
import FeatureLayers.Proofs.Scan.Collecting

namespace FeatureLayers

theorem Field.index?_lt {fields : List Field} {name : String} {i : Nat}
    (found : Field.index? fields name = some i) : i < fields.length := by
  rcases Option.or_eq_some_iff.mp found with same | ⟨-, alike⟩
  · exact (List.findIdx?_eq_some_iff_findIdx_eq.mp same).1
  · exact (List.findIdx?_eq_some_iff_findIdx_eq.mp alike).1

namespace Layer

open Warehouse (Session)
open Warehouse.Action (bind_ok precedes_frame Frame Keeps)

/-- What is loaded is whole, and scans are sampled only when the layer counts as limited. -/
structure Kept (l : Layer) (excuse : Excuse) (session : Session) : Prop where
  sound : l.Sound excuse session l.store
  unsampled : l.isLimited = false → l.base.sampleLimit = none

variable {l l' : Layer} {excuse : Excuse} {s s' : Session}

theorem Kept.later {excuse' : Excuse} (kept : l.Kept excuse s) (precedes : s.Precedes s')
    (excused : excuse.Within excuse') :
    l.Kept excuse' s' :=
  ⟨kept.sound.later (.of_le (Nat.le_refl _)) precedes excused, kept.unsampled⟩

/-- A layer as it is opened: without a filter, not loaded, nothing remembered, and keyed by one of its fields. -/
structure Fresh (l : Layer) : Prop where
  store : l.store = .empty
  countCache : l.countCache = none
  extentCache : l.extentCache = none
  subsetFilter : l.base.subsetFilter = none
  unsampled : l.isLimited = false → l.base.sampleLimit = none
  keyed : ∀ key, l.base.primaryKey = some key → key < l.fields.length

theorem ofDescriptor_fresh {d : Descriptor} {context : Warehouse.Context} {settings : Settings}
    (h : (ofDescriptor d context settings).run s = (.ok l, s')) : l.Fresh := by
  obtain ⟨spec, fields, sampling, s₁, s₂, s₃, s₄, s₅, -, -, -, -, -, rfl, -⟩ := ofDescriptor_stages h
  refine ⟨rfl, rfl, rfl, rfl, fun unlimited => ?_, fun key primary => ?_⟩
  · cases sampling with
    | none => rfl
    | some sampling => simpa [isLimited, assembled, Sampling.isLimited] using unlimited
  · obtain ⟨name, -, found⟩ := Option.bind_eq_some_iff.mp primary
    exact Field.index?_lt found

theorem ofDescriptor_ok {d : Descriptor} {context : Warehouse.Context} {settings : Settings}
    (h : (ofDescriptor d context settings).run s = (.ok l, s')) : l.Kept excuse s' := by
  have fresh := ofDescriptor_fresh h
  refine ⟨fun features loaded => ?_, fresh.unsampled⟩
  rw [fresh.store] at loaded
  cases loaded

theorem setSubset_keeps {R : Session → Session → Prop} (frame : Frame R) (l : Layer) (filter : Option String) :
    Keeps R (l.setSubset filter) := by
  unfold setSubset
  dsimp only
  split
  · refine frame.bind (acceptsExpression_keeps frame _ _ _) fun accepted => ?_
    split <;> exact frame.bind (frame.noted _ _ _) fun _ => frame.pure _
  · refine frame.bind (frame.pure true) fun accepted => ?_
    split <;> exact frame.bind (frame.noted _ _ _) fun _ => frame.pure _

theorem acceptsExpression_run (endpoint : Warehouse.Endpoint) (fromText expression : String) (s : Session) :
    ∃ isAccepted s', (acceptsExpression endpoint fromText expression).run s = (.ok isAccepted, s') := by
  unfold acceptsExpression
  split
  · exact ⟨false, s, rfl⟩
  · rw [Warehouse.Action.run_bind]
    rcases outcome : (Warehouse.Action.attempt (queryAll endpoint
      ("SELECT COUNT(*) FROM " ++ fromText ++ " WHERE " ++ expression ++ " LIMIT 0")) :
        Action (Except Error (List Row))).run s with ⟨e | tried, s'⟩
    · cases outcome
    · cases tried with
      | ok rows => exact ⟨true, s', rfl⟩
      | error e => exact ⟨false, _, rfl⟩

def wanted (filter : Option String) : Option String := (filter.map Text.trimText).filter (· != "")

def refiltered (l : Layer) (wanted : Option String) : Layer :=
  { l with base := { l.base with subsetFilter := wanted } }.forget

@[simp] theorem refiltered_fields (l : Layer) (wanted : Option String) : (l.refiltered wanted).fields = l.fields := rfl

@[simp] theorem refiltered_primaryKey (l : Layer) (wanted : Option String) :
    (l.refiltered wanted).base.primaryKey = l.base.primaryKey := rfl

/-- Setting a filter does not fail: the layer has it then, or it is refused and the layer is as it was. -/
theorem setSubset_run (l : Layer) (filter : Option String) (s : Session) :
    ∃ isAccepted s', (l.setSubset filter).run s =
      (.ok (isAccepted, if isAccepted then l.refiltered (wanted filter) else l), s') ∧
        (wanted filter = none → isAccepted = true) := by
  unfold setSubset
  dsimp only
  cases meant : wanted filter with
  | none =>
    unfold wanted at meant
    rw [meant]
    exact ⟨true, _, rfl, fun _ => rfl⟩
  | some expression =>
    unfold wanted at meant
    rw [meant]
    obtain ⟨isAccepted, s₁, tried⟩ := acceptsExpression_run l.base.endpoint l.fromClause expression s
    dsimp only
    rw [Warehouse.Action.run_bind, tried]
    cases isAccepted with
    | true => exact ⟨true, _, rfl, fun _ => rfl⟩
    | false => exact ⟨false, _, rfl, nofun⟩

theorem setSubset_ok {filter : Option String} {isAccepted : Bool}
    (h : (l.setSubset filter).run s = (.ok (isAccepted, l'), s')) :
    l' = l ∨ l' = l.refiltered (wanted filter) := by
  obtain ⟨decided, s₁, ran, -⟩ := l.setSubset_run filter s
  cases ran.symm.trans h
  split
  · exact .inr rfl
  · exact .inl rfl

theorem Kept.setSubset {filter : Option String} {isAccepted : Bool} (kept : l.Kept excuse s)
    (h : (l.setSubset filter).run s = (.ok (isAccepted, l'), s')) :
    l'.Kept excuse s' ∧ l.Onward l.store l' l'.store := by
  have precedes : s.Precedes s' := by
    have := setSubset_keeps precedes_frame l filter s
    rwa [h] at this
  rcases setSubset_ok h with rfl | rfl
  · exact ⟨⟨kept.sound.later (.of_le (Nat.le_refl _)) precedes (.refl _), kept.unsampled⟩, .of_le (Nat.le_refl _)⟩
  · refine ⟨⟨.invalidated _ _ _ _, kept.unsampled⟩, rfl, rfl, Nat.le_succ _, fun same => ?_⟩
    exact (Nat.succ_ne_self _ same).elim

theorem getFeatures_keeps (l : Layer) (request : Request) : Keeps Session.Precedes (l.getFeatures request) := by
  unfold getFeatures
  split
  · exact Scan.replay_keeps precedes_frame _ _ _ _
  · exact precedes_frame.bind (Scan.stream_precedes _ _ _) fun scan => precedes_frame.pure _

/-- A scan that was opened replays what is loaded, or it streams; then it publishes when it is whole. -/
theorem getFeatures_ok {request : Request} {scan : Scan} (h : (l.getFeatures request).run s = (.ok scan, s')) :
    (∃ features, l.store.features = some features ∧
      (Scan.replay l.base l.spec features request).run s = (.ok scan, s')) ∨
    ∃ opened, (Scan.stream l.base l.spec request).run s = (.ok opened, s') ∧
      scan = if l.isWhole request opened then opened.publishingTo l.store else opened := by
  unfold getFeatures at h
  split at h
  · rename_i features _ loaded
    exact .inl ⟨features, loaded, h⟩
  · obtain ⟨opened, s₁, streams, returned⟩ := bind_ok h
    cases returned
    exact .inr ⟨opened, streams, rfl⟩

theorem stream_whole {request : Request} {opened : Scan} (unsampled : l.isLimited = false → l.base.sampleLimit = none)
    (h : (Scan.stream l.base l.spec request).run s = (.ok opened, s')) (whole : l.isWhole request opened = true) :
    ∃ spec statement decoder columns rows disturbance number, l.Composes l.base.subsetFilter statement decoder ∧
      opened = Scan.begun l.base spec statement decoder none (.ofReply columns rows disturbance) ∧
      s'.Answered number (l.base.endpoint.command statement.toSql) rows := by
  obtain ⟨spec, transform, expression, statement, columns, rows, disturbance, number, found, between, plain, composed,
    rfl, onward, answered⟩ := Scan.stream_ok h
  simp only [isWhole, Bool.and_eq_true, Bool.not_eq_true'] at whole
  obtain ⟨⟨unfiltered, unmoved⟩, unlimited⟩ := whole
  obtain rfl : transform = none := Option.isSome_eq_false_iff.mp unmoved |> Option.isNone_iff_eq_none.mp
  have unasked := unfiltered
  simp only [Request.isUnfiltered, Bool.and_eq_true, Option.isNone_iff_eq_none] at unasked
  obtain ⟨⟨⟨⟨noRect, noExpression⟩, noIds⟩, noAttributes⟩, -⟩ := unasked
  obtain rfl := plain noExpression
  have noBox : Scan.sourceBox request none = none := by simp only [Scan.sourceBox, noRect]
  rw [noBox] at composed
  obtain ⟨output, attributes, -, stated⟩ := Query.compose_ok composed
  refine ⟨spec, statement, _, columns, rows, disturbance, number,
    ⟨⟨spec, request, found, unfiltered, composed, rfl⟩, ?_, ?_⟩, rfl, answered⟩
  · rw [stated]
    simp [Query.stated, noIds, Scan.queryPlan]
  · rw [stated]
    exact unsampled unlimited

theorem Kept.getFeatures {request : Request} {scan : Scan} (kept : l.Kept excuse s)
    (h : (l.getFeatures request).run s = (.ok scan, s')) : l.Tends excuse s' l.store scan := by
  rcases getFeatures_ok h with ⟨features, loaded, replays⟩ | ⟨opened, streams, rfl⟩
  · obtain ⟨spec, transform, selection, -, -, -, rfl, -⟩ := Scan.replay_ok replays
    exact nofun
  · split
    · rename_i whole
      obtain ⟨spec, statement, decoder, columns, rows, disturbance, number, composes, rfl, answered⟩ :=
        stream_whole kept.unsampled streams whole
      intro generation published
      cases published
      refine ⟨l.base.subsetFilter, statement, decoder, composes, rfl, rfl, Nat.le_refl _, fun _ => .inl rfl, ?_⟩
      intro result buffer isDrained streaming
      cases streaming
      exact ⟨number, rows, answered, .start rows decoder columns disturbance rfl rfl rfl⟩
    · obtain ⟨spec, transform, expression, statement, columns, rows, disturbance, number, -, -, -, -, rfl, -⟩ :=
        Scan.stream_ok streams
      exact nofun

theorem loadAll_run (unloaded : l.store.features = none) (s : Session) :
    (l.loadAll).run s = match (l.getFeatures .all).run s with
      | (.error e, s) => (.error e, s)
      | (.ok scan, s) =>
        let (features, run) := Run.collectRemaining ⟨scan, s, l.store⟩
        (features.map fun features => (features.length, { l with store := run.close.store }), run.close.session) := by
  unfold loadAll
  rw [unloaded]
  dsimp only
  rw [Warehouse.Action.run_bind]
  rcases (l.getFeatures .all).run s with ⟨outcome, s⟩
  cases outcome <;> rfl

theorem loadAll_loaded {features : List Feature} (loaded : l.store.features = some features) (s : Session) :
    (l.loadAll).run s = (.ok (features.length, l), s) := by
  unfold loadAll
  rw [loaded]
  rfl

theorem Kept.collects {scan : Scan} {last : Run} {features : Except Error (List Feature)} (kept : l.Kept excuse s)
    (h : (l.getFeatures .all).run s = (.ok scan, s'))
    (collected : Run.collectRemaining ⟨scan, s', l.store⟩ = (features, last)) :
    Run.Fits l excuse ⟨scan, s', l.store⟩ last.close := by
  have precedes : s.Precedes s' := by
    have := getFeatures_keeps l .all s
    rwa [h] at this
  have begun : Run.Fits l excuse ⟨scan, s', l.store⟩ ⟨scan, s', l.store⟩ :=
    ⟨kept.sound.later (.of_le (Nat.le_refl _)) precedes (.refl _), kept.getFeatures h, .refl _, Nat.le_refl _⟩
  have ended := (Run.Fits.lasting l excuse _).collectRemaining begun
  rw [collected] at ended
  exact ended.close

theorem Kept.loadAll {result : Except Error (Nat × Layer)} (kept : l.Kept excuse s)
    (h : (l.loadAll).run s = (result, s')) :
    s.Precedes s' ∧ ∀ count l', result = .ok (count, l') → l'.Kept excuse s' ∧ l.Onward l.store l' l'.store := by
  cases loaded : l.store.features with
  | some features =>
    rw [loadAll_loaded loaded] at h
    cases h
    refine ⟨.refl _, fun count l' same => ?_⟩
    cases same
    exact ⟨kept, .of_le (Nat.le_refl _)⟩
  | none =>
    have precedes := getFeatures_keeps l .all s
    rw [loadAll_run loaded] at h
    rcases opens : (l.getFeatures .all).run s with ⟨outcome, s₁⟩
    rw [opens] at precedes h
    cases outcome with
    | error e =>
      cases h
      exact ⟨precedes, fun _ _ failed => nomatch failed⟩
    | ok scan =>
      dsimp only at h
      rcases collected : Run.collectRemaining ⟨scan, s₁, l.store⟩ with ⟨features, last⟩
      rw [collected] at h
      have fits := kept.collects opens collected
      cases h
      refine ⟨precedes.trans fits.precedes, fun count l' same => ?_⟩
      cases features with
      | error e => cases same
      | ok features =>
        simp only [Except.map, Except.ok.injEq, Prod.mk.injEq] at same
        obtain ⟨rfl, rfl⟩ := same
        exact ⟨⟨fits.sound.later (.stored last.close.store (Nat.le_refl _)) (.refl _) (.refl _), kept.unsampled⟩,
          .stored last.close.store fits.generation⟩

theorem getFeatures_all {scan : Scan} (unsampled : l.isLimited = false → l.base.sampleLimit = none)
    (unlimited : l.isLimited = false) (unloaded : l.store.features = none)
    (h : (l.getFeatures .all).run s = (.ok scan, s')) :
    ∃ spec statement decoder columns rows disturbance, scan = (Scan.begun l.base spec statement decoder none
      (.ofReply columns rows disturbance)).publishingTo l.store := by
  rcases getFeatures_ok h with ⟨features, loaded, -⟩ | ⟨opened, streams, rfl⟩
  · rw [unloaded] at loaded
    cases loaded
  · have unmoved : opened.reprojects = false := by
      obtain ⟨spec, transform, expression, statement, columns, rows, disturbance, number, -, between, -, -, rfl, -⟩ :=
        Scan.stream_ok streams
      rw [Scan.transformFor_all] at between
      cases between
      rfl
    have whole : l.isWhole .all opened = true := by
      simp [isWhole, unmoved, unlimited, Request.isUnfiltered, Request.all]
    obtain ⟨spec, statement, decoder, columns, rows, disturbance, number, -, rfl, -⟩ :=
      stream_whole unsampled streams whole
    exact ⟨spec, statement, decoder, columns, rows, disturbance, by rw [whole]; rfl⟩

theorem loadAll_fills {count : Nat} (unsampled : l.isLimited = false → l.base.sampleLimit = none)
    (unlimited : l.isLimited = false) (h : (l.loadAll).run s = (.ok (count, l'), s')) :
    ∃ features, l'.store.features = some features ∧ features.length = count := by
  cases loaded : l.store.features with
  | some features =>
    rw [loadAll_loaded loaded] at h
    cases h
    exact ⟨features, loaded, rfl⟩
  | none =>
    rw [loadAll_run loaded] at h
    rcases opens : (l.getFeatures .all).run s with ⟨outcome, s₁⟩
    rw [opens] at h
    cases outcome with
    | error e => cases h
    | ok scan =>
      dsimp only at h
      rcases collected : Run.collectRemaining ⟨scan, s₁, l.store⟩ with ⟨result, last⟩
      rw [collected] at h
      cases result with
      | error e => cases h
      | ok features =>
        cases h
        obtain ⟨spec, statement, decoder, columns, rows, disturbance, rfl⟩ :=
          getFeatures_all unsampled unlimited loaded opens
        let opened := Scan.begun l.base spec statement decoder none (.ofReply columns rows disturbance)
        let begun : Run := ⟨opened.publishingTo l.store, s₁, l.store⟩
        have pass : Run.Pass rows decoder (some l.store.generation) l.store begun :=
          .reading rfl rfl rfl rfl (.start rows decoder columns disturbance rfl rfl rfl)
        have undisturbed : begun.Undisturbed := ⟨nofun, .lowered, rfl, rfl⟩
        have isOpen := Run.Undisturbed.lasting.collectRemaining undisturbed
        rw [collected] at isOpen
        obtain ⟨-, stored⟩ := pass.collected rfl collected isOpen.1
        refine ⟨features, ?_, rfl⟩
        rw [Run.close_store, stored]
        simp [Store.offered, Store.publish]

end Layer

end FeatureLayers
