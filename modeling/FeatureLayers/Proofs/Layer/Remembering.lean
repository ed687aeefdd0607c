import FeatureLayers.Proofs.Layer.Loading
import FeatureLayers.Proofs.Layer.Statistics

namespace FeatureLayers.Layer

open Warehouse (Session)
open Warehouse.Action (precedes_frame)

structure Recalls (l l' : Layer) : Prop where
  spec : l'.spec = l.spec
  count : ∀ count, l.countCache = some count → l'.countCache = some count
  extent : ∀ extent, l.extentCache = some extent → l'.extentCache = some extent

theorem Recalls.refl (l : Layer) : l.Recalls l := ⟨rfl, fun _ => id, fun _ => id⟩

theorem Recalls.trans {l₁ l₂ l₃ : Layer} (first : l₁.Recalls l₂) (second : l₂.Recalls l₃) : l₁.Recalls l₃ where
  spec := second.spec.trans first.spec
  count count known := second.count count (first.count count known)
  extent extent known := second.extent extent (first.extent extent known)

/-- What stands behind the source in a statement about the rows under a guard and a filter. -/
def conditionText : Option String → Option String → String
  | none, none => ""
  | some guard, none => " WHERE " ++ guard
  | none, some filter => " WHERE " ++ ("(" ++ filter ++ ")")
  | some guard, some filter => " WHERE " ++ (guard ++ " AND " ++ ("(" ++ filter ++ ")"))

theorem whereText_eq (l : Layer) (guard : Option String) :
    l.whereText guard.toList = conditionText guard l.base.subsetFilter := by
  unfold whereText
  cases guard <;> cases l.base.subsetFilter <;> rfl

/-- The number in the first cell; a missing or negative one counts as zero. -/
def toldCount : List Row → Nat
  | (value :: _) :: _ => (value.asInt?.getD 0).toNat
  | _ => 0

/-- The box of the first four cells, where there is a number in each. -/
def toldExtent : List Row → Option BoundingBox
  | (a :: b :: c :: d :: _) :: _ => do return .normalized (← a.asDouble?) (← b.asDouble?) (← c.asDouble?) (← d.asDouble?)
  | _ => none

theorem toldCount_eq : toldCount = firstCount := by
  funext rows
  rcases rows with _ | ⟨_ | ⟨value, row⟩, rows⟩ <;> rfl

theorem extentOfRows_short {row : Row} (short : row.length < 4) (rows : List Row) :
    extentOfRows (row :: rows) = none := by
  have few : ((row.take 4).filterMap Value.asDouble?).length ≤ row.length :=
    Nat.le_trans (List.length_filterMap_le _ _) (List.length_take_le' _ _)
  rw [extentOfRows, List.head?_cons, Option.map_some]
  split
  · rename_i four
    rw [Option.some.inj four] at few
    exact absurd short (Nat.not_lt_of_le few)
  · rfl

theorem extentOfRows_four (a b c d : Value) (row : Row) (rows : List Row) :
    extentOfRows ((a :: b :: c :: d :: row) :: rows) = toldExtent ((a :: b :: c :: d :: row) :: rows) := by
  unfold extentOfRows toldExtent
  simp only [List.head?_cons, Option.map_some, List.take_succ_cons, List.take_zero, List.filterMap_cons,
    List.filterMap_nil]
  cases a.asDouble? <;> cases b.asDouble? <;> cases c.asDouble? <;> cases d.asDouble? <;> rfl

theorem toldExtent_eq : toldExtent = extentOfRows := by
  funext rows
  match rows with
  | [] => rfl
  | [] :: rows | [_] :: rows | [_, _] :: rows | [_, _, _] :: rows => exact (extentOfRows_short (by simp) rows).symm
  | (a :: b :: c :: d :: row) :: rows => exact (extentOfRows_four a b c d row rows).symm

/-- A question about a layer as a whole, whose answer the layer remembers. -/
structure Question (α : Type) where
  ask : Layer → Action (α × Layer)
  select : String
  guard : Layer → Option String
  read : List Row → α
  known : Layer → Option α
  remember : α → Layer → Layer
  known_remember : ∀ a l, known (remember a l) = some a
  remember_recalls : ∀ a l, known l = none → l.Recalls (remember a l)
  recalled : ∀ l l' a, l.Recalls l' → known l = some a → known l' = some a

namespace Question

def counting : Question Nat where
  ask := featureCount
  select := "SELECT COUNT(*) FROM "
  guard l := (l.spec.filter (·.encoding = .cellId)).map Query.guardText
  read := toldCount
  known := countCache
  remember count l := { l with countCache := some count }
  known_remember _ _ := rfl
  remember_recalls _ _ unknown := ⟨rfl, fun _ known => (nomatch unknown.symm.trans known), fun _ => id⟩
  recalled _ _ count recalls := recalls.count count

def measuring (spec : GeometryColumn) : Question (Option BoundingBox) where
  ask := extent
  select :=
    let target := extentTarget spec
    "SELECT MIN(ST_XMIN(" ++ target ++ ")), MIN(ST_YMIN(" ++ target ++ ")), MAX(ST_XMAX(" ++ target ++
      ")), MAX(ST_YMAX(" ++ target ++ ")) FROM "
  guard _ := some (Query.guardText spec)
  read := toldExtent
  known := extentCache
  remember extent l := { l with extentCache := some extent }
  known_remember _ _ := rfl
  remember_recalls _ _ unknown := ⟨rfl, fun _ => id, fun _ known => nomatch unknown.symm.trans known⟩
  recalled _ _ extent recalls := recalls.extent extent

variable {α : Type} (q : Question α) (l : Layer)

def text : String := q.select ++ (l.base.source.fromClause ++ conditionText (q.guard l) l.base.subsetFilter)

def command : Warehouse.Command := l.base.endpoint.command (q.text l)

def answer : Action (α × Layer) :=
  match q.known l with
  | some a => pure (a, l)
  | none => do
    let rows ← queryAll l.base.endpoint (q.text l)
    return (q.read rows, q.remember (q.read rows) l)

end Question

variable {l l' : Layer} {since s s' : Session}

theorem counting_read : Question.counting.read = firstCount := toldCount_eq

theorem measuring_read (spec : GeometryColumn) : (Question.measuring spec).read = extentOfRows := toldExtent_eq

theorem countGuards_eq (l : Layer) : l.countGuards = (Question.counting.guard l).toList := by
  have guard : Question.counting.guard l = (l.spec.filter (·.encoding = .cellId)).map Query.guardText := rfl
  rw [countGuards, guard]
  cases l.spec with
  | none => rfl
  | some spec => by_cases cells : spec.encoding = .cellId <;> simp [cells, Option.filter_some]

theorem countText_question (l : Layer) : l.countText = Question.counting.text l := by
  have conditions := l.whereText_eq (Question.counting.guard l)
  rw [← countGuards_eq] at conditions
  exact congrArg (fun text => "SELECT COUNT(*) FROM " ++ (l.fromClause ++ text)) conditions

theorem featureCount_answer (unloaded : l.store.features = none) : l.featureCount = Question.counting.answer l := by
  have known : Question.counting.known l = l.countCache := rfl
  unfold featureCount Question.answer
  rw [wholeInMemory?_unloaded unloaded, known]
  cases l.countCache with
  | some count => rfl
  | none =>
    dsimp only
    unfold countRows
    rw [bind_assoc, ← countText_question, counting_read]
    rfl

theorem extentText_question (l : Layer) (spec : GeometryColumn) :
    l.extentText spec = (Question.measuring spec).text l := by
  have conditions := l.whereText_eq (some (Query.guardText spec))
  have text : l.extentText spec = (Question.measuring spec).select ++
      (l.fromClause ++ l.whereText (some (Query.guardText spec)).toList) := String.append_assoc
  exact text.trans (congrArg (fun text => (Question.measuring spec).select ++ (l.fromClause ++ text)) conditions)

theorem extent_answer {spec : GeometryColumn} (column : l.spec = some spec) (unloaded : l.store.features = none) :
    l.extent = (Question.measuring spec).answer l := by
  have known : (Question.measuring spec).known l = l.extentCache := rfl
  unfold extent Question.answer
  split
  · rename_i missing
    cases column.symm.trans missing
  · rename_i found here
    obtain rfl : spec = found := Option.some.inj (column.symm.trans here)
    rw [wholeInMemory?_unloaded unloaded, known]
    cases l.extentCache with
    | some extent => rfl
    | none =>
      dsimp only
      rw [extentText_question, measuring_read]
      rfl

inductive Call
  | setSubset (filter : Option String)
  | featureCount
  | extent
  | getFeatures (request : Request)

def settled {α : Type} (l : Layer) : Except Error (α × Layer) × Session → Layer × Session
  | (.ok (_, left), s) => (left, s)
  | (.error _, s) => (l, s)

def called (l : Layer) (s : Session) : Call → Layer × Session
  | .setSubset filter => l.settled ((l.setSubset filter).run s)
  | .featureCount => l.settled (l.featureCount.run s)
  | .extent => l.settled (l.extent.run s)
  | .getFeatures request => (l, ((l.getFeatures request).run s).2)

def Refilters (l : Layer) (s : Session) (call : Call) : Prop :=
  ∃ filter left s', call = .setSubset filter ∧ (l.setSubset filter).run s = (.ok (true, left), s')

/--
What may come to pass while the filter stays: any calls but those that set it. Besides, scans fill the store, transforms
are registered, and the session goes on elsewhere.
-/
inductive Meanwhile (l : Layer) (s : Session) : Layer → Session → Prop
  | none : Meanwhile l s l s
  | called {l₁ : Layer} {s₁ : Session} (before : Meanwhile l s l₁ s₁) (call : Call) (kept : ¬ l₁.Refilters s₁ call) :
    Meanwhile l s (l₁.called s₁ call).1 (l₁.called s₁ call).2
  | elsewhere {l₁ : Layer} {s₁ s₂ : Session} (before : Meanwhile l s l₁ s₁) (store : Store)
    (transforms : List Crs.Transform) (precedes : s₁.Precedes s₂) :
    Meanwhile l s { l₁ with store, base := { l₁.base with transforms } } s₂

/-- The course of a layer since its filter was set, or since the layer was opened without one. -/
inductive Course : Session → Layer → Session → Prop
  | opened {d : Descriptor} {context : Warehouse.Context} {settings : Settings} {l : Layer} {s₀ s : Session}
    (opens : (ofDescriptor d context settings).run s₀ = (.ok l, s)) : Course s l s
  | refiltered {since : Session} {l : Layer} {s : Session} {call : Call} (course : Course since l s)
    (refilters : l.Refilters s call) : Course (l.called s call).2 (l.called s call).1 (l.called s call).2
  | onward {since : Session} {l l' : Layer} {s s' : Session} (course : Course since l s)
    (meanwhile : Meanwhile l s l' s') : Course since l' s'

theorem featureCount_recalls {count : Nat} (h : l.featureCount.run s = (.ok (count, l'), s')) : l.Recalls l' := by
  rw [featureCount_left h]
  refine ⟨rfl, fun known cached => ?_, fun _ => id⟩
  unfold featureCount at h
  rw [cached] at h
  cases whole : l.wholeInMemory? with
  | none =>
    rw [whole] at h
    cases h
    exact cached
  | some features =>
    rw [whole] at h
    cases h
    exact cached

theorem extent_recalls {extent : Option BoundingBox} (h : l.extent.run s = (.ok (extent, l'), s')) : l.Recalls l' := by
  rw [extent_left h]
  refine ⟨rfl, fun _ => id, fun known cached => ?_⟩
  unfold Layer.extent at h
  split at h
  · cases h
    exact cached
  · rw [cached] at h
    cases whole : l.wholeInMemory? with
    | none =>
      rw [whole] at h
      cases h
      exact cached
    | some features =>
      rw [whole] at h
      cases h
      exact cached

theorem settled_session {α : Type} (l : Layer) (left : Except Error (α × Layer) × Session) :
    (l.settled left).2 = left.2 := by
  rcases left with ⟨e | ⟨a, l'⟩, s⟩ <;> rfl

theorem called_precedes (l : Layer) (s : Session) (call : Call) : s.Precedes (l.called s call).2 := by
  cases call with
  | setSubset filter =>
    rw [called, settled_session]
    exact setSubset_keeps precedes_frame l filter s
  | featureCount =>
    rw [called, settled_session]
    exact l.featureCount_keeps precedes_frame s
  | extent =>
    rw [called, settled_session]
    exact l.extent_keeps precedes_frame s
  | getFeatures request => exact l.getFeatures_keeps request s

theorem called_cases {call : Call} (kept : ¬ l.Refilters s call) :
    (l.called s call).1 = l ∨
      (∃ count, l.featureCount.run s = (.ok (count, (l.called s call).1), (l.called s call).2)) ∨
      ∃ extent, l.extent.run s = (.ok (extent, (l.called s call).1), (l.called s call).2) := by
  cases call with
  | setSubset filter =>
    obtain ⟨isAccepted, s', ran, -⟩ := l.setSubset_run filter s
    cases isAccepted with
    | true => exact absurd ⟨filter, _, s', rfl, ran⟩ kept
    | false =>
      rw [called, ran]
      exact .inl rfl
  | featureCount =>
    rw [called]
    rcases l.featureCount.run s with ⟨e | ⟨count, l'⟩, s'⟩
    · exact .inl rfl
    · exact .inr (.inl ⟨count, rfl⟩)
  | extent =>
    rw [called]
    rcases l.extent.run s with ⟨e | ⟨extent, l'⟩, s'⟩
    · exact .inl rfl
    · exact .inr (.inr ⟨extent, rfl⟩)
  | getFeatures request => exact .inl rfl

theorem called_recalls {call : Call} (kept : ¬ l.Refilters s call) : l.Recalls (l.called s call).1 := by
  rcases called_cases kept with same | ⟨count, counted⟩ | ⟨extent, measured⟩
  · rw [same]
    exact .refl l
  · exact featureCount_recalls counted
  · exact extent_recalls measured

theorem Remembers.called (remembers : l.Remembers since s) (started : since.Precedes s) {call : Call}
    (kept : ¬ l.Refilters s call) : (l.called s call).1.Remembers since (l.called s call).2 := by
  rcases called_cases kept with same | ⟨count, counted⟩ | ⟨extent, measured⟩
  · rw [same]
    exact remembers.later (l.called_precedes s call)
  · exact (remembers.featureCount started counted).1
  · exact (remembers.extentFound started measured).1

theorem Meanwhile.precedes (meanwhile : l.Meanwhile s l' s') : s.Precedes s' := by
  induction meanwhile with
  | none => exact .refl s
  | called before call kept ih => exact ih.trans (called_precedes _ _ call)
  | elsewhere before store transforms precedes ih => exact ih.trans precedes

theorem Meanwhile.recalls (meanwhile : l.Meanwhile s l' s') : l.Recalls l' := by
  induction meanwhile with
  | none => exact .refl l
  | called before call kept ih => exact ih.trans (called_recalls kept)
  | elsewhere before store transforms precedes ih => exact { ih with }

theorem Meanwhile.remembers (meanwhile : l.Meanwhile s l' s') (remembers : l.Remembers since s)
    (started : since.Precedes s) : l'.Remembers since s' := by
  induction meanwhile with
  | none => exact remembers
  | called before call kept ih => exact ih.called (started.trans before.precedes) kept
  | elsewhere before store transforms precedes ih => exact { ih.later precedes with }

theorem Course.remembers (course : Course since l s) : since.Precedes s ∧ l.Remembers since s := by
  -- Nothing is remembered where a course begins, and from there on what the warehouse answers.
  induction course with
  | opened opens =>
    have fresh := ofDescriptor_fresh opens
    exact ⟨.refl _, .nothing fresh.countCache fresh.extentCache⟩
  | @refiltered since l s call course refilters ih =>
    obtain ⟨filter, left, s', rfl, accepted⟩ := refilters
    obtain ⟨isAccepted, s₁, ran, -⟩ := l.setSubset_run filter s
    cases accepted.symm.trans ran
    rw [Layer.called, accepted]
    exact ⟨.refl _, .nothing rfl rfl⟩
  | onward course meanwhile ih =>
    obtain ⟨started, remembers⟩ := ih
    exact ⟨started.trans meanwhile.precedes, meanwhile.remembers remembers started⟩

/--
What a question finds out: only when nothing is known one statement is run, and when it fails the layer stays as it is.
What is found the warehouse has said since the filter was set, under it; and it lasts until the filter is set again.
-/
structure Question.Told {α : Type} (q : Question α) (since : Session) (l : Layer) (s : Session) : Prop where
  known : ∀ a, q.known l = some a → (q.ask l).run s = (.ok (a, l), s)
  failed : ∀ fault, q.known l = none → (s.answer s.log.size (q.command l)).outcome = .error fault →
    ∃ s', (q.ask l).run s = (.error (.warehouse fault), s') ∧ s'.log = s.log.push (q.command l) ∧
      l.settled ((q.ask l).run s) = (l, s')
  answered : ∀ rows, q.known l = none → (s.answer s.log.size (q.command l)).outcome = .ok rows →
    ∃ s', (q.ask l).run s = (.ok (q.read rows, q.remember (q.read rows) l), s') ∧ s'.log = s.log.push (q.command l)
  found : ∀ a l' s', (q.ask l).run s = (.ok (a, l'), s') →
    ∃ rows, since.AnsweredSince s' (q.command l) rows ∧ a = q.read rows
  lasts : ∀ a l' s', (q.ask l).run s = (.ok (a, l'), s') → ∀ l₂ s₂, l'.Meanwhile s' l₂ s₂ →
    l₂.store.features = none → (q.ask l₂).run s₂ = (.ok (a, l₂), s₂)

namespace Question

variable {α : Type} {q : Question α}

theorem answer_known {a : α} (known : q.known l = some a) (s : Session) : (q.answer l).run s = (.ok (a, l), s) := by
  unfold answer
  rw [known]
  rfl

theorem answer_unknown (unknown : q.known l = none) :
    q.answer l = (do
      let rows ← queryAll l.base.endpoint (q.text l)
      return (q.read rows, q.remember (q.read rows) l)) := by
  unfold answer
  rw [unknown]

theorem answer_failed {fault : Warehouse.Error} (unknown : q.known l = none)
    (outcome : (s.answer s.log.size (q.command l)).outcome = .error fault) :
    (q.answer l).run s = (.error (.warehouse fault), s.queried (q.command l)) := by
  rw [answer_unknown unknown, Warehouse.Action.run_bind, queryAll_run, ← command, outcome]
  rfl

theorem answer_replied {rows : List Row} (unknown : q.known l = none)
    (outcome : (s.answer s.log.size (q.command l)).outcome = .ok rows) :
    (q.answer l).run s = (.ok (q.read rows, q.remember (q.read rows) l), s.queried (q.command l)) := by
  rw [answer_unknown unknown, Warehouse.Action.run_bind, queryAll_run, ← command, outcome]
  rfl

theorem answer_ok {a : α} (h : (q.answer l).run s = (.ok (a, l'), s')) :
    l.Recalls l' ∧ q.known l' = some a ∧ (q.known l = some a ∧ s' = s ∨
      ∃ rows, s.AnsweredSince s' (q.command l) rows ∧ a = q.read rows) := by
  cases before : q.known l with
  | some b =>
    rw [answer_known before] at h
    cases h
    exact ⟨.refl l, before, .inl ⟨rfl, rfl⟩⟩
  | none =>
    rw [answer_unknown before] at h
    obtain ⟨rows, s₁, asked, returned⟩ := Warehouse.Action.bind_ok h
    cases returned
    exact ⟨q.remember_recalls _ l before, q.known_remember _ l, .inr ⟨rows, queryAll_ok asked, rfl⟩⟩

theorem told (answers : ∀ l', l.Recalls l' → l'.store.features = none → q.ask l' = q.answer l')
    (unloaded : l.store.features = none) (started : since.Precedes s)
    (remembers : ∀ a, q.known l = some a → ∃ rows, since.AnsweredSince s (q.command l) rows ∧ a = q.read rows) :
    q.Told since l s := by
  have asks := answers l (.refl l) unloaded
  constructor
  · intro a known
    rw [asks, answer_known known]
  · intro fault unknown outcome
    rw [asks, answer_failed unknown outcome]
    exact ⟨_, rfl, s.queried_log _, rfl⟩
  · intro rows unknown outcome
    rw [asks, answer_replied unknown outcome]
    exact ⟨_, rfl, s.queried_log _⟩
  · intro a l' s' h
    rw [asks] at h
    rcases (answer_ok h).2.2 with ⟨known, rfl⟩ | ⟨rows, asked, same⟩
    · exact remembers a known
    · exact ⟨rows, asked.within started (.refl _), same⟩
  · -- The answer is known of the layer that asking leaves, and what is known is recalled.
    intro a l' s' h l₂ s₂ meanwhile unloaded'
    rw [asks] at h
    obtain ⟨recalls, known, -⟩ := answer_ok h
    have onward := meanwhile.recalls
    rw [answers l₂ (recalls.trans onward) unloaded', answer_known (q.recalled l' l₂ a onward known)]

end Question

/--
While a layer is not loaded, its count and its extent are what the warehouse said of the rows under the filter that is
set, and the same until a filter is set again. Without a spatial column there is no extent, and nothing is asked. A
filter that is refused leaves the layer as it was.
-/
theorem statistics_follow_filter (course : Course since l s) :
    (l.store.features = none → Question.counting.Told since l s ∧
      ∀ spec, l.spec = some spec → (Question.measuring spec).Told since l s) ∧
    (l.spec = none → l.extent.run s = (.ok (none, l), s)) ∧
    ∀ filter, ∃ isAccepted s', (l.setSubset filter).run s =
      (.ok (isAccepted, if isAccepted then l.refiltered (wanted filter) else l), s') ∧
        (wanted filter = none → isAccepted = true) := by
  obtain ⟨started, remembers⟩ := course.remembers
  refine ⟨fun unloaded => ⟨?_, fun spec column => ?_⟩, fun missing => ?_, fun filter => l.setSubset_run filter s⟩
  · apply Question.told (fun l' _ => featureCount_answer) unloaded started
    rw [Question.command, ← countText_question, counting_read]
    exact remembers.count
  · apply Question.told (fun l' recalls => extent_answer (recalls.spec.trans column)) unloaded started
    intro extent known
    rw [Question.command, ← extentText_question, measuring_read]
    exact remembers.extent spec extent column known
  · unfold extent
    rw [missing]
    rfl

def saying (row : Row) : Session := .start fun _ _ => .rows [] [row] fun _ => .none

def moorings (column : String) (encoding : Encoding) : Descriptor :=
  ⟨"c", .table none "MOORINGS", some column, some .point, some encoding, some 4326, none⟩

def noticing : Action Layer := ofDescriptor (.ofSource "c" (.table none "NOTICES")) .unset .standard

def mooring (d : Descriptor) : Action (Bool × Layer) := do
  let l ← ofDescriptor d .unset .standard
  l.setSubset (some " DEEP ")

structure Deep (row : Row) (spec : GeometryColumn) (l : Layer) (s : Session) : Prop where
  course : Course s l s
  source : l.base.source = .table none "MOORINGS"
  filter : l.base.subsetFilter = some "DEEP"
  column : l.spec = some spec
  unloaded : l.store.features = none
  noCount : l.countCache = none
  noExtent : l.extentCache = none
  reply : ∀ command, (s.answer s.log.size command).outcome = .ok [row]

theorem Deep.text {row : Row} {spec : GeometryColumn} (deep : Deep row spec l s) {α : Type} (q : Question α) :
    q.text l = q.select ++ ("\"MOORINGS\"" ++ conditionText (q.guard l) (some "DEEP")) := by
  have source : (Source.table none "MOORINGS").fromClause = "\"MOORINGS\"" := by decide +kernel
  rw [Question.text, deep.source, deep.filter, source]

theorem Deep.guard {row : Row} {spec : GeometryColumn} (deep : Deep row spec l s) :
    Question.counting.guard l = if spec.encoding = .cellId then some (Query.guardText spec) else none := by
  change (l.spec.filter (·.encoding = .cellId)).map Query.guardText = _
  rw [deep.column]
  by_cases cells : spec.encoding = .cellId <;> simp [cells, Option.filter_some]

theorem deep_of_mooring {d : Descriptor} {row : Row} {spec : GeometryColumn}
    (begun : ((mooring d).run (saying row)).1.toOption.map (fun (isAccepted, l) => (isAccepted, l.base.source, l.spec)) =
      some (true, .table none "MOORINGS", some spec)) : ∃ l s, Deep row spec l s := by
  rcases outcome : (mooring d).run (saying row) with ⟨e | ⟨isAccepted, l⟩, s⟩
  · rw [outcome] at begun
    cases begun
  rw [outcome] at begun
  simp only [Except.toOption, Option.map_some, Option.some.injEq, Prod.mk.injEq] at begun
  obtain ⟨rfl, source, column⟩ := begun
  obtain ⟨l₀, s₀, opens, accepted⟩ := Warehouse.Action.bind_ok outcome
  have course : Course s l s := by
    have filtered := Course.refiltered (.opened opens) ⟨_, l, s, rfl, accepted⟩
    rwa [called, accepted] at filtered
  have precedes := ((ofDescriptor_keeps precedes_frame d .unset .standard).outcome opens).trans
    ((setSubset_keeps precedes_frame l₀ _).outcome accepted)
  have reply : ∀ command, (s.answer s.log.size command).outcome = .ok [row] := by
    rw [precedes.answer]
    exact fun _ => rfl
  obtain ⟨decided, s₁, ran, -⟩ := l₀.setSubset_run (some " DEEP ") s₀
  cases accepted.symm.trans ran
  have trimmed : wanted (some " DEEP ") = some "DEEP" := by decide +kernel
  exact ⟨_, s, course, source, trimmed, column, rfl, rfl, rfl, reply⟩

def deepExtentText (target condition : String) : String :=
  "SELECT MIN(ST_XMIN(" ++ target ++ ")), MIN(ST_YMIN(" ++ target ++ ")), MAX(ST_XMAX(" ++ target ++
    ")), MAX(ST_YMAX(" ++ target ++ ")) FROM \"MOORINGS\" WHERE " ++ condition

/-- The layer is counted and measured by these statements, and then known: a scan that is opened does not change it. -/
def CountedOnce (countText extentText : String) (count : Nat) (box : Option BoundingBox) (l : Layer) (s : Session) :
    Prop :=
  ∃ counted measured s₁ s₂,
    (l.featureCount.run s = (.ok (count, counted), s₁) ∧ s₁.log = s.log.push (l.base.endpoint.command countText) ∧
      let (later, s') := counted.called s₁ (.getFeatures .all)
      later.featureCount.run s' = (.ok (count, later), s')) ∧
    l.extent.run s = (.ok (box, measured), s₂) ∧ s₂.log = s.log.push (l.base.endpoint.command extentText) ∧
      let (later, s') := measured.called s₂ (.getFeatures .all)
      later.extent.run s' = (.ok (box, later), s')

def deepBox : BoundingBox := ⟨.ofInt 3, .ofInt 47, .ofInt 9, .ofInt 55⟩

/-- Among the deep moorings there are points, of which the extent is not told, and cells, which have to be valid. -/
theorem deep_moorings_are_counted_once :
    (∃ l s, Course s l s ∧ l.base.subsetFilter = some "DEEP" ∧
      l.CountedOnce "SELECT COUNT(*) FROM \"MOORINGS\" WHERE (DEEP)"
        (deepExtentText "\"PLACE\"" "ST_ASGEOJSON(\"PLACE\"):type::string IN ('Point') AND (DEEP)") 3 none s) ∧
    ∃ l s, Course s l s ∧ l.base.subsetFilter = some "DEEP" ∧
      l.CountedOnce "SELECT COUNT(*) FROM \"MOORINGS\" WHERE H3_IS_VALID_CELL(\"CELL\") AND (DEEP)"
        (deepExtentText "H3_CELL_TO_BOUNDARY(\"CELL\")" "H3_IS_VALID_CELL(\"CELL\") AND (DEEP)") 3 deepBox s := by
  have scanned : ∀ (l : Layer) s, ¬ l.Refilters s (.getFeatures .all) := by
    rintro l s ⟨filter, left, s', ⟨⟩, -⟩
  have once {row : Row} {spec : GeometryColumn} {l : Layer} {s : Session} (deep : Deep row spec l s) :
      l.CountedOnce (Question.counting.text l) ((Question.measuring spec).text l) (toldCount [row]) (toldExtent [row])
        s := by
    obtain ⟨counting, measuring⟩ := (statistics_follow_filter deep.course).1 deep.unloaded
    replace measuring := measuring spec deep.column
    obtain ⟨s₁, counts, counted⟩ := counting.answered _ deep.noCount (deep.reply _)
    obtain ⟨s₂, measures, measured⟩ := measuring.answered _ deep.noExtent (deep.reply _)
    exact ⟨_, _, s₁, s₂,
      ⟨counts, counted, counting.lasts _ _ _ counts _ _ (.called .none _ (scanned _ _)) deep.unloaded⟩,
      measures, measured, measuring.lasts _ _ _ measures _ _ (.called .none _ (scanned _ _)) deep.unloaded⟩
  constructor
  · let place : GeometryColumn := ⟨"PLACE", .geometry, some .point, some 4326⟩
    obtain ⟨l, s, deep⟩ : ∃ l s, Deep [.int 3] place l s :=
      deep_of_mooring (d := moorings "PLACE" .geometry) (by decide +kernel)
    have countText : Question.counting.text l = "SELECT COUNT(*) FROM \"MOORINGS\" WHERE (DEEP)" := by
      rw [deep.text, deep.guard]
      decide +kernel
    have guarded : (Question.measuring place).guard l = some (Query.guardText place) := rfl
    have extentText : (Question.measuring place).text l =
        deepExtentText "\"PLACE\"" "ST_ASGEOJSON(\"PLACE\"):type::string IN ('Point') AND (DEEP)" := by
      rw [deep.text, guarded]
      decide +kernel
    exact ⟨l, s, deep.course, deep.filter, countText ▸ extentText ▸ once deep⟩
  · let cell : GeometryColumn := ⟨"CELL", .cellId, none, some 4326⟩
    obtain ⟨l, s, deep⟩ : ∃ l s, Deep [.int 3, .int 47, .int 9, .int 55] cell l s :=
      deep_of_mooring (d := moorings "CELL" .cellId) (by decide +kernel)
    have countText : Question.counting.text l =
        "SELECT COUNT(*) FROM \"MOORINGS\" WHERE H3_IS_VALID_CELL(\"CELL\") AND (DEEP)" := by
      rw [deep.text, deep.guard]
      decide +kernel
    have guarded : (Question.measuring cell).guard l = some (Query.guardText cell) := rfl
    have extentText : (Question.measuring cell).text l =
        deepExtentText "H3_CELL_TO_BOUNDARY(\"CELL\")" "H3_IS_VALID_CELL(\"CELL\") AND (DEEP)" := by
      rw [deep.text, guarded]
      decide +kernel
    have box : toldExtent [[.int 3, .int 47, .int 9, .int 55]] = some deepBox := by decide +kernel
    exact ⟨l, s, deep.course, deep.filter, countText ▸ extentText ▸ box ▸ once deep⟩

/-- Without a spatial column no statement gave the extent; and removing no filter at all makes the count forgotten. -/
theorem notices_are_counted_anew :
    (¬ ∀ (since s s' : Session) (l l' : Layer) (extent : Option BoundingBox), Course since l s →
      l.store.features = none → l.extent.run s = (.ok (extent, l'), s') → ∃ number select guard rows,
        s'.Answered number (l.base.endpoint.command
          (select ++ (l.base.source.fromClause ++ conditionText guard l.base.subsetFilter))) rows ∧
          extent = toldExtent rows) ∧
    ¬ ∀ (since s s₁ s₂ : Session) (l counted cleared : Layer) (count : Nat), Course since l s →
      l.store.features = none → l.featureCount.run s = (.ok (count, counted), s₁) →
      counted.called s₁ (.setSubset none) = (cleared, s₂) → cleared.base.subsetFilter = counted.base.subsetFilter →
        cleared.featureCount.run s₂ = (.ok (count, cleared), s₂) := by
  have begun : (noticing.run (saying [.int 3])).1.toOption.map (fun l =>
      (l.spec.isNone, l.store.features.isNone, l.base.source.fromClause)) = some (true, true, "\"NOTICES\"") := by
    decide +kernel
  have unquoted : (noticing.run (saying [.int 3])).2.log.toList.all (fun command => !command.sql.toList.contains '"') := by
    decide +kernel
  rcases outcome : noticing.run (saying [.int 3]) with ⟨e | l, s⟩
  · rw [outcome] at begun
    cases begun
  rw [outcome] at begun unquoted
  simp only [Except.toOption, Option.map_some, Option.some.injEq, Prod.mk.injEq, Option.isNone_iff_eq_none] at begun
  obtain ⟨missing, unloaded, source⟩ := begun
  have course : Course s l s := .opened outcome
  constructor
  · intro always
    have measured : l.extent.run s = (.ok (none, l), s) := by
      unfold extent
      rw [missing]
      rfl
    obtain ⟨number, select, guard, rows, ⟨logged, -⟩, -⟩ := always s s s l l none course unloaded measured
    -- The catalog was asked by literals, and a statement about the rows of the source has its name in quotes.
    have quoted : '"' ∈ (select ++ (l.base.source.fromClause ++ conditionText guard l.base.subsetFilter)).toList := by
      rw [source]
      simp
    have unquoted := List.all_eq_true.mp unquoted _ (List.mem_of_getElem? logged)
    simp only [Warehouse.Endpoint.command, Bool.not_eq_true', List.contains_eq_mem, decide_eq_false_iff_not] at unquoted
    exact unquoted quoted
  · intro always
    have reply : ∀ s', (saying [.int 3]).Precedes s' → ∀ command, (s'.answer s'.log.size command).outcome = .ok [[.int 3]] := by
      intro s' precedes command
      rw [precedes.answer]
      rfl
    have fresh := ofDescriptor_fresh outcome
    have opening := (ofDescriptor_keeps precedes_frame _ .unset .standard).outcome outcome
    have counts := Question.answer_replied (q := .counting) fresh.countCache (reply s opening _)
    rw [← featureCount_answer unloaded] at counts
    have counting := opening.trans ((l.featureCount_keeps precedes_frame).outcome counts)
    let counted := Question.counting.remember 3 l
    let s₁ := s.queried (Question.counting.command l)
    obtain ⟨isAccepted, s₂, clears, accepts⟩ := counted.setSubset_run none s₁
    obtain rfl : isAccepted = true := accepts rfl
    have clearing := counting.trans ((setSubset_keeps precedes_frame counted none).outcome clears)
    let cleared := counted.refiltered none
    have unknown : Question.counting.known cleared = none := rfl
    have recounts := Question.answer_replied unknown (reply s₂ clearing _)
    have left : counted.called s₁ (.setSubset none) = (cleared, s₂) := by
      rw [called, clears]
      rfl
    have again := always s s s₁ s₂ l counted cleared 3 course unloaded counts left fresh.subsetFilter.symm
    rw [featureCount_answer rfl, recounts] at again
    -- The second count runs a statement of its own.
    have same : s₂.queried (Question.counting.command cleared) = s₂ := congrArg Prod.snd again
    have logged := s₂.queried_log (Question.counting.command cleared)
    rw [same] at logged
    exact absurd (congrArg Array.size logged) (by rw [Array.size_push]; omega)

end FeatureLayers.Layer
