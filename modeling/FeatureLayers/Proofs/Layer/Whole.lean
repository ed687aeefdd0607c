import FeatureLayers.Layer.Features
import FeatureLayers.Proofs.Query.Composed
import FeatureLayers.Proofs.Scan.Ending
import FeatureLayers.Proofs.Scan.Opening

namespace FeatureLayers

open Warehouse (Session)

namespace Layer

/-- The statement asks for all of the layer, with `filter` for its subset filter. -/
structure Composes (l : Layer) (filter : Option String) (statement : Query.Statement) (decoder : Decode.RowDecoder) :
    Prop where
  request : ∃ spec request, l.spec = some spec ∧ request.isUnfiltered = true ∧
    Query.compose (Scan.queryPlan { l.base with subsetFilter := filter } spec) request none none = .ok statement ∧
    decoder = .of statement.layout l.base.fields spec.encoding none
  filters : statement.filters = (filter.map Query.Filter.subset).toList
  unsampled : statement.sampleLimit = none

/-- The features of all rows of one answer to a statement for all of the layer. -/
def Whole (l : Layer) (session : Session) (filter : Option String) (features : List Feature) : Prop :=
  ∃ statement decoder number rows, l.Composes filter statement decoder ∧
    session.Answered number (l.base.endpoint.command statement.toSql) rows ∧ features = decoder.features rows

/-- Which filters may stand for which in a generation: that of a scan, and that which is set. -/
abbrev Excuse := Nat → Option String → Option String → Prop

def Excuse.Within (excuse excuse' : Excuse) : Prop :=
  ∀ generation filter current, excuse generation filter current → excuse' generation filter current

theorem Excuse.Within.refl (excuse : Excuse) : excuse.Within excuse := fun _ _ _ => id

/-- What may be published in a generation: features of the subset filter that is set, or excused ones of another. -/
def Admits (l : Layer) (excuse : Excuse) (generation : Nat) (filter : Option String) : Prop :=
  filter = l.base.subsetFilter ∨ excuse generation filter l.base.subsetFilter

def Sound (l : Layer) (excuse : Excuse) (session : Session) (store : Store) : Prop :=
  ∀ features, store.features = some features →
    ∃ filter, l.Whole session filter features ∧ l.Admits excuse store.generation filter

/-- The scan can publish in that generation, and what it then publishes will be whole. -/
structure Armed (l : Layer) (excuse : Excuse) (session : Session) (store : Store) (scan : Scan) (generation : Nat)
    (filter : Option String) (statement : Query.Statement) (decoder : Decode.RowDecoder) : Prop where
  composes : l.Composes filter statement decoder
  work : scan.work = .statement statement decoder
  endpoint : scan.endpoint = l.base.endpoint
  past : generation ≤ store.generation
  admitted : generation = store.generation → l.Admits excuse generation filter
  reading : ∀ result buffer isDrained, scan.phase = .streaming result buffer isDrained →
    ∃ number rows, session.Answered number (l.base.endpoint.command statement.toSql) rows ∧
      scan.Reads rows decoder result buffer isDrained

def Tends (l : Layer) (excuse : Excuse) (session : Session) (store : Store) (scan : Scan) : Prop :=
  ∀ generation, scan.publication = some generation →
    ∃ filter statement decoder, l.Armed excuse session store scan generation filter statement decoder

/-- The same source later. Its subset filter and its transforms may be others, but a filter only in a new generation. -/
structure Onward (l : Layer) (store : Store) (l' : Layer) (store' : Store) : Prop where
  base : l'.base = { l.base with subsetFilter := l'.base.subsetFilter, transforms := l'.base.transforms }
  spec : l'.spec = l.spec
  generation : store.generation ≤ store'.generation
  filter : store'.generation = store.generation → l'.base.subsetFilter = l.base.subsetFilter

variable {l l' : Layer} {excuse excuse' : Excuse} {session session' : Session} {store store' : Store}
  {filter : Option String} {statement : Query.Statement} {decoder : Decode.RowDecoder} {features : List Feature}
  {scan scan' : Scan} {generation : Nat}

theorem Onward.of_le (le : store.generation ≤ store'.generation) : l.Onward store l store' :=
  ⟨rfl, rfl, le, fun _ => rfl⟩

theorem Onward.stored (stored : Store) (le : store.generation ≤ store'.generation) :
    l.Onward store { l with store := stored } store' := ⟨rfl, rfl, le, fun _ => rfl⟩

theorem Onward.endpoint (onward : l.Onward store l' store') : l'.base.endpoint = l.base.endpoint := by
  rw [onward.base]

theorem Composes.all (composes : l.Composes filter statement decoder) :
    ∃ spec, l.spec = some spec ∧
      Query.compose (Scan.queryPlan { l.base with subsetFilter := filter } spec) .all none none = .ok statement := by
  obtain ⟨spec, request, found, unfiltered, composed, -⟩ := composes.request
  obtain ⟨rect, expression, ids, attributes, noGeometry, srid⟩ := request
  simp only [Request.isUnfiltered, Bool.and_eq_true, Option.isNone_iff_eq_none, Bool.not_eq_true'] at unfiltered
  obtain ⟨⟨⟨⟨rfl, rfl⟩, rfl⟩, rfl⟩, rfl⟩ := unfiltered
  exact ⟨spec, found, composed⟩

theorem Composes.later (composes : l.Composes filter statement decoder) (onward : l.Onward store l' store') :
    l'.Composes filter statement decoder := by
  obtain ⟨⟨spec, request, found, unfiltered, composed, decodes⟩, filters, unsampled⟩ := composes
  refine ⟨⟨spec, request, onward.spec.trans found, unfiltered, ?_, ?_⟩, filters, unsampled⟩
  · rw [onward.base]
    exact composed
  · rw [onward.base]
    exact decodes

theorem Whole.later (whole : l.Whole session filter features) (onward : l.Onward store l' store')
    (precedes : session.Precedes session') : l'.Whole session' filter features := by
  obtain ⟨statement, decoder, number, rows, composes, answered, same⟩ := whole
  rw [← onward.endpoint] at answered
  exact ⟨statement, decoder, number, rows, composes.later onward, answered.later precedes, same⟩

theorem Admits.weaken (admits : l.Admits excuse generation filter)
    (excused : excuse.Within excuse')
    (same : l'.base.subsetFilter = l.base.subsetFilter) : l'.Admits excuse' generation filter := by
  unfold Admits at admits ⊢
  rw [same]
  exact admits.imp_right (excused _ _ _)

theorem Sound.later (sound : l.Sound excuse session store) (onward : l.Onward store l' store)
    (precedes : session.Precedes session')
    (excused : excuse.Within excuse') :
    l'.Sound excuse' session' store := by
  intro features loaded
  obtain ⟨filter, whole, admits⟩ := sound features loaded
  exact ⟨filter, whole.later onward precedes, admits.weaken excused (onward.filter rfl)⟩

theorem Sound.invalidated (l : Layer) (excuse : Excuse) (session : Session) (store : Store) :
    l.Sound excuse session store.invalidate := nofun

theorem Armed.later (armed : l.Armed excuse session store scan generation filter statement decoder)
    (onward : l.Onward store l' store') (precedes : session.Precedes session')
    (excused : excuse.Within excuse') :
    l'.Armed excuse' session' store' scan generation filter statement decoder where
  composes := armed.composes.later onward
  work := armed.work
  endpoint := armed.endpoint.trans onward.endpoint.symm
  past := Nat.le_trans armed.past onward.generation
  admitted same := by
    have still : store'.generation = store.generation :=
      Nat.le_antisymm (same ▸ armed.past) onward.generation
    exact (armed.admitted (same.trans still)).weaken excused (onward.filter still)
  reading result buffer isDrained phase := by
    obtain ⟨number, rows, answered, reads⟩ := armed.reading result buffer isDrained phase
    rw [← onward.endpoint] at answered
    exact ⟨number, rows, answered.later precedes, reads⟩

theorem Tends.later (tends : l.Tends excuse session store scan) (onward : l.Onward store l' store')
    (precedes : session.Precedes session')
    (excused : excuse.Within excuse') :
    l'.Tends excuse' session' store' scan := by
  intro generation publication
  obtain ⟨filter, statement, decoder, armed⟩ := tends generation publication
  exact ⟨filter, statement, decoder, armed.later onward precedes excused⟩

theorem Tends.listening (tends : l.Tends excuse session store scan) :
    l.Tends excuse session store scan.listeningToShared := by
  intro generation published
  obtain ⟨filter, statement, decoder, armed⟩ := tends generation published
  refine ⟨filter, statement, decoder, { armed with reading := fun result buffer isDrained phase => ?_ }⟩
  obtain ⟨number, rows, answered, reads⟩ := armed.reading result buffer isDrained phase
  exact ⟨number, rows, answered, { reads with }⟩

end Layer

end FeatureLayers
