import FeatureLayers.Proofs.Layer.Asking
import FeatureLayers.Proofs.Source.Bodies

namespace FeatureLayers

namespace Warehouse.Action

variable {ε α β : Type}

theorem bind_error {action : Action ε α} {next : α → Action ε β} {s s' : Session} {e : ε}
    (h : (action >>= next).run s = (.error e, s')) :
    action.run s = (.error e, s') ∨ ∃ a s₁, action.run s = (.ok a, s₁) ∧ (next a).run s₁ = (.error e, s') := by
  rw [run_bind] at h
  split at h
  · rename_i a s₁ first
    exact .inr ⟨a, s₁, first, h⟩
  · rename_i fault s₁ first
    cases h
    exact .inl first

end Warehouse.Action

namespace Layer

open Warehouse (Session)

variable {α β : Type}

def OnlyWarehouseFails (action : Action α) : Prop :=
  ∀ ⦃s s' e⦄, action.run s = (.error e, s') → ∃ fault, e = .warehouse fault

namespace OnlyWarehouseFails

theorem pure (a : α) : OnlyWarehouseFails (pure a) := nofun

theorem note (level : Journal.Level) (topic : Journal.Topic) (message : String) :
    OnlyWarehouseFails (Warehouse.Action.note level topic message) := nofun

theorem bind {action : Action α} {next : α → Action β} (first : OnlyWarehouseFails action)
    (second : ∀ a, OnlyWarehouseFails (next a)) : OnlyWarehouseFails (action >>= next) := by
  intro s s' e h
  rcases Warehouse.Action.bind_error h with failed | ⟨a, s₁, -, failed⟩
  · exact first failed
  · exact second a failed

theorem map {action : Action α} (first : OnlyWarehouseFails action) (f : α → β) :
    OnlyWarehouseFails (do return f (← action)) := first.bind fun a => pure (f a)

theorem mapM {action : α → Action β} (each : ∀ a, OnlyWarehouseFails (action a)) (items : List α) :
    OnlyWarehouseFails (items.mapM action) := by
  induction items with
  | nil => exact pure []
  | cons item items ih =>
    rw [List.mapM_cons]
    exact (each item).bind fun b => ih.map (b :: ·)

theorem filterM {accepts : α → Action Bool} (each : ∀ a, OnlyWarehouseFails (accepts a)) (items : List α) :
    OnlyWarehouseFails (items.filterM accepts) := by
  have collects : ∀ items found, OnlyWarehouseFails (List.filterAuxM accepts items found) := by
    intro items
    induction items with
    | nil => exact pure
    | cons item items ih => exact fun found => (each item).bind fun accepted => ih _
  exact (collects items []).map List.reverse

theorem ofWarehouse (action : Warehouse.Action Warehouse.Error α) : OnlyWarehouseFails (ofWarehouse action) := by
  intro s s' e h
  rw [ofWarehouse_run] at h
  cases outcome : (action.run s).1 with
  | ok a =>
    rw [outcome] at h
    cases h
  | error fault =>
    rw [outcome] at h
    cases h
    exact ⟨fault, rfl⟩

theorem rows (endpoint : Warehouse.Endpoint) (sql : String) : OnlyWarehouseFails (queryAll endpoint sql) :=
  ofWarehouse _

theorem columns (endpoint : Warehouse.Endpoint) (fromText : String) :
    OnlyWarehouseFails (describe endpoint fromText) := ofWarehouse _

variable (r : Resolver) (fromText : String)

theorem tableColumns (schema : Option String) (table : String) : OnlyWarehouseFails (r.tableColumns schema table) :=
  (rows _ _).map _

theorem probeCell (column : String) : OnlyWarehouseFails (r.probeCell fromText column) := by
  intro s s' e h
  -- The probe itself is only tried; what it comes to decides.
  rcases Warehouse.Action.bind_error h with tried | ⟨outcome, s₁, -, decided⟩
  · cases tried
  · cases outcome with
    | ok found => cases decided
    | error fault =>
      dsimp only at decided
      split at decided
      · cases decided
      · cases decided
        exact ⟨fault, rfl⟩

theorem observedKind (row : Row) : OnlyWarehouseFails (Resolver.observedKind row) := by
  unfold Resolver.observedKind
  split
  · exact pure none
  · dsimp only
    split
    · exact (note _ _ _).map fun _ => _
    · exact pure _

theorem declaredSpecs (declared : String × Encoding) : OnlyWarehouseFails (r.declaredSpecs fromText declared) := by
  obtain ⟨column, encoding⟩ := declared
  have kinds : OnlyWarehouseFails (r.geometryKinds fromText column) :=
    (rows _ _).bind fun _ => (mapM observedKind _).map _
  cases encoding with
  | geometry => exact ((rows _ _).map _).bind fun srid => kinds.map _
  | geography => exact (pure _).bind fun srid => kinds.map _
  | cellId => exact (pure _).bind fun srid => kinds.map _

theorem resolveAll (source : Source) : OnlyWarehouseFails (r.resolveAll source) := by
  have listed : OnlyWarehouseFails (r.split source) := by
    cases source with
    | table schema name => exact (tableColumns r schema name).map _
    | query sql => exact (columns _ _).map _
  refine listed.bind fun found => (mapM (declaredSpecs r _) _).bind fun declared => ?_
  exact (filterM (probeCell r _) _).bind fun cells => (note _ _ _).map _

theorem findSpec (d : Descriptor) : OnlyWarehouseFails (findSpec r d) := by
  unfold Layer.findSpec
  split
  · split
    · exact ((rows _ _).map _).map _
    · exact pure _
  · exact (resolveAll r _).map _

theorem findFields (source : Source) : OnlyWarehouseFails (findFields r source) := by
  cases source with
  | table schema name => exact (tableColumns r schema name).map _
  | query sql => exact (columns _ _).map _

theorem noteWhen (condition : Bool) (message : String) : OnlyWarehouseFails (noteWhen condition message) := by
  unfold Layer.noteWhen
  split
  · exact note _ _ _
  · exact pure _

theorem assess (settings : Settings) (endpoint : Warehouse.Endpoint) (spec : Option GeometryColumn) :
    OnlyWarehouseFails (spec.mapM fun spec => Sampling.assess settings endpoint fromText spec.encoding) := by
  cases spec with
  | none => exact pure none
  | some spec => exact (((rows _ _).map _).bind fun count => (note _ _ _).map _).map some

end OnlyWarehouseFails

variable {d : Descriptor} {context : Warehouse.Context} {settings : Settings} {s : Session}

theorem ofDescriptor_empty (empty : d.source.isEmptyQuery) :
    (ofDescriptor d context settings).run s = (.error emptyQuery, s) := by
  rw [ofDescriptor, if_pos empty]
  rfl

theorem ofDescriptor_fails (filled : d.source.isEmptyQuery = false) :
    OnlyWarehouseFails (ofDescriptor d context settings) := by
  rw [ofDescriptor, filled, if_neg Bool.false_ne_true]
  refine (OnlyWarehouseFails.findSpec _ d).bind fun spec => ?_
  refine (OnlyWarehouseFails.noteWhen _ _).bind fun _ => ?_
  refine (OnlyWarehouseFails.findFields _ _).bind fun fields => ?_
  refine (OnlyWarehouseFails.noteWhen _ _).bind fun _ => ?_
  refine (OnlyWarehouseFails.assess _ _ _ spec).bind fun sampling => ?_
  exact (OnlyWarehouseFails.note _ _ _).map _

theorem ofDescriptor_rejects_iff :
    (∃ reason, ((ofDescriptor d context settings).run s).1 = .error (.invalidSource reason)) ↔
      d.source.isEmptyQuery := by
  constructor
  · rintro ⟨reason, rejected⟩
    rw [← Bool.not_eq_false]
    intro filled
    obtain ⟨fault, other⟩ := ofDescriptor_fails filled (Prod.ext rejected rfl)
    cases other
  · intro empty
    exact ⟨"empty query", by rw [ofDescriptor_empty empty]; rfl⟩

/--
The text of a query between its parentheses begins with no blank and ends in no semicolon, and what is refused is filler
throughout. That the text loses all filler at its end, and that all such queries are refused, holds exactly where the
filler is semicolons with nothing but blanks after them; behind any other filler the text ends in a blank.
-/
theorem query_is_normalised_unless_mixed (sql : String) (d : Descriptor) (context : Warehouse.Context)
    (settings : Settings) (s : Session) :
    (∃ inner, (Source.query sql).fromClause = "(" ++ String.ofList inner ++ ")" ∧
      (∀ c ∈ inner.head?, Text.isBlank c = false) ∧ (∀ c ∈ inner.getLast?, c ≠ ';') ∧
      (inner = Source.statement sql ↔ Source.Tidy (Source.ending sql)) ∧
      ((∀ c ∈ inner.getLast?, Text.isBlank c = false) ↔ Source.Tidy (Source.ending sql))) ∧
    ((∃ reason, ((ofDescriptor { d with source := .query sql } context settings).run s).1 =
        .error (.invalidSource reason)) ↔
      (∀ c ∈ sql.toList, Source.isFiller c) ∧ Source.Tidy (Source.ending sql)) := by
  refine ⟨⟨Source.queryBody sql, rfl, Source.queryBody_first, Source.queryBody_last,
    Source.queryBody_eq_statement_iff, ?_⟩, ofDescriptor_rejects_iff.trans Source.isEmptyQuery_iff⟩
  constructor
  · intro solid
    refine Classical.byContradiction fun mixed => ?_
    obtain ⟨c, last, blank⟩ := Source.queryBody_mixed mixed
    exact Bool.false_ne_true ((solid c last).symm.trans blank)
  · intro tidy c last
    rw [Source.queryBody_eq_statement_iff.mpr tidy] at last
    exact (Source.statement_last c last).1

/-- A blank between two semicolons keeps the first of them. -/
theorem mixed_filler_is_kept :
    (Source.query "SELECT 1; ;").fromClause = "(SELECT 1; )" ∧
    String.ofList (Source.statement "SELECT 1; ;") = "SELECT 1" ∧
    (∀ c ∈ "; ;".toList, Source.isFiller c) ∧
    ∀ (d : Descriptor) (context : Warehouse.Context) (settings : Settings) (s : Session) (reason : String),
      ((ofDescriptor { d with source := .query "; ;" } context settings).run s).1 ≠ .error (.invalidSource reason) := by
  refine ⟨by decide, by decide, List.all_eq_true.mp (by decide), fun d context settings s reason rejected => ?_⟩
  have empty := ofDescriptor_rejects_iff.mp ⟨reason, rejected⟩
  have filled : (Source.query "; ;").isEmptyQuery = false := by decide
  exact Bool.false_ne_true (filled.symm.trans empty)

end Layer

end FeatureLayers
