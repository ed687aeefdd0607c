import FeatureLayers.Proofs.Layer.Listing
import FeatureLayers.Proofs.Workspace.Remembering

namespace FeatureLayers

open Warehouse (Session)

theorem Layer.Exposes.inquire {spec : GeometryColumn} {names : List String} {l l' : Layer} {inquiry : Inquiry}
    {s s' : Session} (exposes : l.Exposes spec names) (h : (l.inquire inquiry).run s = (.ok ((), l'), s')) :
    l'.Exposes spec names := by
  rcases Layer.inquire_cases h with rfl | ⟨count, counted⟩ | ⟨extent, measured⟩
  · exact exposes
  · rw [featureCount_left counted]
    exact { exposes with }
  · rw [extent_left measured]
    exact { exposes with }

namespace Workspace

/-- A statement for features of the layer: one that is composed for it, or that of a scan of it. -/
inductive StatementOf (w : Workspace) (i : Nat) (statement : Query.Statement) : Prop
  | composed {l spec} (request expression box) (here : w.layers[i]? = some l) (found : l.spec = some spec)
      (composed : Query.compose (Scan.queryPlan l.base spec) request expression box = .ok statement)
  | explained {l s} (request) (here : w.layers[i]? = some l)
      (explained : (l.explain request).run w.session = (.ok statement, s))
  | begun {l scan s} (request) (here : w.layers[i]? = some l)
      (begun : (l.getFeatures request).run w.session = (.ok scan, s)) (asked : scan.statement? = some statement)
  | held {k found} (here : w.scan? k = some found) (layer : found.layer = some i)
      (asked : found.scan.statement? = some statement)

theorem exposes_lasting (i : Nat) (spec : GeometryColumn) (names : List String) (activity : Activity) :
    Lasting (i + 1) (fun j l _ => j = i → l.Exposes spec names)
      (fun j scan => j = i → ∀ statement, scan.statement? = some statement → statement.Sees spec names) activity where
  later holds _ := holds
  opens beyond _ same := absurd same (by omega)
  registers transform holds same := { holds same with }
  filters holds filtered same := (holds same).setSubset filtered
  loads holds loaded same := by
    rw [Layer.loadAll_left loaded]
    exact { holds same with }
  inquires holds inquired same := (holds same).inquire inquired
  adopts _ holds adopted same := by
    obtain ⟨⟨⟩, s₁, noted, returned⟩ := Warehouse.Action.bind_ok adopted
    cases returned
    exact { holds same with }
  begins shared holds begun same statement asked := by
    refine (holds same).getFeatures begun ?_
    rw [← asked]
    split <;> rfl
  used run use holds := by
    have remains : run.scan.Remains (run.used use).scan := Run.remains_used ⟨rfl, rfl, rfl, rfl⟩ use
    refine ⟨fun same statement asked => holds same statement ?_, fun l s exposes _ same => { exposes same with }⟩
    rw [← asked]
    unfold Scan.statement?
    rw [remains.work]

theorem StatementOf.sees {w : Workspace} {i : Nat} {statement : Query.Statement} {spec : GeometryColumn}
    {names : List String} (exposes : ∀ l, w.layers[i]? = some l → l.Exposes spec names)
    (scans : ∀ k found, w.scan? k = some found → found.layer = some i →
      ∀ statement, found.scan.statement? = some statement → statement.Sees spec names)
    (of : w.StatementOf i statement) : statement.Sees spec names := by
  cases of with
  | composed request expression box here found composed =>
    cases (exposes _ here).column.symm.trans found
    exact (exposes _ here).composes composed
  | explained request here explained => exact (exposes _ here).explain explained
  | begun request here begun asked => exact (exposes _ here).getFeatures begun asked
  | held here layer asked => exact scans _ _ here layer _ asked

/--
Whatever is done with an open layer, the expression or subset filter of each of its statements sees the listed columns
of the source that are not declared spatial and the column of the layer. Of the other spatial columns it sees none,
unless the name is also that of an attribute; on the source, where filters are tried, it would.
-/
theorem filters_see_attributes_and_own_column (session : Session) (before later : List Activity) (d : Descriptor)
    (context : Warehouse.Context) (settings : Settings) (l : Layer) (w : Workspace) (spec : GeometryColumn)
    (opened : ((start session).engaged before).openLayer d context settings = (.ok l, w)) (found : l.spec = some spec) :
    let i := ((start session).engaged before).layers.size
    ∃ listed, d.source.ListedSince ⟨d.connection, context⟩ ((start session).engaged before).session w.session listed ∧
      ∀ statement, (w.engaged later).StatementOf i statement → statement.Filtered → ∀ column ∈ listed,
        (column.name ∈ statement.shown ↔ (column.isSpatial = true → column.name = spec.column ∨
          ∃ other ∈ listed, other.isSpatial = false ∧ other.name = column.name)) := by
  intro i
  obtain ⟨listed, since, exposes⟩ := Layer.ofDescriptor_exposes (openLayer_ok opened).1 found
  let names := ListedColumn.attributes listed
  have throughout : (w.engaged later).Throughout (i + 1) (fun j l _ => j = i → l.Exposes spec names)
      (fun j scan => j = i → ∀ statement, scan.statement? = some statement → statement.Sees spec names) :=
    (throughout_opened (housed session before) opened exposes).engaged fun activity _ =>
      exposes_lasting i spec names activity
  refine ⟨listed, since, fun statement of filtered column member => ?_⟩
  have sees : statement.Sees spec names :=
    of.sees (fun m here => throughout.layers i m here rfl) fun k found here layer =>
      (throughout.scans k found i here layer).2 rfl
  rw [sees filtered, ListedColumn.mem_attributes]
  cases spatial : column.isSpatial with
  | false => simpa using .inl ⟨column, member, spatial, rfl⟩
  | true =>
    rw [or_comm, @eq_comm _ spec.column]
    exact ⟨fun names _ => names, fun names => names rfl⟩

section Ships

def roads : Session :=
  let columns : List Column := [⟨"NAME", .text, 0⟩, ⟨"PLACE", .geography, 1⟩, ⟨"BOUND", .geography, 2⟩]
  .start fun _ _ => .rows columns [[.int 2]] fun _ => .none

def ships : Descriptor := ⟨"c", .query "q", some "PLACE", some .point, some .geography, some 4326, none⟩

def place : GeometryColumn := ⟨"PLACE", .geography, some .point, some 4326⟩

theorem roads_listed {l : Layer} {w : Workspace} {listed : List ListedColumn}
    (opened : (start roads).openLayer ships .unset .standard = (.ok l, w))
    (since : ships.source.ListedSince ⟨"c", .unset⟩ roads w.session listed) :
    listed = [⟨"NAME", false⟩, ⟨"PLACE", true⟩, ⟨"BOUND", true⟩] := by
  have same := ((Layer.ofDescriptor_keeps Warehouse.Action.precedes_frame ships .unset .standard).outcome
    (openLayer_ok opened).1).answer
  obtain ⟨number, columns, rows, disturbance, -, -, reply, rfl⟩ := since
  rw [same] at reply
  cases reply
  rfl

theorem ships_opened : ∃ l w, (start roads).openLayer ships .unset .standard = (.ok l, w) ∧ l.spec = some place := by
  have spatial : ((start roads).openLayer ships .unset .standard).1.toOption.map (·.spec) = some (some place) := by
    decide +kernel
  obtain ⟨l, ok, found⟩ := Option.map_eq_some_iff.mp spatial
  exact ⟨l, _, Prod.ext (ok_of_toOption ok) rfl, found⟩

/-- The destination is filtered by, and is no column of the inner selection. -/
theorem ships_do_not_show_where_they_are_bound :
    ∃ l w statement, ((start roads).engaged []).openLayer ships .unset .standard = (.ok l, w) ∧
      (w.engaged [.operate (.setSubset 0 (some "\"BOUND\" IS NOT NULL"))]).StatementOf 0 statement ∧
      statement.Filtered ∧ "NAME" ∈ statement.shown ∧ "PLACE" ∈ statement.shown ∧ "BOUND" ∉ statement.shown := by
  have composed : (((((start roads).openLayer ships .unset .standard).2.engaged
      [.operate (.setSubset 0 (some "\"BOUND\" IS NOT NULL"))]).layers[0]?).bind fun l =>
        (Query.compose (Scan.queryPlan l.base place) .all none none).toOption.map fun statement =>
          (l.spec, statement.filters)) = some (some place, [.subset "\"BOUND\" IS NOT NULL"]) := by decide +kernel
  obtain ⟨l, w, opened, found⟩ := ships_opened
  rw [opened] at composed
  obtain ⟨l', here, composed⟩ := Option.bind_eq_some_iff.mp composed
  obtain ⟨statement, composed, same⟩ := Option.map_eq_some_iff.mp composed
  obtain ⟨own, filters⟩ := Prod.mk.inj same
  have filtered : statement.Filtered := ⟨_, .inr (filters ▸ List.mem_cons_self)⟩
  have of := StatementOf.composed .all none none here own (ok_of_toOption composed)
  obtain ⟨listed, since, sees⟩ :=
    filters_see_attributes_and_own_column roads [] [.operate (.setSubset 0 (some "\"BOUND\" IS NOT NULL"))] ships .unset
      .standard l w place opened found
  obtain rfl := roads_listed opened since
  have sees := sees statement of filtered
  exact ⟨l, w, statement, opened, of, filtered, (sees ⟨"NAME", false⟩ (by decide)).mpr (by decide),
    (sees ⟨"PLACE", true⟩ (by decide)).mpr (by decide), mt (sees ⟨"BOUND", true⟩ (by decide)).mp (by decide)⟩

/-- The expression is accepted on a source that has the column it names; the statement does not show that column. -/
theorem accepted_filter_names_what_is_not_shown :
    ∃ l w statement s, (start roads).openLayer ships .unset .standard = (.ok l, w) ∧
      ships.source.ListedSince ⟨"c", .unset⟩ roads w.session [⟨"NAME", false⟩, ⟨"PLACE", true⟩, ⟨"BOUND", true⟩] ∧
      (l.explain { Request.all with expression := some "\"BOUND\" IS NOT NULL" }).run w.session = (.ok statement, s) ∧
      statement.filters = [.expression "\"BOUND\" IS NOT NULL"] ∧ statement.shown = ["NAME", "PLACE"] := by
  have course : (((start roads).openLayer ships .unset .standard).1.toOption.bind fun l =>
      ((l.explain { Request.all with expression := some "\"BOUND\" IS NOT NULL" }).run
        ((start roads).openLayer ships .unset .standard).2.session).1.toOption.map
          fun statement => (statement.filters, statement.shown)) =
      some ([.expression "\"BOUND\" IS NOT NULL"], ["NAME", "PLACE"]) := by decide +kernel
  obtain ⟨l, w, opened, found⟩ := ships_opened
  obtain ⟨listed, since, -⟩ := Layer.ofDescriptor_exposes (openLayer_ok opened).1 found
  obtain rfl := roads_listed opened since
  rw [opened] at course
  obtain ⟨statement, explained, same⟩ := Option.map_eq_some_iff.mp course
  obtain ⟨filters, shown⟩ := Prod.mk.inj same
  exact ⟨l, w, statement, _, opened, since, Prod.ext (ok_of_toOption explained) rfl, filters, shown⟩

end Ships

end Workspace

end FeatureLayers
