import FeatureLayers.Proofs.Layer.Asking
import FeatureLayers.Proofs.Warehouse.Replies
import Mathlib.Data.List.Infix

namespace FeatureLayers

theorem Text.holds_iff_infix {pattern text : List Char} : Text.holds pattern text = true ↔ pattern <:+: text := by
  induction text with
  | nil => simp [Text.holds]
  | cons c text ih =>
    rw [Text.holds, Bool.or_eq_true, ih, List.infix_cons_iff, Text.startsWith, List.isPrefixOf_iff_prefix]

namespace Resolver

open Warehouse (Session)
open Warehouse.Action (bind_ok mapM_run precedes_frame run_bind)

/-- What a column is to the resolution of its source. -/
inductive Role
  | declared (encoding : Encoding)
  | candidate
  | plain
deriving DecidableEq, Repr

/-- By the declared type and the comment; cells are looked for in marked columns of numbers and texts. -/
def catalogRole (marker typeName : String) (comment : Option String) : Role :=
  let stored := Text.upperText (Text.trimText typeName)
  if stored = "GEOMETRY" then .declared .geometry
  else if stored = "GEOGRAPHY" then .declared .geography
  else if (stored = "NUMBER" ∨ stored = "TEXT") ∧
      ∃ text ∈ comment, Text.lowercase marker.toList <:+: Text.lowercase text.toList then .candidate
  else .plain

def typeRole : TypeCode → Role
  | .geometry => .declared .geometry
  | .geography => .declared .geography
  | .fixed | .text => .candidate
  | _ => .plain

/-- The columns in their order: those of a table are rows of the catalog, those of a query the result's. -/
def roles (marker : String) (columns : List Column) (rows : List Row) : Source → List (String × Role)
  | .table _ _ => rows.filterMap fun row => (row.head?.bind Value.asText?).map fun name =>
      (name, catalogRole marker ((row[1]?.bind Value.asText?).getD "TEXT") (row[2]?.bind Value.asText?))
  | .query _ => columns.map fun c => (c.name, typeRole c.typeCode)

def declaredAs? : String × Role → Option (String × Encoding)
  | (name, .declared encoding) => some (name, encoding)
  | _ => none

def Split.ofRoles (listed : List (String × Role)) : Split :=
  ⟨listed.filterMap declaredAs?, (listed.filter (·.2 = .candidate)).map Prod.fst⟩

def listing (r : Resolver) (source : Source) (columns : List Column) (rows : List Row) : Split :=
  .ofRoles (roles r.settings.cellMarker columns rows source)

theorem ofDeclaredType?_eq (typeName : String) : Encoding.ofDeclaredType? typeName =
    if Text.upperText (Text.trimText typeName) = "GEOMETRY" then some .geometry
    else if Text.upperText (Text.trimText typeName) = "GEOGRAPHY" then some .geography
    else none := by
  unfold Encoding.ofDeclaredType?
  generalize Text.upperText (Text.trimText typeName) = stored
  split
  · rfl
  · rfl
  · rename_i planar round
    rw [if_neg planar, if_neg round]

theorem isCellCandidate_iff {marker typeName : String} {comment : Option String} :
    isCellCandidate typeName comment marker ↔
      (Text.upperText (Text.trimText typeName) = "NUMBER" ∨ Text.upperText (Text.trimText typeName) = "TEXT") ∧
        ∃ text ∈ comment, Text.lowercase marker.toList <:+: Text.lowercase text.toList := by
  simp [isCellCandidate, Option.any_eq_true, isMarked, Text.holds_iff_infix]

/-- A declared column is no candidate, whatever else it may hold. -/
def Role.of : Option Encoding → Bool → Role
  | some encoding, _ => .declared encoding
  | none, true => .candidate
  | none, false => .plain

theorem catalogRole_eq (marker typeName : String) (comment : Option String) : catalogRole marker typeName comment =
    .of (Encoding.ofDeclaredType? typeName) (isCellCandidate typeName comment marker) := by
  rw [ofDeclaredType?_eq, catalogRole]
  simp only [← isCellCandidate_iff]
  split
  · rfl
  · split
    · rfl
    · cases isCellCandidate typeName comment marker <;> rfl

theorem typeRole_eq (code : TypeCode) : typeRole code = .of code.encoding? code.canHoldCellId := by
  cases code <;> rfl

theorem Split.ofRoles_map {α : Type} (name : α → String) (encoding? : α → Option Encoding) (isCandidate : α → Bool)
    (items : List α) : Split.ofRoles (items.map fun a => (name a, .of (encoding? a) (isCandidate a))) =
      ⟨items.filterMap fun a => (encoding? a).map (name a, ·),
        (items.filter fun a => (encoding? a).isNone && isCandidate a).map name⟩ := by
  have declared (a : α) : declaredAs? (name a, .of (encoding? a) (isCandidate a)) = (encoding? a).map (name a, ·) := by
    cases encoding? a <;> cases isCandidate a <;> rfl
  have candidate (a : α) : decide (Role.of (encoding? a) (isCandidate a) = .candidate) =
      ((encoding? a).isNone && isCandidate a) := by
    cases encoding? a <;> cases isCandidate a <;> rfl
  simp only [Split.ofRoles, List.filterMap_map, List.filter_map, List.map_map, Function.comp_def, declared, candidate]

theorem splitCatalog_eq (marker : String) (columns : List CatalogColumn) :
    splitCatalog marker columns = .ofRoles (columns.map fun c => (c.name, catalogRole marker c.dataType c.comment)) := by
  simp only [catalogRole_eq, Split.ofRoles_map]
  rfl

theorem splitColumns_eq (columns : List Column) :
    splitColumns columns = .ofRoles (columns.map fun c => (c.name, typeRole c.typeCode)) := by
  simp only [typeRole_eq, Split.ofRoles_map]
  rfl

theorem catalogColumn?_role (marker : String) (row : Row) (ordinal : Nat) :
    (catalogColumn? row ordinal).map (fun c => (c.name, catalogRole marker c.dataType c.comment)) =
      (row.head?.bind Value.asText?).map fun name =>
        (name, catalogRole marker ((row[1]?.bind Value.asText?).getD "TEXT") (row[2]?.bind Value.asText?)) := by
  unfold catalogColumn?
  cases row.head?.bind Value.asText? <;> rfl

theorem splitCatalog_rows (r : Resolver) (schema : Option String) (name : String) (columns : List Column)
    (rows : List Row) :
    splitCatalog r.settings.cellMarker (rows.zipIdx.filterMap fun (row, ordinal) => catalogColumn? row ordinal) =
      r.listing (.table schema name) columns rows := by
  rw [splitCatalog_eq, List.map_filterMap, listing, roles]
  congr 1
  conv_rhs => rw [← List.zipIdx_map_fst 0 rows, List.filterMap_map]
  congr 1
  funext (row, ordinal)
  exact catalogColumn?_role r.settings.cellMarker row ordinal

theorem catalogRole_vector {marker typeName : String} {comment : Option String} {encoding : Encoding}
    (h : catalogRole marker typeName comment = .declared encoding) : encoding.isVector := by
  unfold catalogRole at h
  dsimp only at h
  split at h
  · cases h
    rfl
  · split at h
    · cases h
      rfl
    · split at h <;> cases h

theorem typeRole_vector {code : TypeCode} {encoding : Encoding} (h : typeRole code = .declared encoding) :
    encoding.isVector := by
  unfold typeRole at h
  split at h <;> cases h <;> rfl

theorem listing_vector (r : Resolver) (source : Source) (columns : List Column) (rows : List Row) :
    ∀ declared ∈ (r.listing source columns rows).declared, declared.2.isVector := by
  intro declared member
  obtain ⟨⟨name, role⟩, listed, same⟩ := List.mem_filterMap.mp member
  cases role with
  | candidate => cases same
  | plain => cases same
  | declared encoding =>
    cases same
    cases source with
    | table schema table =>
      obtain ⟨row, -, read⟩ := List.mem_filterMap.mp listed
      obtain ⟨name', -, same⟩ := Option.map_eq_some_iff.mp read
      exact catalogRole_vector (Prod.mk.inj same).2
    | query sql =>
      obtain ⟨c, -, same⟩ := List.mem_map.mp listed
      exact typeRole_vector (Prod.mk.inj same).2

def listingText : Source → String
  | .table schema name => catalogText schema name
  | .query sql => "SELECT * FROM " ++ (Source.query sql).fromClause ++ " LIMIT 0"

def subtypes (rows : List Row) : List String := rows.filterMap fun row => row.head?.bind Value.asText?

def knownKinds (names : List String) : List GeometryKind := names.filterMap GeometryKind.ofName?

theorem observedKind_run (row : Row) (s : Session) :
    ∃ s', (observedKind row).run s = (.ok ((row.head?.bind Value.asText?).bind GeometryKind.ofName?), s') := by
  unfold observedKind
  cases row.head?.bind Value.asText? with
  | none => exact ⟨s, rfl⟩
  | some name =>
    dsimp only [Option.bind_some]
    cases GeometryKind.ofName? name with
    | none => exact ⟨_, rfl⟩
    | some kind => exact ⟨s, rfl⟩

theorem observed_subtypes (rows : List Row) :
    (rows.map fun row => (row.head?.bind Value.asText?).bind GeometryKind.ofName?).filterMap id =
      knownKinds (subtypes rows) := by
  rw [List.filterMap_map, knownKinds, subtypes, List.filterMap_filterMap]
  rfl

variable {r : Resolver} {source : Source} {fromText : String} {s s' : Session}

theorem geometryKinds_ok {column : String} {kinds : List GeometryKind}
    (h : (r.geometryKinds fromText column).run s = (.ok kinds, s')) :
    ∃ rows, s.AnsweredSince s' (r.endpoint.command (kindsText fromText column)) rows ∧
      kinds = GeometryKind.dedup (knownKinds (subtypes rows)) := by
  obtain ⟨rows, s₁, asked, h⟩ := bind_ok h
  obtain ⟨observed, s₂, noted, h⟩ := bind_ok h
  -- The notes about unknown subtypes change the journal only.
  obtain ⟨s₃, runs⟩ := mapM_run observedKind_run rows s₁
  rw [runs] at noted
  cases noted
  cases h
  refine ⟨rows, (Layer.queryAll_ok asked).within (.refl s) ?_, by rw [observed_subtypes]⟩
  exact (precedes_frame.mapM (observedKind_keeps precedes_frame) rows).outcome runs

theorem declaredSpecs_ok {declared : String × Encoding} {part : List GeometryColumn}
    (h : (r.declaredSpecs fromText declared).run s = (.ok part, s')) :
    ∃ rows srid, s.AnsweredSince s' (r.endpoint.command (kindsText fromText declared.1)) rows ∧
      part = columnSpecs declared.1 declared.2 srid (GeometryKind.dedup (knownKinds (subtypes rows))) := by
  obtain ⟨column, encoding⟩ := declared
  have listed {srid : Option Int} {t : Session} (before : s.Precedes t)
      (h : (do return columnSpecs column encoding srid (← r.geometryKinds fromText column) :
        Layer.Action (List GeometryColumn)).run t = (.ok part, s')) :
      ∃ rows srid, s.AnsweredSince s' (r.endpoint.command (kindsText fromText column)) rows ∧
        part = columnSpecs column encoding srid (GeometryKind.dedup (knownKinds (subtypes rows))) := by
    obtain ⟨kinds, t', asked, h⟩ := bind_ok h
    cases h
    obtain ⟨rows, answered, rfl⟩ := geometryKinds_ok asked
    exact ⟨rows, srid, answered.within before (.refl _), rfl⟩
  cases encoding with
  | geometry =>
    obtain ⟨srid, t, found, h⟩ := bind_ok h
    exact listed ((r.srid_keeps precedes_frame _ _).outcome found) h
  | geography =>
    obtain ⟨srid, t, found, h⟩ := bind_ok h
    exact listed ((precedes_frame.pure _).outcome found) h
  | cellId =>
    obtain ⟨srid, t, found, h⟩ := bind_ok h
    exact listed ((precedes_frame.pure _).outcome found) h

theorem split_run {columns : List Column} {rows : List Row} {disturbance : Nat → Warehouse.Disturbance}
    (listed : s.answer s.log.size (r.endpoint.command (listingText source)) = .rows columns rows disturbance)
    (whole : source.isQuery = false → (disturbance 0).error = none) :
    ∃ s', s.Asked 1 s' ∧ (r.split source).run s = (.ok (r.listing source columns rows), s') := by
  cases source with
  | table schema name =>
    have ran := Layer.queryAll_run r.endpoint (catalogText schema name) s
    change s.answer s.log.size (r.endpoint.command (catalogText schema name)) = _ at listed
    rw [listed, Warehouse.Reply.outcome, whole rfl] at ran
    refine ⟨s.queried (r.endpoint.command (catalogText schema name)), s.asked_queried _, ?_⟩
    rw [split, tableColumns, run_bind, run_bind, ran, ← splitCatalog_rows]
    rfl
  | query sql =>
    obtain ⟨s', asked, -, ran⟩ := Layer.describe_run listed
    refine ⟨s', asked, ?_⟩
    rw [split, queryColumns, run_bind, ran, listing, roles, ← splitColumns_eq]
    rfl

theorem split_ok {found : Split} (h : (r.split source).run s = (.ok found, s')) :
    ∃ columns rows disturbance,
      s.answer s.log.size (r.endpoint.command (listingText source)) = .rows columns rows disturbance ∧
      found = r.listing source columns rows := by
  have onward := (r.split_keeps precedes_frame source).outcome h
  cases source with
  | table schema name =>
    obtain ⟨columns, s₁, listing, returned⟩ := bind_ok h
    cases returned
    obtain ⟨rows, s₂, asked, returned⟩ := bind_ok listing
    cases returned
    obtain ⟨columns, disturbance, reply⟩ := Warehouse.Action.queryAll_reply (Layer.ofWarehouse_ok asked)
    exact ⟨columns, rows, disturbance, reply, splitCatalog_rows r schema name columns rows⟩
  | query sql =>
    obtain ⟨columns, s₁, listing, returned⟩ := bind_ok h
    cases returned
    obtain ⟨rows, disturbance, answered, reply⟩ := Layer.describe_ok listing
    rw [onward.answer] at reply
    refine ⟨columns, rows, disturbance, reply, ?_⟩
    rw [splitColumns_eq, Resolver.listing, roles]

/-- The layers of a source: a part for each declared column, which its kind query determines, then the cell columns. -/
theorem resolveAll_ok {specs : List GeometryColumn} (h : (r.resolveAll source).run s = (.ok specs, s')) :
    ∃ found s₁ parts, ∃ cells : List String, (r.split source).run s = (.ok found, s₁) ∧
      specs = parts.flatten ++ cells.map cellSpec ∧
      List.Forall₂ (fun declared part => ∃ rows srid,
        s.AnsweredSince s' (r.endpoint.command (kindsText source.fromClause declared.1)) rows ∧
        part = columnSpecs declared.1 declared.2 srid (GeometryKind.dedup (knownKinds (subtypes rows))))
        found.declared parts := by
  obtain ⟨found, s₁, divided, h⟩ := bind_ok h
  obtain ⟨parts, s₂, asked, h⟩ := bind_ok h
  obtain ⟨cells, s₃, probed, h⟩ := bind_ok h
  obtain ⟨_, s₄, noted, h⟩ := bind_ok h
  cases h
  have first := (r.split_keeps precedes_frame source).outcome divided
  have last := (precedes_frame.filterM (r.probeCell_keeps precedes_frame source.fromClause) found.candidates).outcome
    probed
  have ended := (precedes_frame.noted _ _ _).outcome noted
  obtain ⟨-, each⟩ := precedes_frame.mapM_ok (r.declaredSpecs_keeps precedes_frame source.fromClause) asked
  refine ⟨found, s₁, parts, cells, divided, rfl, each.imp fun declared part done => ?_⟩
  obtain ⟨t, t', earlier, ran, later⟩ := done
  obtain ⟨rows, srid, answered, same⟩ := declaredSpecs_ok ran
  exact ⟨rows, srid, answered.within (first.trans earlier) (later.trans (last.trans ended)), same⟩

end Resolver

end FeatureLayers
