import FeatureLayers.Proofs.Layer.Resolving
import FeatureLayers.Proofs.Query.Token
import FeatureLayers.Proofs.Schema.Kinds

namespace FeatureLayers

open Query (admittedKinds guardText kindLiteral tokens)
open Query.Token (inList? inList?_append scan_quoteName scan_signs sign)

namespace GeometryColumn

def listed? (spec : GeometryColumn) : Option (List String) := inList? (tokens (guardText spec))

/-- The guard has a list, and the subtype is in it. -/
def Admits (spec : GeometryColumn) (subtype : String) : Prop := ∃ listed, spec.listed? = some listed ∧ subtype ∈ listed

/-- Values of the subtype pass the guard. Without a list the guard of a spatial column only asks for a value. -/
def Shows (spec : GeometryColumn) (subtype : String) : Prop := ∀ listed, spec.listed? = some listed → subtype ∈ listed

variable {spec : GeometryColumn} {kind : GeometryKind}

/-- What a guard says before its column holds no list, and the column is one token. -/
theorem listed_behind {lead tail : String} (plain : lead.toList.all fun c => c != 'I' && !Query.Token.isQuote c)
    (ended : tail.toList.head? ≠ some '"') (column : String) :
    inList? (tokens (lead ++ quoteName column ++ tail)) = inList? (tokens tail) := by
  have each : ∀ c ∈ lead.toList, c ≠ 'I' ∧ Query.Token.isQuote c = false := by
    simpa using plain
  have unquoted : ∀ c ∈ lead.toList, Query.Token.isQuote c = false := fun c member => (each c member).2
  rw [tokens, String.toList_append, String.toList_append, List.append_assoc, scan_signs unquoted, scan_quoteName ended,
    inList?_append]
  · have name : sign 'I' ∉ [Query.Token.quoted '"' column.toList] := by simp
    exact inList?_append name _
  · intro member
    obtain ⟨c, inside, same⟩ := List.mem_map.mp member
    cases same
    exact (each 'I' inside).1 rfl

theorem guardText_vector (vector : spec.encoding.isVector) : guardText spec = match spec.kind with
    | some kind => "ST_ASGEOJSON(" ++ quoteName spec.column ++
        ("):type::string IN (" ++ commaList ((admittedKinds kind).map kindLiteral) ++ ")")
    | none => "" ++ quoteName spec.column ++ " IS NOT NULL" := by
  cases encoding : spec.encoding with
  | cellId =>
    rw [encoding] at vector
    cases vector
  | geometry => cases kind : spec.kind <;> simp [guardText, encoding, kind, String.append_assoc]
  | geography => cases kind : spec.kind <;> simp [guardText, encoding, kind, String.append_assoc]

theorem listed?_kind (vector : spec.encoding.isVector) (known : spec.kind = some kind) :
    spec.listed? = some ((admittedKinds kind).map (·.name)) := by
  have list : inList? (tokens ("):type::string IN (" ++ commaList ((admittedKinds kind).map kindLiteral) ++ ")")) =
      some ((admittedKinds kind).map (·.name)) := by
    cases kind <;> decide +kernel
  rw [listed?, guardText_vector vector, known]
  exact (listed_behind (by decide) (by cases kind <;> decide +kernel) spec.column).trans list

theorem listed?_none (vector : spec.encoding.isVector) (unknown : spec.kind = none) : spec.listed? = none := by
  have list : inList? (tokens " IS NOT NULL") = none := by decide +kernel
  rw [listed?, guardText_vector vector, unknown]
  exact (listed_behind (by decide) (by decide +kernel) spec.column).trans list

theorem admits_kind (vector : spec.encoding.isVector) {shown : GeometryKind} (known : spec.kind = some shown) :
    spec.Admits kind.name ↔ kind ∈ admittedKinds shown := by
  simp [Admits, listed?_kind vector known, GeometryKind.name_inj]

theorem shows_kind (vector : spec.encoding.isVector) {shown : GeometryKind} (known : spec.kind = some shown) :
    spec.Shows kind.name ↔ kind ∈ admittedKinds shown := by
  simp [Shows, listed?_kind vector known, GeometryKind.name_inj]

end GeometryColumn

namespace Resolver

open Warehouse (Session)

/-- The layers of a column in whose values these subtypes occur. -/
structure Partitions (column : String) (encoding : Encoding) (names : List String) (part : List GeometryColumn) :
    Prop where
  column : ∀ spec ∈ part, spec.column = column ∧ spec.encoding = encoding
  distinct : (part.map (·.kind)).Nodup
  admitted : ∀ kind : GeometryKind, kind.name ∈ names → ∃! spec, spec ∈ part ∧ spec.Admits kind.name
  shown : ∀ kind : GeometryKind, kind.name ∈ names → ∃! spec, spec ∈ part ∧ spec.Shows kind.name
  observed : ∀ spec ∈ part, ∀ kind : GeometryKind, spec.Admits kind.name →
    kind.name ∈ names ∨ ∃ multi, kind.plural? = some multi ∧ multi.name ∈ names
  bare : (∀ kind : GeometryKind, kind.name ∉ names) → ∃ spec, part = [spec] ∧ spec.kind = none

variable {names : List String} {kind : GeometryKind}

theorem mem_knownKinds : kind ∈ knownKinds names ↔ kind.name ∈ names := by
  simp [knownKinds, List.mem_filterMap, GeometryKind.ofName?_eq_some_iff]

theorem columnSpecs_kinds {kinds : List GeometryKind} (filled : kinds ≠ []) (column : String) (encoding : Encoding)
    (srid : Option Int) :
    columnSpecs column encoding srid kinds = kinds.map fun kind => ⟨column, encoding, some kind, srid⟩ := by
  cases kinds with
  | nil => exact absurd rfl filled
  | cons kind kinds => rfl

theorem once_of_kinds {kinds : List GeometryKind} {layer : GeometryKind → GeometryColumn} {P : GeometryColumn → Prop}
    (each : ∀ shown, P (layer shown) ↔ kind ∈ admittedKinds shown)
    (once : ∃! shown, shown ∈ kinds ∧ kind ∈ admittedKinds shown) : ∃! spec, spec ∈ kinds.map layer ∧ P spec := by
  obtain ⟨shown, ⟨left, admits⟩, unique⟩ := once
  refine ⟨layer shown, ⟨List.mem_map_of_mem left, (each shown).mpr admits⟩, ?_⟩
  rintro spec ⟨member, holds⟩
  obtain ⟨other, inside, rfl⟩ := List.mem_map.mp member
  rw [unique other ⟨inside, (each other).mp holds⟩]

section Column

variable (column : String) {encoding : Encoding} (vector : encoding.isVector) (srid : Option Int)

include vector

theorem bare_partition (absent : ∀ kind : GeometryKind, kind.name ∉ names) :
    Partitions column encoding names [⟨column, encoding, none, srid⟩] where
  column := by simp
  distinct := List.pairwise_singleton _ _
  admitted kind named := absurd named (absent kind)
  shown kind named := absurd named (absent kind)
  observed := by simp [GeometryColumn.Admits, GeometryColumn.listed?_none, vector]
  bare _ := ⟨_, rfl, rfl⟩

theorem kinds_partition (known : knownKinds names ≠ []) :
    Partitions column encoding names
      ((GeometryKind.dedup (knownKinds names)).map fun kind => ⟨column, encoding, some kind, srid⟩) where
  column := by simp
  distinct := by
    rw [List.map_map]
    exact List.pairwise_map.mpr ((GeometryKind.dedup_nodup _).imp fun apart same => apart (Option.some.inj same))
  admitted kind named := by
    refine once_of_kinds (fun shown => ?_) (GeometryKind.dedup_admits_once (mem_knownKinds.mpr named))
    exact GeometryColumn.admits_kind vector rfl
  shown kind named := by
    refine once_of_kinds (fun shown => ?_) (GeometryKind.dedup_admits_once (mem_knownKinds.mpr named))
    exact GeometryColumn.shows_kind vector rfl
  observed := by
    intro spec member kind admitted
    obtain ⟨shown, left, rfl⟩ := List.mem_map.mp member
    have inside := (GeometryColumn.admits_kind vector rfl).mp admitted
    simpa only [mem_knownKinds] using GeometryKind.observed_of_admitted left inside
  bare absent := by
    obtain ⟨kind, seen⟩ := List.exists_mem_of_ne_nil _ known
    exact absurd (mem_knownKinds.mp seen) (absent kind)

theorem columnSpecs_partition (names : List String) :
    Partitions column encoding names (columnSpecs column encoding srid (GeometryKind.dedup (knownKinds names))) := by
  by_cases known : knownKinds names = []
  · have absent : ∀ kind : GeometryKind, kind.name ∉ names := by
      intro kind named
      have seen := mem_knownKinds.mpr named
      rw [known] at seen
      cases seen
    rw [known]
    exact bare_partition column vector srid absent
  · rw [columnSpecs_kinds (GeometryKind.dedup_eq_nil_iff.not.mpr known)]
    exact kinds_partition column vector srid known

end Column

/--
The layers of a source are those of its declared columns, as they were listed, and then the cell columns. Whatever
subtypes the kind query of a declared column was answered with, the layers of that column partition it.
-/
theorem resolveAll_partitions {r : Resolver} {source : Source} {specs : List GeometryColumn} {s s' : Session}
    (resolved : (r.resolveAll source).run s = (.ok specs, s')) :
    ∃ found s₁ parts, ∃ cells : List String, (r.split source).run s = (.ok found, s₁) ∧
      (∃ columns rows disturbance,
        s.answer s.log.size (r.endpoint.command (listingText source)) = .rows columns rows disturbance ∧
        found.declared = (roles r.settings.cellMarker columns rows source).filterMap declaredAs?) ∧
      specs = parts.flatten ++ cells.map cellSpec ∧
      List.Forall₂ (fun declared part => ∃ rows,
        s.AnsweredSince s' (r.endpoint.command (kindsText source.fromClause declared.1)) rows ∧
        Partitions declared.1 declared.2 (subtypes rows) part) found.declared parts := by
  obtain ⟨found, s₁, parts, cells, divided, listed, each⟩ := resolveAll_ok resolved
  obtain ⟨columns, rows, disturbance, reply, same⟩ := split_ok divided
  have vector := r.listing_vector source columns rows
  rw [← same] at vector
  refine ⟨found, s₁, parts, cells, divided, ⟨columns, rows, disturbance, reply, same ▸ rfl⟩, listed, ?_⟩
  refine ((List.forall₂_and_left _ _).mpr ⟨vector, each⟩).imp fun declared part done => ?_
  obtain ⟨vector, rows, srid, answered, rfl⟩ := done
  exact ⟨rows, answered, columnSpecs_partition declared.1 vector srid (subtypes rows)⟩

/--
A column with points before and after multi points and with a subtype that is unknown, one without values, and one that
is not spatial. The listing of a query is in the columns of the answer, that of a table in the rows.
-/
def mixedColumns : Session := .start fun number _ => match number with
  | 0 => .rows [⟨"G", .geometry, 0⟩, ⟨"N", .boolean, 1⟩, ⟨"H", .geography, 2⟩]
      [[.text "G", .text "geometry"], [.text "N", .text "TEXT", .text "Geography"], [.text "H", .text " GEOGRAPHY"]]
      fun _ => .none
  | 1 => .rows [] [[.int 31287]] fun _ => .none
  | 2 => .rows [] [[.text "Point"], [.text "Circle"], [.text "MultiPoint"], [.null], [.text "LineString"], [.text "Point"]]
      fun _ => .none
  | _ => .rows [] [] fun _ => .none

def MixedColumnsPartitioned (r : Resolver) (source : Source) : Prop :=
  ∃ s' parts, (r.resolveAll source).run mixedColumns =
      (.ok [⟨"G", .geometry, some .multiPoint, some 31287⟩, ⟨"G", .geometry, some .lineString, some 31287⟩,
        ⟨"H", .geography, none, some 4326⟩], s') ∧
    List.Forall₂ (fun declared part => ∃ rows,
      mixedColumns.AnsweredSince s' (r.endpoint.command (kindsText source.fromClause declared.1)) rows ∧
      Partitions declared.1 declared.2 (subtypes rows) part) [("G", .geometry), ("H", .geography)] parts

theorem resolveAll_partitions_mixed_columns :
    let r : Resolver := ⟨⟨"lake", .unset⟩, .standard⟩
    MixedColumnsPartitioned r (.query "q") ∧ MixedColumnsPartitioned r (.table none "T") := by
  intro r
  have outcome : ∀ source ∈ [Source.query "q", .table none "T"], ((r.resolveAll source).run mixedColumns).1.toOption =
      some [⟨"G", .geometry, some .multiPoint, some 31287⟩, ⟨"G", .geometry, some .lineString, some 31287⟩,
        ⟨"H", .geography, none, some 4326⟩] := by decide +kernel
  have declared : ∀ source ∈ [Source.query "q", .table none "T"],
      ((r.split source).run mixedColumns).1.toOption.map (·.declared) = some [("G", .geometry), ("H", .geography)] := by
    decide +kernel
  have each : ∀ source ∈ [Source.query "q", .table none "T"], MixedColumnsPartitioned r source := by
    intro source among
    replace outcome := outcome source among
    replace declared := declared source among
    rcases resolved : (r.resolveAll source).run mixedColumns with ⟨result, s'⟩
    rw [resolved] at outcome
    cases result with
    | error e => cases outcome
    | ok specs =>
      obtain ⟨found, s₁, parts, cells, divided, -, -, each⟩ := resolveAll_partitions resolved
      cases outcome
      rw [divided] at declared
      exact ⟨s', parts, resolved, Option.some.inj declared ▸ each⟩
  exact ⟨each _ (.head _), each _ (.tail _ (.head _))⟩

end Resolver

end FeatureLayers
