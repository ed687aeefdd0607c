import FeatureLayers.Proofs.Query.Splitting

namespace FeatureLayers.Query

open Token

namespace Token

def identifiers (parts : List Token) : List String :=
  parts.filterMap fun
    | .quoted '"' text => some (String.ofList text)
    | _ => none

def blank : Token → Token
  | .quoted '"' _ => .quoted '"' []
  | other => other

def outside (parts : List Token) : List Token := parts.map blank

section Identifiers

variable (front back parts : List Token) (text name : String)

@[simp]
theorem identifiers_append : identifiers (front ++ back) = identifiers front ++ identifiers back :=
  List.filterMap_append

@[simp]
theorem identifiers_signs : identifiers (signs text) = [] := by
  rw [identifiers, signs, List.filterMap_map]
  exact List.filterMap_eq_nil_iff.mpr fun _ _ => rfl

@[simp]
theorem identifiers_nil : identifiers [] = [] := rfl

@[simp]
theorem identifiers_named : identifiers (named name :: parts) = name :: identifiers parts := by
  rw [identifiers, named, List.filterMap_cons_some (by rfl), String.ofList_toList]
  rfl

@[simp]
theorem identifiers_literal : identifiers (literal text :: parts) = identifiers parts := rfl

@[simp]
theorem outside_append : outside (front ++ back) = outside front ++ outside back := List.map_append

@[simp]
theorem outside_signs : outside (signs text) = signs text := by
  rw [outside, signs, List.map_map]
  rfl

@[simp]
theorem outside_nil : outside [] = [] := rfl

@[simp]
theorem outside_named : outside (named name :: parts) = named "" :: outside parts := rfl

@[simp]
theorem outside_literal : outside (literal text :: parts) = literal text :: outside parts := rfl

@[simp]
theorem identifiers_intercalate (lists : List (List Token)) :
    identifiers ((signs text).intercalate lists) = lists.flatMap identifiers := by
  induction lists with
  | nil => rfl
  | cons list lists ih =>
    cases lists with
    | nil => simp
    | cons next lists =>
      rw [List.intercalate_cons_cons, identifiers_append, ih]
      simp

@[simp]
theorem outside_intercalate (lists : List (List Token)) :
    outside ((signs text).intercalate lists) = (signs text).intercalate (lists.map outside) := by
  induction lists with
  | nil => rfl
  | cons list lists ih =>
    cases lists with
    | nil => simp
    | cons next lists =>
      rw [List.intercalate_cons_cons, outside_append, ih]
      simp

end Identifiers

end Token

def Projected.parts : Projected → List Token
  | .field name | .rawGeometry name | .key name => [named name]
  | .payload .cellId column => named column :: (signs " AS " ++ [named geometryAlias])
  | .payload _ column => signs "ST_ASWKB(" ++ named column :: (signs ") AS " ++ [named geometryAlias])
  | .rowNumber => signs "ROW_NUMBER() OVER (ORDER BY 1) AS " ++ [named rowNumberAlias]

def Projected.names : Projected → List String
  | .field name | .rawGeometry name | .key name => [name]
  | .payload _ column => [column, geometryAlias]
  | .rowNumber => [rowNumberAlias]

def sourceParts : Source → List Token
  | .table (some schema) name => named schema :: (signs "." ++ [named name])
  | .table none name => [named name]
  | .query sql => tokens (Source.query sql).fromClause

def guardParts (spec : GeometryColumn) : List Token :=
  match spec.encoding, spec.kind with
  | .cellId, _ => signs "H3_IS_VALID_CELL(" ++ named spec.column :: signs ")"
  | _, some kind =>
    signs "ST_ASGEOJSON(" ++ named spec.column :: (signs "):type::string IN (" ++
      ((signs ", ").intercalate ((admittedKinds kind).map fun kind => [literal kind.name]) ++ signs ")"))
  | _, none => named spec.column :: signs " IS NOT NULL"

def boxFrame (spec : GeometryColumn) : String × String × String :=
  match spec.encoding, spec.srid with
  | .geometry, some srid => ("ST_INTERSECTS(", ", ST_GEOMETRYFROMWKT(", ", " ++ intText srid ++ "))")
  | .geometry, none => ("ST_INTERSECTS(", ", ST_GEOMETRYFROMWKT(", "))")
  | .geography, _ => ("ST_INTERSECTS(", ", ST_GEOGRAPHYFROMWKT(", "))")
  | .cellId, _ => ("ST_INTERSECTS(H3_CELL_TO_BOUNDARY(", "), ST_GEOGRAPHYFROMWKT(", "))")

def boxParts (spec : GeometryColumn) (box : BoundingBox) : List Token :=
  let (before, between, behind) := boxFrame spec
  signs before ++ named spec.column :: (signs between ++ literal box.toWkt :: signs behind)

/-- What a request or a user wrote is split as it stands. -/
def Filter.parts : Filter → List Token
  | .ids _ [] => signs "FALSE"
  | .ids column wanted => named column :: (signs " IN (" ++
      ((signs ", ").intercalate (wanted.map fun id => signs (intText id)) ++ signs ")"))
  | .box spec wanted => boxParts spec wanted
  | .expression text => tokens (Filter.expression text).text
  | .subset text => tokens (Filter.subset text).text

def Filter.isBuilt : Filter → Bool
  | .ids _ _ | .box _ _ => true
  | .expression _ | .subset _ => false

def Filter.names : Filter → List String
  | .ids _ [] => []
  | .ids column _ => [column]
  | .box spec _ => [spec.column]
  | .expression _ | .subset _ => []

namespace Statement

def filterParts (s : Statement) : List Token :=
  if s.filters.isEmpty then [] else signs " WHERE " ++ (signs " AND ").intercalate (s.filters.map Filter.parts)

def parts (s : Statement) : List Token :=
  signs "SELECT * FROM (SELECT " ++ ((signs ", ").intercalate (s.projection.map Projected.parts) ++ (signs " FROM " ++
    (sourceParts s.source ++ (signs " WHERE " ++ (guardParts s.spec ++ (signs ")" ++ (s.filterParts ++
      signs (s.orderLimit.getD ""))))))))

end Statement

theorem Projected.splits (column : Projected) : Splits column.text column.parts := by
  have aliased (name between : String) (plain : Plain between) (filled : between ≠ "") :
      Splits (quoteName name ++ between ++ quoteName geometryAlias)
        (named name :: (signs between ++ [named geometryAlias])) := by
    rw [String.append_assoc]
    exact (Splits.quoteName name).append_plain plain filled (.quoteName geometryAlias)
  have counted : Plain "ROW_NUMBER() OVER (ORDER BY 1) AS " := by decide
  have binary : Plain "ST_ASWKB(" := by decide
  cases column with
  | field name | rawGeometry name | key name => exact .quoteName name
  | rowNumber => exact .plain_append counted (.quoteName rowNumberAlias)
  | payload encoding name =>
    cases encoding with
    | cellId => exact aliased name " AS " (by decide) (by decide)
    | geometry | geography =>
      have converted := Splits.plain_append binary (aliased name ") AS " (by decide) (by decide))
      rw [← String.append_assoc, ← String.append_assoc] at converted
      exact converted

theorem sourceParts_splits {source : Source} (table : source.isQuery = false) :
    Splits source.fromClause (sourceParts source) := by
  cases source with
  | query sql => cases table
  | table schema name =>
    cases schema with
    | none => exact .quoteName name
    | some schema =>
      rw [Source.fromClause, String.append_assoc]
      exact (Splits.quoteName schema).append_plain (by decide) (by decide) (.quoteName name)

theorem kindLiteral_splits (kind : GeometryKind) : Splits (kindLiteral kind) [literal kind.name] := by
  have plain : Plain kind.name := by cases kind <;> decide
  exact .literal plain

theorem guardParts_splits (spec : GeometryColumn) : Splits (guardText spec) (guardParts spec) := by
  have kinds (kind : GeometryKind) : Splits (commaList ((admittedKinds kind).map kindLiteral))
      ((signs ", ").intercalate ((admittedKinds kind).map fun kind => [literal kind.name])) :=
    .intercalate (by decide) (by decide) fun kind _ => kindLiteral_splits kind
  have among (kind : GeometryKind) : Splits ("ST_ASGEOJSON(" ++ (quoteName spec.column ++ ("):type::string IN (" ++
      (commaList ((admittedKinds kind).map kindLiteral) ++ ")")))) _ :=
    .plain_append (by decide) ((Splits.quoteName spec.column).append_plain (by decide) (by decide)
      ((kinds kind).append_signs (by decide)))
  have present : Splits (quoteName spec.column ++ " IS NOT NULL") _ :=
    (Splits.quoteName spec.column).append_signs (by decide)
  unfold guardText guardParts
  cases spec.encoding with
  | cellId =>
    simp only [String.append_assoc]
    exact .plain_append (by decide) ((Splits.quoteName spec.column).append_signs (by decide))
  | geometry | geography =>
    cases spec.kind with
    | none => exact present
    | some kind =>
      simp only [String.append_assoc]
      exact among kind

theorem boxText_eq (spec : GeometryColumn) (box : BoundingBox) : boxText spec box =
    (boxFrame spec).1 ++ (quoteName spec.column ++ ((boxFrame spec).2.1 ++
      (("'" ++ box.toWkt ++ "'") ++ (boxFrame spec).2.2))) := by
  have planar : ", ST_GEOMETRYFROMWKT('" = ", ST_GEOMETRYFROMWKT(" ++ "'" := by decide
  have round : ", ST_GEOGRAPHYFROMWKT('" = ", ST_GEOGRAPHYFROMWKT(" ++ "'" := by decide
  have cell : "), ST_GEOGRAPHYFROMWKT('" = "), ST_GEOGRAPHYFROMWKT(" ++ "'" := by decide
  have system : "', " = "'" ++ ", " := by decide
  have closing : "'))" = "'" ++ "))" := by decide
  unfold boxText boxFrame
  cases spec.encoding with
  | geometry =>
    cases spec.srid with
    | none => simp only [planar, closing, String.append_assoc]
    | some srid => simp only [planar, system, String.append_assoc]
  | geography => simp only [round, closing, String.append_assoc]
  | cellId => simp only [cell, closing, String.append_assoc]

theorem boxFrame_plain (spec : GeometryColumn) :
    Plain (boxFrame spec).1 ∧ Plain (boxFrame spec).2.1 ∧ Plain (boxFrame spec).2.2 := by
  unfold boxFrame
  cases spec.encoding with
  | geometry =>
    cases spec.srid with
    | none => dsimp only; decide
    | some srid =>
      dsimp only
      exact ⟨by decide, by decide, plain_append.mpr ⟨plain_append.mpr ⟨by decide, intText_plain srid⟩, by decide⟩⟩
  | geography | cellId => dsimp only; decide

theorem boxFrame_filled (spec : GeometryColumn) : (boxFrame spec).2.1 ≠ "" := by
  unfold boxFrame
  cases spec.encoding with
  | geometry => cases spec.srid <;> dsimp only <;> decide
  | geography | cellId => dsimp only; decide

theorem boxParts_splits (spec : GeometryColumn) (box : BoundingBox) : Splits (boxText spec box) (boxParts spec box) := by
  obtain ⟨before, between, behind⟩ := boxFrame_plain spec
  have rectangle : Splits (("'" ++ box.toWkt ++ "'") ++ (boxFrame spec).2.2) _ :=
    (Splits.literal (toWkt_plain box)).append_signs behind
  rw [boxText_eq]
  exact .plain_append before ((Splits.quoteName spec.column).append_plain between (boxFrame_filled spec) rectangle)

theorem Filter.splits {filter : Filter} (built : filter.isBuilt) : Splits filter.text filter.parts := by
  cases filter with
  | expression text | subset text => cases built
  | box spec wanted => exact boxParts_splits spec wanted
  | ids column wanted =>
    cases wanted with
    | nil =>
      have nothing : Plain "FALSE" := by decide
      exact .plain nothing
    | cons id others =>
      have listed : Splits (commaList ((id :: others).map intText))
          ((signs ", ").intercalate ((id :: others).map fun id => signs (intText id))) :=
        .intercalate (by decide) (by decide) fun id _ => .plain (intText_plain id)
      simp only [text, String.append_assoc]
      exact (Splits.quoteName column).append_plain (by decide) (by decide) (listed.append_signs (by decide))

/-- A statement is split where it was put together, if what others wrote of it ends its quotes. -/
theorem Statement.splits {s : Statement} (source : Splits s.source.fromClause (sourceParts s.source))
    (filters : ∀ filter ∈ s.filters, Splits filter.text filter.parts) : Splits s.toSql s.parts := by
  have order : Plain (s.orderLimit.getD "") := by
    unfold orderLimit
    cases s.sampleLimit with
    | none => decide
    | some limit => exact plain_append.mpr ⟨by decide, intText_plain limit⟩
  have closing : Splits (s.filterText ++ s.orderLimit.getD "") (s.filterParts ++ signs (s.orderLimit.getD "")) := by
    refine .append_signs ?_ order
    unfold filterText filterParts
    split
    · exact .nil
    · have separator : Plain " AND " := by decide
      exact .plain_append (by decide) (.intercalate separator (by decide) filters)
  have comma : Plain ", " := by decide
  have columns := Splits.intercalate comma (by decide) fun column (_ : column ∈ s.projection) => column.splits
  unfold toSql
  simp only [String.append_assoc]
  exact .plain_append (by decide) (columns.append_plain (by decide) (by decide)
    (source.append_plain (by decide) (by decide) ((guardParts_splits s.spec).append_plain (by decide) (by decide) closing)))

end FeatureLayers.Query
