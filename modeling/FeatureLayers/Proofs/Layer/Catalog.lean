import FeatureLayers.Layer.Statistics
import FeatureLayers.Proofs.Layer.Listing
import FeatureLayers.Proofs.Query.Splitting
import FeatureLayers.Proofs.Text.Patterns

namespace FeatureLayers

open Query (Token tokens Splits)
open Text (CaseFold Like NoWildcard)
open Warehouse (Session)
open Warehouse.Action (precedes_frame)

structure CatalogTable where
  schema : String
  name : String
  kind : String
deriving DecidableEq, Repr

structure CatalogRow where
  table : CatalogTable
  column : String
  dataType : String
  comment : Option String
deriving DecidableEq, Repr

namespace CatalogRow

def cells (row : CatalogRow) : Row := [.text row.column, .text row.dataType, row.comment.elim .null .text]

def isAttribute (row : CatalogRow) : Bool := (Encoding.ofDeclaredType? row.dataType).isNone

end CatalogRow

/-- A literal of a statement, and the signs between it and the one before. -/
structure Comparison where
  words : List Char
  literal : List Char

namespace Comparison

def collect (words : List Char) : List Token → List Comparison
  | [] => []
  | .sign c :: rest => collect (words ++ [c]) rest
  | .quoted _ text :: rest => ⟨words, text⟩ :: collect [] rest

theorem collect_signs (words : List Char) (text : String) (rest : List Token) :
    collect words (Token.signs text ++ rest) = collect (words ++ text.toList) rest := by
  rw [Token.signs]
  generalize text.toList = chars
  induction chars generalizing words with
  | nil => rw [List.append_nil]; rfl
  | cons c chars ih =>
    rw [List.map_cons, List.cons_append, collect, ih, List.append_assoc]
    rfl

def Holds (f : CaseFold) (c : Comparison) (t : CatalogTable) : Prop :=
  if "TABLE_NAME ILIKE ".toList <:+ c.words then Like f c.literal t.name.toList
  else if "TABLE_SCHEMA ILIKE ".toList <:+ c.words then Like f c.literal t.schema.toList
  else "TABLE_TYPE = ".toList <:+ c.words ∧ c.literal = t.kind.toList

end Comparison

/-- All comparisons of the statement hold of the table. -/
def Selects (f : CaseFold) (sql : String) (t : CatalogTable) : Prop :=
  ∀ c ∈ Comparison.collect [] (tokens sql), c.Holds f t

namespace CatalogTable

/-- The table matches the names as patterns. -/
def Matches (f : CaseFold) (schema : Option String) (table : String) (t : CatalogTable) : Prop :=
  Like f table.toList t.name.toList ∧ ∀ s ∈ schema, Like f s.toList t.schema.toList

def IsNamed (f : CaseFold) (schema : Option String) (table : String) (t : CatalogTable) : Prop :=
  f.Alike table.toList t.name.toList ∧ ∀ s ∈ schema, f.Alike s.toList t.schema.toList

instance (f : CaseFold) (schema : Option String) (table : String) (t : CatalogTable) :
    Decidable (t.IsNamed f schema table) := inferInstanceAs (Decidable (_ ∧ _))

variable {f : CaseFold} {schema : Option String} {table : String} {t : CatalogTable}

theorem IsNamed.matches (named : t.IsNamed f schema table) : t.Matches f schema table :=
  ⟨.of_alike named.1, fun s given => .of_alike (named.2 s given)⟩

theorem matches_iff_isNamed (plain : NoWildcard table.toList) (plainSchema : ∀ s ∈ schema, NoWildcard s.toList) :
    t.Matches f schema table ↔ t.IsNamed f schema table :=
  ⟨fun ⟨name, schema⟩ => ⟨name.alike plain, fun s given => (schema s given).alike (plainSchema s given)⟩, IsNamed.matches⟩

theorem only_named_match_iff (f : CaseFold) (schema : Option String) (table : String) :
    (∀ t : CatalogTable, t.Matches f schema table ↔ t.IsNamed f schema table) ↔
      NoWildcard table.toList ∧ ∀ s ∈ schema, NoWildcard s.toList := by
  constructor
  · intro only
    have every (name other : String) (like : Like f table.toList name.toList)
        (likeSchema : ∀ s ∈ schema, Like f s.toList other.toList) :=
      (only ⟨other, name, ""⟩).mp ⟨like, likeSchema⟩
    -- Either name is tried on its own, with a table whose other name is as it is given.
    constructor
    · refine (Like.only_alike_iff f).mp fun text like => ?_
      have own : ∀ s ∈ schema, Like f s.toList (schema.getD "").toList := by
        rintro s rfl
        exact .self f s.toList
      have named := every (String.ofList text) (schema.getD "") (String.toList_ofList ▸ like) own
      rw [← @String.toList_ofList text]
      exact named.1
    · rintro s rfl
      refine (Like.only_alike_iff f).mp fun text like => ?_
      have named := every table (String.ofList text) (.self f table.toList) fun other given => by
        rw [← Option.mem_some.mp given]
        exact String.toList_ofList ▸ like
      rw [← @String.toList_ofList text]
      exact named.2 s rfl
  · exact fun plain t => matches_iff_isNamed plain.1 plain.2

end CatalogTable

section Statements

def conditionParts (schema : Option String) (table : String) : List Token :=
  Token.literal table :: schema.elim [] fun s => Token.signs " AND TABLE_SCHEMA ILIKE " ++ [Token.literal s]

theorem catalogCondition_splits (schema : Option String) (table : String) :
    Splits (Resolver.catalogCondition schema table) (Token.signs "TABLE_NAME ILIKE " ++ conditionParts schema table) := by
  unfold Resolver.catalogCondition
  cases schema with
  | none =>
    rw [String.append_empty]
    exact .plain_append (by decide) (.quoteLiteral table)
  | some s =>
    rw [String.append_assoc]
    exact .plain_append (by decide) ((Splits.quoteLiteral table).append_plain (by decide) (by decide) (.quoteLiteral s))

def viewText (schema : Option String) (table : String) : String :=
  "SELECT COUNT(*) FROM INFORMATION_SCHEMA.TABLES WHERE TABLE_TYPE = 'VIEW' AND " ++
    Resolver.catalogCondition schema table

theorem tokens_catalogText (schema : Option String) (table : String) : tokens (Resolver.catalogText schema table) =
    Token.signs "SELECT COLUMN_NAME, DATA_TYPE, COMMENT FROM INFORMATION_SCHEMA.COLUMNS WHERE " ++
      (Token.signs "TABLE_NAME ILIKE " ++ conditionParts schema table ++ Token.signs " ORDER BY ORDINAL_POSITION") := by
  unfold Resolver.catalogText
  rw [String.append_assoc]
  have whole := (catalogCondition_splits schema table).append_signs
    (by decide : Query.Plain " ORDER BY ORDINAL_POSITION")
  exact (Splits.plain_append (by decide) whole).tokens_eq

theorem tokens_viewText (schema : Option String) (table : String) : tokens (viewText schema table) =
    Token.signs "SELECT COUNT(*) FROM INFORMATION_SCHEMA.TABLES WHERE TABLE_TYPE = " ++
      (Token.literal "VIEW" ::
        (Token.signs " AND " ++ (Token.signs "TABLE_NAME ILIKE " ++ conditionParts schema table))) := by
  have start : "SELECT COUNT(*) FROM INFORMATION_SCHEMA.TABLES WHERE TABLE_TYPE = 'VIEW' AND " =
      "SELECT COUNT(*) FROM INFORMATION_SCHEMA.TABLES WHERE TABLE_TYPE = " ++ (quoteLiteral "VIEW" ++ " AND ") := by
    decide
  unfold viewText
  rw [start, String.append_assoc, String.append_assoc]
  have behind := (Splits.quoteLiteral "VIEW").append_plain (by decide : Query.Plain " AND ") (by decide)
    (catalogCondition_splits schema table)
  exact (Splits.plain_append (by decide) behind).tokens_eq

theorem collect_condition (words : List Char) (schema : Option String) (table : String) (rest : String) :
    Comparison.collect words (Token.signs "TABLE_NAME ILIKE " ++ conditionParts schema table ++ Token.signs rest) =
      ⟨words ++ "TABLE_NAME ILIKE ".toList, table.toList⟩ ::
        (schema.map fun s => ⟨" AND TABLE_SCHEMA ILIKE ".toList, s.toList⟩).toList := by
  have name (rest : List Token) : Comparison.collect words (Token.signs "TABLE_NAME ILIKE " ++ Token.literal table :: rest) =
      ⟨words ++ "TABLE_NAME ILIKE ".toList, table.toList⟩ :: Comparison.collect [] rest := Comparison.collect_signs _ _ _
  have none : Comparison.collect [] (Token.signs rest) = [] := by
    have whole := Comparison.collect_signs [] rest []
    rwa [List.append_nil] at whole
  rw [List.append_assoc, conditionParts, List.cons_append, name]
  cases schema with
  | none => rw [Option.elim_none, List.nil_append, none]; rfl
  | some s =>
    rw [Option.elim_some, List.append_assoc, Comparison.collect_signs]
    show _ :: ⟨_, _⟩ :: Comparison.collect [] (Token.signs rest) = _
    rw [none]
    rfl

section Comparing

variable {f : CaseFold} {t : CatalogTable} {words literal : List Char}

theorem holds_name : Comparison.Holds f ⟨words ++ "TABLE_NAME ILIKE ".toList, literal⟩ t ↔ Like f literal t.name.toList :=
  iff_of_eq (if_pos (List.suffix_append _ _))

theorem holds_schema :
    Comparison.Holds f ⟨" AND TABLE_SCHEMA ILIKE ".toList, literal⟩ t ↔ Like f literal t.schema.toList := by
  rw [Comparison.Holds, if_neg (by dsimp only; decide), if_pos (by dsimp only; decide)]

theorem holds_kind :
    Comparison.Holds f ⟨"SELECT COUNT(*) FROM INFORMATION_SCHEMA.TABLES WHERE TABLE_TYPE = ".toList, literal⟩ t ↔
      literal = t.kind.toList := by
  rw [Comparison.Holds, if_neg (by dsimp only; decide), if_neg (by dsimp only; decide)]
  exact and_iff_right (by dsimp only; decide)

end Comparing

variable {f : CaseFold} {t : CatalogTable} {schema : Option String} {table : String}

theorem selects_condition {words : List Char} {rest : String} :
    (∀ c ∈ Comparison.collect words
      (Token.signs "TABLE_NAME ILIKE " ++ conditionParts schema table ++ Token.signs rest), c.Holds f t) ↔
      t.Matches f schema table := by
  rw [collect_condition, List.forall_mem_cons, holds_name, CatalogTable.Matches]
  cases schema with
  | none => simp only [Option.map_none, Option.toList_none, List.not_mem_nil, Option.not_mem_none, false_implies, implies_true]
  | some s => simp only [Option.map_some, Option.toList_some, List.forall_mem_singleton, holds_schema, Option.mem_some_iff,
      forall_eq']

theorem selects_catalogText : Selects f (Resolver.catalogText schema table) t ↔ t.Matches f schema table := by
  rw [Selects, tokens_catalogText, Comparison.collect_signs]
  exact selects_condition

theorem selects_viewText : Selects f (viewText schema table) t ↔ t.kind = "VIEW" ∧ t.Matches f schema table := by
  have named := @selects_condition f t schema table ([] ++ " AND ".toList) ""
  rw [show Token.signs "" = [] from rfl, List.append_nil] at named
  rw [Selects, tokens_viewText, Comparison.collect_signs, Token.literal, Comparison.collect, Comparison.collect_signs,
    List.forall_mem_cons, named, List.nil_append, holds_kind, String.toList_inj, eq_comm]

end Statements

/-- The warehouse answers the statement with the cells of the rows that it selects. -/
def Warehouse.Session.Lists (s : Session) (f : CaseFold) (catalog : List CatalogRow) (command : Warehouse.Command) :
    Prop :=
  ∀ number columns rows disturbance, s.answer number command = .rows columns rows disturbance →
    ∀ cells, cells ∈ rows ↔ ∃ row ∈ catalog, Selects f command.sql row.table ∧ row.cells = cells

namespace CatalogRow

theorem catalogColumn?_cells (row : CatalogRow) (ordinal : Nat) :
    Resolver.catalogColumn? row.cells ordinal = some ⟨row.column, row.dataType, row.comment, ordinal⟩ := by
  cases comment : row.comment <;> simp [Resolver.catalogColumn?, cells, comment, Value.asText?]

section Listing

variable {schema : Option String} {table name : String} {columns : List Column} {rows : List Row}
  {selected : CatalogRow → Prop} {catalog : List CatalogRow}

theorem mem_ofAnswer_cells (listed : ∀ cells, cells ∈ rows ↔ ∃ row ∈ catalog, selected row ∧ row.cells = cells)
    (column : ListedColumn) : column ∈ ListedColumn.ofAnswer (.table schema table) columns rows ↔
      ∃ row ∈ catalog, selected row ∧ column = ⟨row.column, !row.isAttribute⟩ := by
  have shown (row : CatalogRow) (ordinal : Nat) :
      ListedColumn.ofCatalog ⟨row.column, row.dataType, row.comment, ordinal⟩ = ⟨row.column, !row.isAttribute⟩ := by
    rw [ListedColumn.ofCatalog, isAttribute, Option.not_isNone]
  rw [ListedColumn.ofAnswer, List.mem_map]
  constructor
  · rintro ⟨c, among, rfl⟩
    obtain ⟨⟨cells, ordinal⟩, here, read⟩ := List.mem_filterMap.mp among
    obtain ⟨row, member, selects, rfl⟩ := (listed cells).mp (List.fst_mem_of_mem_zipIdx here)
    cases (catalogColumn?_cells row ordinal).symm.trans read
    exact ⟨row, member, selects, shown row ordinal⟩
  · rintro ⟨row, member, selects, rfl⟩
    obtain ⟨ordinal, here⟩ := List.mem_iff_getElem?.mp ((listed row.cells).mpr ⟨row, member, selects, rfl⟩)
    refine ⟨_, List.mem_filterMap.mpr ⟨(row.cells, ordinal), ?_, catalogColumn?_cells row ordinal⟩, shown row ordinal⟩
    exact List.mk_mem_zipIdx_iff_getElem?.mpr here

theorem mem_attributes_cells (listed : ∀ cells, cells ∈ rows ↔ ∃ row ∈ catalog, selected row ∧ row.cells = cells) :
    name ∈ ListedColumn.attributes (ListedColumn.ofAnswer (.table schema table) columns rows) ↔
      ∃ row ∈ catalog, selected row ∧ row.isAttribute ∧ row.column = name := by
  rw [ListedColumn.mem_attributes]
  constructor
  · rintro ⟨column, among, thematic, rfl⟩
    obtain ⟨row, member, selects, rfl⟩ := (mem_ofAnswer_cells listed column).mp among
    exact ⟨row, member, selects, by simpa using thematic, rfl⟩
  · rintro ⟨row, member, selects, thematic, rfl⟩
    exact ⟨_, (mem_ofAnswer_cells listed _).mpr ⟨row, member, selects, rfl⟩, by simpa using thematic, rfl⟩

end Listing

end CatalogRow

namespace Layer

variable {schema : Option String} {table : String}

theorem isView_eq {l : Layer} (source : l.base.source = .table schema table) :
    l.isView = do return 0 < firstCount (← queryAll l.base.endpoint (viewText schema table)) := by
  unfold isView
  rw [source]
  rfl

theorem mapRows_log {α : Type} (endpoint : Warehouse.Endpoint) (sql : String) (f : List Row → α) (s : Session) :
    ((do return f (← queryAll endpoint sql) : Action α).run s).2.log = s.log.push (endpoint.command sql) := by
  rw [Warehouse.Action.run_bind, queryAll_run]
  cases (s.answer s.log.size (endpoint.command sql)).outcome <;> exact s.queried_log _

variable {d : Descriptor} {context : Warehouse.Context} {settings : Settings} {l : Layer} {s s' : Session} {f : CaseFold}
  {catalog : List CatalogRow}

theorem mem_fields_of_table (source : d.source = .table schema table)
    (lists : s.Lists f catalog (Warehouse.Endpoint.command ⟨d.connection, context⟩ (Resolver.catalogText schema table)))
    (opened : (ofDescriptor d context settings).run s = (.ok l, s')) (name : String) :
    name ∈ l.base.fields.map (·.name) ↔
      ∃ row ∈ catalog, row.table.Matches f schema table ∧ row.isAttribute ∧ row.column = name := by
  have frame := precedes_frame
  obtain ⟨spec, fields, sampling, s₁, s₂, s₃, s₄, s₅, finds, noted, listing, -, -, rfl, -⟩ := ofDescriptor_stages opened
  -- The warehouse is the same when the fields are listed, and so is what it knows of the catalog.
  have before := ((findSpec_keeps frame _ d).outcome finds).trans ((noteWhen_keeps frame _ _).outcome noted)
  obtain ⟨listed, ⟨number, columns, rows, disturbance, -, -, reply, rfl⟩, names⟩ := findFields_ok listing
  have after := (findFields_keeps frame _ d.source).outcome listing
  rw [after.answer, before.answer, source] at reply
  have selected := lists number columns rows disturbance reply
  show name ∈ fields.map (·.name) ↔ _
  rw [names, source, CatalogRow.mem_attributes_cells selected]
  simp only [selects_catalogText, Warehouse.Endpoint.command]

/--
The statement that lists the columns of a table and the one that asks whether it is a view select what matches the names
of the table as patterns, and the fields of its layer are the attributes among that. What matches is the table of these
names, up to letter case, exactly when there is no wildcard in them; else some catalog has another table that does.
-/
theorem lookups_stay_on_named_table_unless_patterned (source : d.source = .table schema table)
    (lists : s.Lists f catalog (Warehouse.Endpoint.command ⟨d.connection, context⟩ (Resolver.catalogText schema table)))
    (opened : (ofDescriptor d context settings).run s = (.ok l, s')) :
    (∀ (r : Resolver) (t : Session), ∃ sql,
      ((r.tableColumns schema table).run t).2.log = t.log.push (r.endpoint.command sql) ∧
      ∀ entry : CatalogTable, Selects f sql entry ↔ entry.Matches f schema table) ∧
    (∀ (other : Layer) (t : Session), other.base.source = .table schema table → ∃ sql,
      (other.isView.run t).2.log = t.log.push (other.base.endpoint.command sql) ∧
      ∀ entry : CatalogTable, Selects f sql entry ↔ entry.kind = "VIEW" ∧ entry.Matches f schema table) ∧
    (∀ name, name ∈ l.base.fields.map (·.name) ↔
      ∃ row ∈ catalog, row.table.Matches f schema table ∧ row.isAttribute ∧ row.column = name) ∧
    ((∀ entry : CatalogTable, entry.Matches f schema table ↔ entry.IsNamed f schema table) ↔
      NoWildcard table.toList ∧ ∀ given ∈ schema, NoWildcard given.toList) := by
  refine ⟨fun r t => ?_, fun other t same => ?_, mem_fields_of_table source lists opened,
    CatalogTable.only_named_match_iff f schema table⟩
  · exact ⟨_, mapRows_log r.endpoint _ _ t, fun _ => selects_catalogText⟩
  · refine ⟨viewText schema table, ?_, fun _ => selects_viewText⟩
    rw [isView_eq same]
    exact mapRows_log other.base.endpoint _ _ t

section Docks

def dockA : CatalogRow := ⟨⟨"PUBLIC", "DOCK_A", "BASE TABLE"⟩, "ID", "NUMBER", none⟩

def docksA : CatalogRow := ⟨⟨"PUBLIC", "DOCKSA", "BASE TABLE"⟩, "BERTHS", "NUMBER", none⟩

def dockyard (rows : List CatalogRow) : Session := .start fun _ _ => .rows [] (rows.map (·.cells)) fun _ => .none

theorem dockyard_lists {rows : List CatalogRow} {command : Warehouse.Command} (sublist : rows ⊆ catalog)
    (selected : ∀ row ∈ catalog, Selects f command.sql row.table ↔ row ∈ rows) :
    (dockyard rows).Lists f catalog command := by
  rintro number columns _ disturbance ⟨⟩ cells
  rw [List.mem_map]
  constructor
  · rintro ⟨row, member, rfl⟩
    exact ⟨row, sublist member, (selected row (sublist member)).mpr member, rfl⟩
  · rintro ⟨row, among, selects, rfl⟩
    exact ⟨row, (selected row among).mp selects, rfl⟩

def dock (name : String) : Descriptor := .ofSource "c" (.table none name)

/-- Letter case does not count, and the other table stays out. -/
theorem docksA_has_its_own_columns : ∃ l s', (ofDescriptor (dock "docksa") .unset .standard).run (dockyard [docksA]) =
    (.ok l, s') ∧ "BERTHS" ∈ l.base.fields.map (·.name) ∧ "ID" ∉ l.base.fields.map (·.name) := by
  have plain : NoWildcard "docksa".toList ∧ ∀ s ∈ (none : Option String), NoWildcard s.toList := by decide
  have lists : (dockyard [docksA]).Lists .upper [dockA, docksA]
      (Warehouse.Endpoint.command ⟨"c", .unset⟩ (Resolver.catalogText none "docksa")) := by
    refine dockyard_lists (by decide) fun row _ => ?_
    rw [Warehouse.Endpoint.command, selects_catalogText, CatalogTable.matches_iff_isNamed plain.1 plain.2]
    revert row
    decide
  have opens : ((ofDescriptor (dock "docksa") .unset .standard).run (dockyard [docksA])).1.toOption.isSome := by
    decide +kernel
  obtain ⟨l, ok⟩ := Option.isSome_iff_exists.mp opens
  have opened : (ofDescriptor (dock "docksa") .unset .standard).run (dockyard [docksA]) = (.ok l, _) :=
    Prod.ext (ok_of_toOption ok) rfl
  obtain ⟨-, -, fields, named⟩ := lookups_stay_on_named_table_unless_patterned rfl lists opened
  refine ⟨l, _, opened, ?_, ?_⟩
  · exact (fields "BERTHS").mpr ⟨docksA, by decide, (named.mpr plain docksA.table).mpr (by decide), by decide, rfl⟩
  · intro shown
    obtain ⟨row, among, matched, -, same⟩ := (fields "ID").mp shown
    have other : ∀ row ∈ [dockA, docksA], row.column = "ID" → ¬ row.table.IsNamed .upper none "docksa" := by decide
    exact other row among same ((named.mpr plain row.table).mp matched)

/-- The underscore of the one table's name stands for a letter of the other's. -/
theorem dockA_shows_columns_of_docksA :
    (dockyard [dockA, docksA]).Lists .upper [dockA, docksA]
      (Warehouse.Endpoint.command ⟨"c", .unset⟩ (Resolver.catalogText none "DOCK_A")) ∧
    (∃ l s', (ofDescriptor (dock "DOCK_A") .unset .standard).run (dockyard [dockA, docksA]) = (.ok l, s') ∧
      "BERTHS" ∈ l.base.fields.map (·.name)) ∧
    ∀ row ∈ [dockA, docksA], row.table.IsNamed .upper none "DOCK_A" → row.column ≠ "BERTHS" := by
  have letter : Like .upper ("DOCK".toList ++ ['_', 'A']) ("DOCK".toList ++ ['S', 'A']) :=
    .append_left _ (.any 'S' (.self _ ['A']))
  have matched : ∀ row ∈ [dockA, docksA], row.table.Matches .upper none "DOCK_A" := by
    intro row among
    rcases List.mem_pair.mp among with rfl | rfl
    · exact CatalogTable.IsNamed.matches (by decide)
    · exact ⟨letter, nofun⟩
  refine ⟨?_, ?_, by decide⟩
  · refine dockyard_lists (List.Subset.refl _) fun row among => ?_
    rw [Warehouse.Endpoint.command, selects_catalogText]
    exact iff_of_true (matched row among) among
  · have shown : (((ofDescriptor (dock "DOCK_A") .unset .standard).run (dockyard [dockA, docksA])).1.toOption.map
        fun l => l.base.fields.map (·.name)) = some ["ID", "BERTHS"] := by decide +kernel
    obtain ⟨l, ok, fields⟩ := Option.map_eq_some_iff.mp shown
    exact ⟨l, _, Prod.ext (ok_of_toOption ok) rfl, fields ▸ by decide⟩

end Docks

end Layer

end FeatureLayers
