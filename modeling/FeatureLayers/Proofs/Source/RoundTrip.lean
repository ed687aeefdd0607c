import FeatureLayers.Proofs.Numeric.Digits
import FeatureLayers.Proofs.Schema.Kinds
import FeatureLayers.Proofs.Source.Pairs

namespace FeatureLayers

def Source.Filled : Source → Prop
  | .table schema name => schema ≠ some "" ∧ name ≠ ""
  | .query sql => sql ≠ ""

/-- No text is empty, and the reference system is a number of 32 bits. -/
structure Descriptor.Storable (d : Descriptor) : Prop where
  connection : d.connection ≠ ""
  source : d.source.Filled
  geometryColumn : d.geometryColumn ≠ some ""
  primaryKey : d.primaryKey ≠ some ""
  srid : ∀ n, d.srid = some n → -Nat.pow 2 31 ≤ n ∧ n < Nat.pow 2 31

namespace Uri

def sourceFields : Source → List (String × Option String)
  | .table schema name => [("schema_name", schema), ("table_name", some name), ("sql_query", none)]
  | .query sql => [("schema_name", none), ("table_name", none), ("sql_query", some sql)]

def descriptorFields (d : Descriptor) : List (String × Option String) :=
  ("connection_name", some d.connection) :: sourceFields d.source ++
    [("srid", d.srid.map intText), ("geom_column", d.geometryColumn), ("geometry_type", d.geometryKind.map (·.name)),
      ("geo_column_type", d.encoding.map (·.name)), ("primary_key", d.primaryKey)]

theorem descriptorPairs_eq (d : Descriptor) : descriptorPairs d = given (descriptorFields d) := by
  cases h : d.source <;>
    simp [descriptorPairs, given, descriptorFields, sourceFields, sourcePairs, h, Function.comp_def]

def descriptorKeys : List String :=
  ["connection_name", "schema_name", "table_name", "sql_query", "srid", "geom_column", "geometry_type",
    "geo_column_type", "primary_key"]

theorem descriptorFields_keys (d : Descriptor) : (descriptorFields d).map Prod.fst = descriptorKeys := by
  cases h : d.source <;> simp [descriptorFields, sourceFields, descriptorKeys, h]

theorem descriptorPairs_named (d : Descriptor) : ∀ entry ∈ descriptorPairs d, IsKey entry.1.toList := by
  have keys : ∀ key ∈ descriptorKeys, IsKey key.toList := by decide
  intro entry member
  refine keys entry.1 ?_
  rw [descriptorPairs_eq] at member
  obtain ⟨field, inside, listed⟩ := List.mem_flatMap.mp member
  obtain ⟨value, -, rfl⟩ := Option.map_eq_some_iff.mp (Option.mem_toList.mp listed)
  exact descriptorFields_keys d ▸ List.mem_map_of_mem inside

theorem descriptorFields_filled {d : Descriptor} (storable : d.Storable) :
    ∀ field ∈ descriptorFields d, field.2 ≠ some "" := by
  have srid : d.srid.map intText ≠ some "" := by
    rintro empty
    obtain ⟨n, -, text⟩ := Option.map_eq_some_iff.mp empty
    exact intText_ne_empty n text
  have kind : d.geometryKind.map (·.name) ≠ some "" := by
    rintro empty
    obtain ⟨kind, -, text⟩ := Option.map_eq_some_iff.mp empty
    cases kind <;> simp [GeometryKind.name] at text
  have encoding : d.encoding.map (·.name) ≠ some "" := by
    rintro empty
    obtain ⟨encoding, -, text⟩ := Option.map_eq_some_iff.mp empty
    cases encoding <;> simp [Encoding.name] at text
  have source := storable.source
  cases h : d.source <;> rw [h, Source.Filled] at source <;>
    simp [descriptorFields, sourceFields, h, srid, kind, encoding, source, storable.connection,
      storable.geometryColumn, storable.primaryKey]

theorem lookup?_write {d : Descriptor} (storable : d.Storable) (key : String) :
    lookup? ((descriptorPairs d).map entryPair) key = ((descriptorFields d).lookup key).join := by
  rw [descriptorPairs_eq]
  refine lookup?_given ?_ (descriptorFields_filled storable) key
  rw [descriptorFields_keys]
  decide

theorem readOptional_text {α : Type} {pairs : List Pair} {key : String} {read : String → Option α} {text : α → String}
    {value : Option α} (found : lookup? pairs key = value.map text)
    (back : ∀ a, value = some a → read (text a) = some a) : readOptional pairs key read = .ok value := by
  unfold readOptional
  rw [found]
  cases value with
  | none => rfl
  | some a => simp [back a rfl]

theorem ofStoredName?_name (encoding : Encoding) : Encoding.ofStoredName? encoding.name = some encoding := by
  cases encoding <;> decide +kernel

section Fields

variable (d : Descriptor)

theorem descriptorFields_lookup_source : let text (key : String) := ((descriptorFields d).lookup key).join
    text "sql" = none ∧ text "sql_query" = ((sourceFields d.source).lookup "sql_query").join ∧
      text "table_name" = ((sourceFields d.source).lookup "table_name").join ∧
      text "schema_name" = ((sourceFields d.source).lookup "schema_name").join := by
  cases h : d.source <;> simp [descriptorFields, sourceFields, h, List.lookup_cons]

theorem descriptorFields_lookup : let text (key : String) := ((descriptorFields d).lookup key).join
    text "connection_name" = some d.connection ∧ text "srid" = d.srid.map intText ∧
      text "geometry_type" = d.geometryKind.map (·.name) ∧ text "geo_column_type" = d.encoding.map (·.name) ∧
      text "geom_column" = d.geometryColumn ∧ text "geo_column" = none ∧ text "primary_key" = d.primaryKey := by
  cases h : d.source <;> simp [descriptorFields, sourceFields, h, List.lookup_cons]

end Fields

theorem parse_of_storable {d : Descriptor} (storable : d.Storable) : parse (write d) = .ok d := by
  let entries := (descriptorPairs d).map entryPair
  have found : ∀ key, lookup? entries key = ((descriptorFields d).lookup key).join := lookup?_write storable
  obtain ⟨connection, sridText, kindText, encodingText, column, otherColumn, primaryKey⟩ := descriptorFields_lookup d
  simp only [← found] at connection sridText kindText encodingText column otherColumn primaryKey
  have source : sourceOf entries = .ok d.source := by
    obtain ⟨sql, query, table, schema⟩ := descriptorFields_lookup_source d
    simp only [← found] at sql query table schema
    rw [sourceOf, query, sql, table, schema]
    cases d.source <;> rfl
  have srid : readOptional entries "srid" (fun raw => int32? raw.toList) = .ok d.srid :=
    readOptional_text sridText fun n same => int32?_intText (storable.srid n same).1 (storable.srid n same).2
  have kind : readOptional entries "geometry_type" GeometryKind.ofName? = .ok d.geometryKind :=
    readOptional_text kindText fun kind _ => kind.ofName?_name
  have encoding : readOptional entries "geo_column_type" Encoding.ofStoredName? = .ok d.encoding :=
    readOptional_text encodingText fun encoding _ => ofStoredName?_name encoding
  rw [parse, write, pairs_written (descriptorPairs_named d)]
  simp only [Bind.bind, Except.bind]
  rw [connection, source, srid, kind, encoding, column, otherColumn, primaryKey, Option.or_none]
  rfl

theorem bind_ok {α β : Type} {read : Except Fault α} {next : α → Except Fault β} {b : β}
    (h : (read >>= next) = .ok b) : ∃ a, read = .ok a ∧ next a = .ok b := by
  cases read with
  | error fault => cases h
  | ok a => exact ⟨a, rfl, h⟩

section Read

variable {pairs : List Pair}

theorem lookup?_not_empty (key : String) : lookup? pairs key ≠ some "" :=
  fun empty => lookup?_filled empty rfl

theorem lookup?_or_not_empty (key other : String) : (lookup? pairs key).or (lookup? pairs other) ≠ some "" := by
  intro empty
  rcases Option.or_eq_some_iff.mp empty with first | ⟨-, second⟩
  · exact lookup?_not_empty key first
  · exact lookup?_not_empty other second

theorem sourceOf_filled {source : Source} (h : sourceOf pairs = .ok source) : source.Filled := by
  unfold sourceOf at h
  split at h
  · rename_i sql _ found
    cases h
    exact fun empty => lookup?_or_not_empty _ _ (found.trans (congrArg some empty))
  · rename_i name _ found
    cases h
    exact ⟨lookup?_not_empty _, lookup?_filled found⟩
  · cases h

theorem readOptional_some {α : Type} {key : String} {read : String → Option α} {a : α}
    (h : readOptional pairs key read = .ok (some a)) : ∃ raw, read raw = some a := by
  unfold readOptional at h
  split at h
  · cases h
  · rename_i raw _
    split at h
    · rename_i found
      cases h
      exact ⟨raw, found⟩
    · cases h

end Read

theorem storable_of_parse {uri : String} {d : Descriptor} (h : parse uri = .ok d) : d.Storable := by
  unfold parse at h
  obtain ⟨pairs, -, h⟩ := bind_ok h
  split at h
  · rename_i connection found
    obtain ⟨_, same, h⟩ := bind_ok h
    cases same
    obtain ⟨source, readSource, h⟩ := bind_ok h
    obtain ⟨srid, readSrid, h⟩ := bind_ok h
    obtain ⟨kind, -, h⟩ := bind_ok h
    obtain ⟨encoding, -, h⟩ := bind_ok h
    cases h
    refine ⟨lookup?_filled found, sourceOf_filled readSource, lookup?_or_not_empty _ _, lookup?_not_empty _, ?_⟩
    rintro n rfl
    obtain ⟨raw, number⟩ := readOptional_some readSrid
    exact int32?_bounds number
  · obtain ⟨_, absent, -⟩ := bind_ok h
    cases absent

/--
A descriptor without empty texts is written and read again without a change; and every descriptor that is read from a text
is of this kind.
-/
theorem parse_write (d : Descriptor) :
    (d.Storable → parse (write d) = .ok d) ∧
      ∀ uri, parse uri = .ok d → d.Storable ∧ parse (write d) = .ok d :=
  ⟨parse_of_storable, fun _ read => ⟨storable_of_parse read, parse_of_storable (storable_of_parse read)⟩⟩

def quotedQuery : Descriptor where
  connection := "lake = 1"
  source := .query "select \"A\", '\\' as B\nfrom T where N = 'x srid=1'"
  geometryColumn := some "G\""
  geometryKind := some .multiPolygon
  encoding := some .geometry
  srid := some (-5)
  primaryKey := some "\\"

def bareTable : String := "table_name='l\\'eau \"=\"' connection_name=lake srid=1 unknown= srid=+4326 schema_name="

theorem parse_write_of_quoted_query :
    let table := { Descriptor.ofSource "lake" (.table none "l'eau \"=\"") with srid := some 4326 }
    (quotedQuery.Storable ∧ parse (write quotedQuery) = .ok quotedQuery) ∧
      parse bareTable = .ok table ∧ parse (write table) = .ok table := by
  intro table
  have storable : quotedQuery.Storable := by
    refine ⟨by decide, by simp [quotedQuery, Source.Filled], by decide, by decide, ?_⟩
    rintro n same
    cases same
    decide
  have found : (parse bareTable).toOption = some table := by decide +kernel
  have read : parse bareTable = .ok table := by
    cases read : parse bareTable with
    | error fault =>
      rw [read] at found
      cases found
    | ok d =>
      rw [read] at found
      exact congrArg Except.ok (Option.some.inj found)
  exact ⟨⟨storable, (parse_write quotedQuery).1 storable⟩, read, ((parse_write table).2 bareTable read).2⟩

end Uri

end FeatureLayers
