import FeatureLayers.Proofs.Source.Pairs
import Mathlib.Data.Finmap

namespace FeatureLayers.Uri

inductive Style
  | double
  | single
  | bare
deriving DecidableEq, Repr

namespace Style

def mark? : Style → Option Char
  | double => some '"'
  | single => some '\''
  | bare => none

def render (style : Style) (value : List Char) : List Char :=
  match style.mark? with
  | some mark => mark :: (value.flatMap (escapeIn mark) ++ [mark])
  | none => value

/-- Any value stands between quotes; one that stands bare holds no blanks and does not begin like a quoted one. -/
def Admits (style : Style) (value : List Char) : Prop :=
  style = bare → (∀ c ∈ value, Text.isBlank c = false) ∧ value.head? ≠ some '"' ∧ value.head? ≠ some '\''

instance (style : Style) (value : List Char) : Decidable (style.Admits value) :=
  have : Decidable (∀ c ∈ value, Text.isBlank c = false) := List.decidableBAll _ value
  inferInstanceAs (Decidable (_ → _))

end Style

def Blank (gap : List Char) : Prop := ∀ c ∈ gap, Text.isBlank c = true

instance (gap : List Char) : Decidable (Blank gap) := List.decidableBAll _ gap

structure Written where
  pair : Pair
  style : Style
  gap : List Char

namespace Written

def text (w : Written) : List Char := w.pair.key ++ '=' :: (w.style.render w.pair.value ++ w.gap)

structure Valid (w : Written) : Prop where
  key : IsKey w.pair.key
  value : w.style.Admits w.pair.value
  gap : Blank w.gap

instance (w : Written) : Decidable w.Valid :=
  decidable_of_iff (IsKey w.pair.key ∧ w.style.Admits w.pair.value ∧ Blank w.gap)
    ⟨fun ⟨key, value, gap⟩ => ⟨key, value, gap⟩, fun ⟨key, value, gap⟩ => ⟨key, value, gap⟩⟩

/-- A bare value goes on until a blank, so that another pair behind it needs one; a quoted value ends by itself. -/
def Parts (w _next : Written) : Prop := w.style = .bare → w.gap ≠ []

instance (w next : Written) : Decidable (w.Parts next) := inferInstanceAs (Decidable (_ → _))

end Written

section Reading

variable {gap value rest : List Char} {key : List Char}

theorem pairsFrom_gap (blank : Blank gap) (rest : List Char) :
    pairsFrom .gap (gap ++ rest) = pairsFrom .gap rest := by
  induction gap with
  | nil => rfl
  | cons c gap ih =>
    have here : Text.isBlank c = true := blank c List.mem_cons_self
    rw [List.cons_append, pairsFrom_step .gap (by simp [step, here])]
    exact ih fun d member => blank d (List.mem_cons_of_mem _ member)

theorem pairsFrom_ends_at_blank {state : State} {c : Char} {pair : Pair} (blank : Text.isBlank c = true)
    (ended : step state c = .ok (.gap, some pair)) (rest : List Char) :
    pairsFrom state (c :: rest) = (pairsFrom .gap (c :: rest)).map (pair :: ·) := by
  have passed : step .gap c = .ok (.gap, none) := by simp [step, blank]
  rw [pairsFrom_ends .gap ended, pairsFrom_step .gap passed]

theorem pairsFrom_solid (solid : ∀ c ∈ value, Text.isBlank c = false)
    (ends : ∀ c ∈ rest.head?, Text.isBlank c = true) (read : List Char) :
    pairsFrom (.bare key read) (value ++ rest) =
      (pairsFrom .gap rest).map (⟨key, read.reverse ++ value⟩ :: ·) := by
  induction value generalizing read with
  | nil =>
    rw [List.nil_append, List.append_nil]
    cases rest with
    | nil => rfl
    | cons c rest =>
      have blank : Text.isBlank c = true := ends c rfl
      exact pairsFrom_ends_at_blank blank (by simp [step, blank]) rest
  | cons c value ih =>
    have here : Text.isBlank c = false := solid c List.mem_cons_self
    rw [List.cons_append, pairsFrom_step (.bare key (c :: read)) (by simp [step, here]),
      ih fun d member => solid d (List.mem_cons_of_mem _ member)]
    rw [List.reverse_cons, List.append_assoc, List.singleton_append]

theorem pairsFrom_bare (admits : Style.bare.Admits value) (ends : ∀ c ∈ rest.head?, Text.isBlank c = true) :
    pairsFrom (.value key) (value ++ rest) = (pairsFrom .gap rest).map (⟨key, value⟩ :: ·) := by
  obtain ⟨solid, double, single⟩ := admits rfl
  cases value with
  | nil =>
    cases rest with
    | nil => rfl
    | cons c rest =>
      have blank : Text.isBlank c = true := ends c rfl
      have unquoted : ¬ (c = '"' ∨ c = '\'') := by
        rintro (rfl | rfl) <;> exact absurd blank (by decide)
      exact pairsFrom_ends_at_blank blank (by simp [step, unquoted, blank]) rest
  | cons c value =>
    have here : Text.isBlank c = false := solid c List.mem_cons_self
    have unquoted : ¬ (c = '"' ∨ c = '\'') := by simpa using And.intro double single
    rw [List.cons_append, pairsFrom_step (.bare key [c]) (by simp [step, unquoted, here]),
      pairsFrom_solid (fun d member => solid d (List.mem_cons_of_mem _ member)) ends]
    rfl

theorem pairsFrom_styled {style : Style} (admits : style.Admits value)
    (ends : style = .bare → ∀ c ∈ rest.head?, Text.isBlank c = true) :
    pairsFrom (.value key) (style.render value ++ rest) = (pairsFrom .gap rest).map (⟨key, value⟩ :: ·) := by
  have quoted {mark : Char} (isMark : mark = '"' ∨ mark = '\'') :
      pairsFrom (.value key) (mark :: (value.flatMap (escapeIn mark) ++ [mark]) ++ rest) =
        (pairsFrom .gap rest).map (⟨key, value⟩ :: ·) := by
    rw [List.cons_append, List.append_assoc, List.singleton_append]
    exact pairsFrom_opened isMark key value rest
  cases style with
  | double => exact quoted (.inl rfl)
  | single => exact quoted (.inr rfl)
  | bare => exact pairsFrom_bare admits (ends rfl)

theorem pairsFrom_written {w : Written} (valid : w.Valid) (parts : w.style = .bare → w.gap = [] → rest = []) :
    pairsFrom .gap (w.text ++ rest) = (pairsFrom .gap rest).map (w.pair :: ·) := by
  have ends (bare : w.style = .bare) : ∀ c ∈ (w.gap ++ rest).head?, Text.isBlank c = true := by
    cases gap : w.gap with
    | nil => simp [parts bare gap]
    | cons c behind => simpa using valid.gap c (gap ▸ List.mem_cons_self)
  rw [Written.text, List.append_assoc, List.cons_append, List.append_assoc, pairsFrom_named valid.key,
    pairsFrom_styled valid.value ends, pairsFrom_gap valid.gap]

theorem pairs_rendered {lead : List Char} {written : List Written} (blank : Blank lead)
    (valid : ∀ w ∈ written, w.Valid) (parted : written.IsChain Written.Parts) :
    pairs (lead ++ written.flatMap Written.text) = .ok (written.map Written.pair) := by
  rw [pairs, pairsFrom_gap blank]
  induction written with
  | nil => rfl
  | cons w others ih =>
    have behind := ih (fun other member => valid other (List.mem_cons_of_mem _ member)) parted.tail
    have parts : w.style = .bare → w.gap = [] → others.flatMap Written.text = [] := by
      intro bare empty
      cases others with
      | nil => rfl
      | cons next others => exact absurd empty ((List.isChain_cons_cons.mp parted).1 bare)
    rw [List.flatMap_cons, pairsFrom_written (valid w List.mem_cons_self) parts, behind]
    rfl

end Reading

abbrev Table := Finmap fun _ : List Char => List Char

def Pair.entry (pair : Pair) : Sigma fun _ : List Char => List Char := ⟨pair.key, pair.value⟩

def tableOf (pairs : List Pair) : Table := pairs.foldl (fun table pair => table.insert pair.key pair.value) ∅

section Tables

variable {pairs : List Pair}

theorem tableOf_concat (pairs : List Pair) (pair : Pair) :
    tableOf (pairs ++ [pair]) = (tableOf pairs).insert pair.key pair.value := by
  rw [tableOf, List.foldl_append]
  rfl

theorem lookup_tableOf (pairs : List Pair) (key : List Char) :
    (tableOf pairs).lookup key = (pairs.reverse.find? (·.key = key)).map (·.value) := by
  induction pairs using List.reverseRecOn with
  | nil => rfl
  | append_singleton pairs pair ih =>
    rw [tableOf_concat, List.reverse_append, List.reverse_singleton, List.singleton_append]
    by_cases same : pair.key = key
    · subst same
      simp
    · simp [same, Finmap.lookup_insert_of_ne _ (Ne.symm same), ih]

theorem lookup?_eq_tableOf (pairs : List Pair) (key : String) :
    lookup? pairs key = ((tableOf pairs).lookup key.toList).bind fun value =>
      if value.isEmpty then none else some (String.ofList value) := by
  rw [lookup?, lookup_tableOf, Option.bind_map]
  rfl

theorem entries_tableOf (distinct : (pairs.map Pair.key).Nodup) :
    (tableOf pairs).entries = ↑(pairs.map Pair.entry) := by
  induction pairs using List.reverseRecOn with
  | nil => rfl
  | append_singleton pairs pair ih =>
    -- Insertion puts a fresh entry in front, where the list has it at its end.
    rw [List.map_append, List.nodup_append] at distinct
    obtain ⟨earlier, -, apart⟩ := distinct
    have fresh : pair.key ∉ tableOf pairs := by
      rw [← Finmap.lookup_eq_none, lookup_tableOf, Option.map_eq_none_iff, List.find?_eq_none]
      intro other member same
      exact apart other.key (List.mem_map_of_mem (List.mem_reverse.mp member)) pair.key (by simp) (by simpa using same)
    rw [tableOf_concat, Finmap.entries_insert_of_notMem fresh, ih earlier, List.map_append]
    exact Multiset.coe_eq_coe.mpr (List.perm_append_singleton _ _).symm

end Tables

/-- The text is one of the ways to write the table down. -/
def Renders (table : Table) (text : String) : Prop :=
  ∃ (lead : List Char) (written : List Written), table.entries = ↑(written.map fun w => w.pair.entry) ∧
    Blank lead ∧ (∀ w ∈ written, w.Valid) ∧ written.IsChain Written.Parts ∧
    text.toList = lead ++ written.flatMap Written.text

theorem Renders.read {table : Table} {text : String} (renders : Renders table text) :
    ∃ read, pairs text.toList = .ok read ∧ tableOf read = table := by
  obtain ⟨lead, written, entries, blank, valid, parted, layout⟩ := renders
  refine ⟨written.map Written.pair, by rw [layout, pairs_rendered blank valid parted], Finmap.ext ?_⟩
  have distinct := table.nodupKeys
  rw [entries, Multiset.coe_nodupKeys, List.NodupKeys, List.keys, List.map_map] at distinct
  rw [entries, entries_tableOf (by rwa [List.map_map]), List.map_map]
  rfl

def knownKeys : List String :=
  ["connection_name", "sql_query", "sql", "table_name", "schema_name", "srid", "geometry_type", "geo_column_type",
    "geom_column", "geo_column", "primary_key"]

/-- The same fault in another text; only a missing connection is reported with the text it is missing in. -/
def Fault.about (uri : String) : Fault → Fault
  | .missingConnection _ => .missingConnection uri
  | fault => fault

theorem mapError_bind {α β : Type} (f : Fault → Fault) (read : Except Fault α) (next : α → Except Fault β) :
    (read >>= next).mapError f = read.mapError f >>= fun a => (next a).mapError f := by
  cases read <;> rfl

theorem sourceOf_about (uri : String) (read : List Pair) :
    (sourceOf read).mapError (Fault.about uri) = sourceOf read := by
  unfold sourceOf
  split <;> rfl

theorem readOptional_about {α : Type} (uri : String) (read : List Pair) (key : String) (value? : String → Option α) :
    (readOptional read key value?).mapError (Fault.about uri) = readOptional read key value? := by
  unfold readOptional
  split
  · rfl
  · split <;> rfl

theorem parse_congr {uri uri' : String} {read read' : List Pair} (h : pairs uri.toList = pure read)
    (h' : pairs uri'.toList = pure read') (alike : ∀ key ∈ knownKeys, lookup? read' key = lookup? read key) :
    parse uri' = (parse uri).mapError (Fault.about uri') := by
  simp only [knownKeys, List.forall_mem_cons] at alike
  obtain ⟨connection, sqlQuery, sql, table, schema, srid, kind, encoding, geom, geo, primaryKey, -⟩ := alike
  have source : sourceOf read' = sourceOf read := by
    simp only [sourceOf, sqlQuery, sql, table, schema]
  have optional {α : Type} {key : String} (same : lookup? read' key = lookup? read key) (value? : String → Option α) :
      readOptional read' key value? = readOptional read key value? := by
    simp only [readOptional, same]
  simp only [parse, h, h', pure_bind, connection, source, optional srid, optional kind, optional encoding, geom, geo,
    primaryKey]
  cases lookup? read "connection_name" with
  | none => rfl
  | some connection =>
    simp only [mapError_bind, sourceOf_about, readOptional_about]
    rfl

/-- A table is read back from each of its renderings, and two texts that agree in the known keys describe the same layer
or are at fault alike. -/
theorem renderings_read_alike {table table' : Table} {text text' : String} (renders : Renders table text)
    (renders' : Renders table' text')
    (alike : ∀ key ∈ knownKeys, table'.lookup key.toList = table.lookup key.toList) :
    (pairs text.toList).map tableOf = .ok table ∧
      parse text' = (parse text).mapError (Fault.about text') := by
  obtain ⟨read, h, rfl⟩ := renders.read
  obtain ⟨read', h', rfl⟩ := renders'.read
  refine ⟨by rw [h]; rfl, parse_congr h h' fun key known => ?_⟩
  rw [lookup?_eq_tableOf, lookup?_eq_tableOf, alike key known]

/-- The pairs exchanged, other marks and blanks, and a key that is not known. -/
theorem renderings_read_alike_exchanged :
    (pairs "connection_name=harbour table_name=\"the 'old' quays\"".toList).map tableOf =
        .ok (tableOf [⟨"connection_name".toList, "harbour".toList⟩, ⟨"table_name".toList, "the 'old' quays".toList⟩]) ∧
      parse "\n table_name='the \\'old\\' quays'connection_name=harbour\t\tcolour=blue " =
        (parse "connection_name=harbour table_name=\"the 'old' quays\"").mapError
          (Fault.about "\n table_name='the \\'old\\' quays'connection_name=harbour\t\tcolour=blue ") := by
  let connection : Pair := ⟨"connection_name".toList, "harbour".toList⟩
  let table : Pair := ⟨"table_name".toList, "the 'old' quays".toList⟩
  let colour : Pair := ⟨"colour".toList, "blue".toList⟩
  have alike : ∀ key ∈ knownKeys,
      (tableOf [connection, table, colour]).lookup key.toList = (tableOf [connection, table]).lookup key.toList := by
    decide +kernel
  refine renderings_read_alike ?_ ?_ alike
  · refine ⟨[], [⟨connection, .bare, [' ']⟩, ⟨table, .double, []⟩], entries_tableOf ?_, ?_, ?_, ?_, ?_⟩ <;>
      decide +kernel
  · have exchanged : (tableOf [connection, table, colour]).entries = ↑([table, connection, colour].map Pair.entry) := by
      rw [entries_tableOf (by decide +kernel)]
      exact Multiset.coe_eq_coe.mpr (.swap _ _ _)
    refine ⟨['\n', ' '], [⟨table, .single, []⟩, ⟨connection, .bare, ['\t', '\t']⟩, ⟨colour, .bare, [' ']⟩], exchanged,
      ?_, ?_, ?_, ?_⟩ <;> decide +kernel

end FeatureLayers.Uri
