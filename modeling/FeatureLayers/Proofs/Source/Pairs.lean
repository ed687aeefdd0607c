import FeatureLayers.Source.Uri

namespace FeatureLayers.Uri

def escapeIn (quote c : Char) : List Char := if c = '\\' ∨ c = quote then ['\\', c] else [c]

def IsKey (key : List Char) : Prop := key ≠ [] ∧ ∀ c ∈ key, Text.isBlank c = false ∧ c ≠ '='

instance (key : List Char) : Decidable (IsKey key) := @instDecidableAnd _ _ instDecidableNot (List.decidableBAll _ key)

section Reading

variable {state : State} {c : Char} (next : State)

theorem pairsFrom_step (h : step state c = .ok (next, none)) (rest : List Char) :
    pairsFrom state (c :: rest) = pairsFrom next rest := by
  rw [pairsFrom, h]
  simp only [Bind.bind, Except.bind]
  cases pairsFrom next rest <;> rfl

theorem pairsFrom_ends {pair : Pair} (h : step state c = .ok (next, some pair)) (rest : List Char) :
    pairsFrom state (c :: rest) = (pairsFrom next rest).map (pair :: ·) := by
  rw [pairsFrom, h]
  simp only [Bind.bind, Except.bind]
  cases pairsFrom next rest <;> rfl

theorem pairsFrom_quoted {quote : Char} (plain : quote ≠ '\\') (key value read rest : List Char) :
    pairsFrom (.quoted key quote read) (value.flatMap (escapeIn quote) ++ quote :: rest) =
      (pairsFrom .gap rest).map (⟨key, read.reverse ++ value⟩ :: ·) := by
  induction value generalizing read with
  | nil =>
    rw [List.flatMap_nil, List.nil_append, List.append_nil]
    exact pairsFrom_ends .gap (by simp [step, plain]) rest
  | cons c value ih =>
    have onward := ih (c :: read)
    rw [List.reverse_cons, List.append_assoc, List.singleton_append] at onward
    rw [List.flatMap_cons, List.append_assoc, ← onward]
    by_cases escaped : c = '\\' ∨ c = quote
    · rw [escapeIn, if_pos escaped, List.cons_append, List.cons_append, List.nil_append,
        pairsFrom_step (.escaped key quote read) (by simp [step])]
      exact pairsFrom_step (.quoted key quote (c :: read)) (by simp [step]) _
    · obtain ⟨slash, other⟩ := not_or.mp escaped
      rw [escapeIn, if_neg escaped, List.cons_append, List.nil_append]
      exact pairsFrom_step (.quoted key quote (c :: read)) (by simp [step, slash, other]) _

theorem pairsFrom_key {key : List Char} (plain : ∀ c ∈ key, Text.isBlank c = false ∧ c ≠ '=') (read rest : List Char) :
    pairsFrom (.key read) (key ++ '=' :: rest) = pairsFrom (.value (read.reverse ++ key)) rest := by
  induction key generalizing read with
  | nil =>
    rw [List.nil_append, List.append_nil]
    exact pairsFrom_step (.value read.reverse) (by simp [step]) rest
  | cons c key ih =>
    obtain ⟨solid, other⟩ := plain c List.mem_cons_self
    have onward := ih (fun d member => plain d (List.mem_cons_of_mem _ member)) (c :: read)
    rw [List.reverse_cons, List.append_assoc, List.singleton_append] at onward
    rw [List.cons_append, ← onward]
    exact pairsFrom_step (.key (c :: read)) (by simp [step, solid, other]) _

theorem pairsFrom_named {key : List Char} (isKey : IsKey key) (rest : List Char) :
    pairsFrom .gap (key ++ '=' :: rest) = pairsFrom (.value key) rest := by
  obtain ⟨filled, solid⟩ := isKey
  obtain ⟨c, key, rfl⟩ := List.exists_cons_of_ne_nil filled
  obtain ⟨first, other⟩ := solid c List.mem_cons_self
  rw [List.cons_append, pairsFrom_step (.key [c]) (by simp [step, first, other]),
    pairsFrom_key fun d member => solid d (List.mem_cons_of_mem _ member)]
  rfl

theorem pairsFrom_opened {quote : Char} (mark : quote = '"' ∨ quote = '\'') (key value rest : List Char) :
    pairsFrom (.value key) (quote :: (value.flatMap (escapeIn quote) ++ quote :: rest)) =
      (pairsFrom .gap rest).map (⟨key, value⟩ :: ·) := by
  have plain : quote ≠ '\\' := by
    rcases mark with rfl | rfl <;> decide
  rw [pairsFrom_step (.quoted key quote []) (by simp [step, mark]), pairsFrom_quoted plain]
  rfl

theorem pairsFrom_pair {quote : Char} (mark : quote = '"' ∨ quote = '\'') {key : List Char} (isKey : IsKey key)
    (value rest : List Char) :
    pairsFrom .gap (key ++ '=' :: quote :: (value.flatMap (escapeIn quote) ++ quote :: rest)) =
      (pairsFrom .gap rest).map (⟨key, value⟩ :: ·) := by
  rw [pairsFrom_named isKey, pairsFrom_opened mark]

end Reading

def entryPair (entry : String × String) : Pair := ⟨entry.1.toList, entry.2.toList⟩

theorem pairText_toList (entry : String × String) : (pairText entry).toList =
    entry.1.toList ++ '=' :: '"' :: (entry.2.toList.flatMap (escapeIn '"') ++ ['"']) := by
  simp only [pairText, String.toList_append, String.toList_ofList, List.append_assoc]
  rfl

theorem pairs_written {entries : List (String × String)} (named : ∀ entry ∈ entries, IsKey entry.1.toList) :
    pairs (" ".intercalate (entries.map pairText)).toList = .ok (entries.map entryPair) := by
  have blank : " ".toList = [' '] := by decide
  rw [String.toList_intercalate, List.map_map, pairs, blank]
  induction entries with
  | nil => rfl
  | cons entry others ih =>
    have behind := ih fun other member => named other (List.mem_cons_of_mem _ member)
    have read (rest : List Char) : pairsFrom .gap ((pairText entry).toList ++ rest) =
        (pairsFrom .gap rest).map (entryPair entry :: ·) := by
      have pair := pairsFrom_pair (.inl rfl) (named entry List.mem_cons_self) entry.2.toList rest
      rw [pairText_toList]
      rw [List.append_assoc, List.cons_append, List.cons_append, List.append_assoc]
      exact pair
    cases others with
    | nil =>
      have last := read []
      rw [List.append_nil] at last
      rw [List.map_singleton, List.intercalate_singleton, Function.comp_apply, last]
      rfl
    | cons other others =>
      rw [List.map_cons, List.map_cons, List.intercalate_cons_cons, List.append_assoc, Function.comp_apply, read,
        List.singleton_append, pairsFrom_step .gap rfl, ← List.map_cons, behind]
      rfl

section Lookup

variable {front back : List Pair} {key : String}

theorem lookup?_append (filled : ∀ pair ∈ back, pair.value ≠ []) :
    lookup? (front ++ back) key = (lookup? back key).or (lookup? front key) := by
  unfold lookup?
  rw [List.reverse_append, List.find?_append]
  cases found : back.reverse.find? (·.key = key.toList) with
  | none => rfl
  | some pair =>
    have value := filled pair (List.mem_reverse.mp (List.mem_of_find?_eq_some found))
    simp [value]

theorem lookup?_filled {value : String} (h : lookup? front key = some value) : value ≠ "" := by
  obtain ⟨pair, -, read⟩ := Option.bind_eq_some_iff.mp h
  split at read
  · cases read
  · rename_i filled
    cases read
    rintro empty
    have := congrArg String.toList empty
    rw [String.toList_ofList] at this
    exact filled (List.isEmpty_iff.mpr this)

theorem lookup?_entry {entry : String × String} (filled : entry.2 ≠ "") :
    lookup? [entryPair entry] key = if entry.1 = key then some entry.2 else none := by
  by_cases same : entry.1 = key
  · simp [lookup?, entryPair, same, filled]
  · have apart : entry.1.toList ≠ key.toList := fun h => same (String.toList_inj.mp h)
    simp [lookup?, entryPair, same, apart]

def given (fields : List (String × Option String)) : List (String × String) :=
  fields.flatMap fun field => (field.2.map (field.1, ·)).toList

theorem given_filled {fields : List (String × Option String)} (filled : ∀ field ∈ fields, field.2 ≠ some "") :
    ∀ pair ∈ (given fields).map entryPair, pair.value ≠ [] := by
  intro pair member
  obtain ⟨entry, present, rfl⟩ := List.mem_map.mp member
  obtain ⟨field, inside, listed⟩ := List.mem_flatMap.mp present
  obtain ⟨value, here, rfl⟩ := Option.map_eq_some_iff.mp (Option.mem_toList.mp listed)
  intro empty
  exact filled field inside (here.trans (congrArg some (String.toList_eq_nil_iff.mp empty)))

theorem lookup?_given {fields : List (String × Option String)} (distinct : (fields.map Prod.fst).Nodup)
    (filled : ∀ field ∈ fields, field.2 ≠ some "") (key : String) :
    lookup? ((given fields).map entryPair) key = (fields.lookup key).join := by
  induction fields with
  | nil => rfl
  | cons field fields ih =>
    obtain ⟨apart, distinct⟩ := List.nodup_cons.mp distinct
    have others : ∀ field ∈ fields, field.2 ≠ some "" :=
      fun other member => filled other (List.mem_cons_of_mem _ member)
    have first : lookup? ((field.2.map (field.1, ·)).toList.map entryPair) key =
        if field.1 = key then field.2 else none := by
      cases given : field.2 with
      | none => rw [ite_self]; rfl
      | some value =>
        refine lookup?_entry fun empty => filled field List.mem_cons_self ?_
        rw [given]
        exact congrArg some empty
    rw [show given (field :: fields) = (field.2.map (field.1, ·)).toList ++ given fields from rfl, List.map_append,
      lookup?_append (given_filled others), ih distinct others, first, List.lookup_cons]
    by_cases same : field.1 = key
    · have absent : fields.lookup key = none := by
        refine List.lookup_eq_none_iff.mpr fun other member => bne_iff_ne.mpr fun again => apart ?_
        rw [same, again]
        exact List.mem_map_of_mem member
      simp [same, absent]
    · have differ : (key == field.1) = false := beq_eq_false_iff_ne.mpr (Ne.symm same)
      simp [same, differ]

end Lookup

end FeatureLayers.Uri
