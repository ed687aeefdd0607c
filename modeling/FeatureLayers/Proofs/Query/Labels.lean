import FeatureLayers.Proofs.Query.Output
import Mathlib.Data.List.Duplicate

namespace FeatureLayers.Query

def namesOf (fields : List Field) (request : Request) : List String :=
  request.attributes.getD (fields.map (·.name))

/-- The field that stands beside a name; of several it is the last. -/
def labelled? (names : List String) (output : List Nat) (name : String) : Option Nat :=
  (names.zip output).reverse.lookup name

def placeOf (fields : List Field) (name : String) : Nat := (fields.map (·.name)).idxOf name

section Places

variable {fields : List Field} {names : List String} {name : String}

theorem placeOf_lt : placeOf fields name < fields.length ↔ name ∈ fields.map (·.name) := by
  rw [← List.idxOf_lt_length_iff, List.length_map]
  rfl

theorem names_getElem? {i : Nat} (inside : i < fields.length) :
    (fields.map (·.name))[i]? = some (fieldName fields i) := by
  rw [fieldName, List.getElem?_map, List.getElem?_eq_getElem inside]
  rfl

theorem fieldName_placeOf (known : name ∈ fields.map (·.name)) : fieldName fields (placeOf fields name) = name := by
  have here : (fields.map (·.name))[placeOf fields name]? = some name := List.getElem?_idxOf known
  rw [names_getElem? (placeOf_lt.mpr known)] at here
  exact Option.some.inj here

theorem findIdx?_eq_placeOf (known : name ∈ fields.map (·.name)) :
    fields.findIdx? (·.name = name) = some (placeOf fields name) := by
  refine List.findIdx?_eq_some_iff_findIdx_eq.mpr ⟨placeOf_lt.mpr known, ?_⟩
  rw [placeOf, List.idxOf, List.findIdx_map]
  rfl

theorem placeOf_nodup (known : ∀ name ∈ names, name ∈ fields.map (·.name)) (distinct : names.Nodup) :
    (names.map (placeOf fields)).Nodup := by
  refine distinct.map_on fun a aKnown b bKnown same => ?_
  rw [← fieldName_placeOf (known a aKnown), same, fieldName_placeOf (known b bKnown)]

/-- The fields of a feature are those of the names, each where it is first asked for, and perhaps one more. -/
theorem outputOf_names {request : Request} (primaryKey : Option Nat) (distinct : (fields.map (·.name)).Nodup)
    (known : firstUnknown? fields request = none) :
    (∀ name ∈ namesOf fields request, name ∈ fields.map (·.name)) ∧
      ∃ more, outputOf fields primaryKey request =
        ((namesOf fields request).map (placeOf fields)).eraseDups ++ more := by
  unfold firstUnknown? at known
  unfold namesOf outputOf
  cases asked : request.attributes with
  | none =>
    refine ⟨fun name member => member, [], ?_⟩
    have places : (fields.map (·.name)).map (placeOf fields) = List.range fields.length := by
      refine List.ext_getElem (by simp) fun i inside _ => ?_
      rw [List.getElem_map, List.getElem_range]
      exact distinct.idxOf_getElem i _
    dsimp only [Option.getD_none]
    rw [places, eraseDups_of_nodup List.nodup_range, List.append_nil]
  | some names =>
    rw [asked] at known
    dsimp only [Option.getD_some]
    have each : ∀ name ∈ names, name ∈ fields.map (·.name) := by
      intro name member
      have found := List.find?_eq_none.mp known name member
      simpa using found
    have places : names.filterMap (fun name => fields.findIdx? (·.name = name)) = names.map (placeOf fields) := by
      rw [List.filterMap_congr fun name member => findIdx?_eq_placeOf (each name member)]
      exact congrFun List.filterMap_eq_map names
    rw [askedFields, places]
    exact ⟨each, _, rfl⟩

end Places

theorem mem_of_last {pairs : List (String × Nat)} {name : String} {field : Nat}
    (found : pairs.reverse.lookup name = some field) : (name, field) ∈ pairs := by
  obtain ⟨before, after, reversed, -⟩ := List.lookup_eq_some_iff.mp found
  rw [← List.mem_reverse, reversed]
  exact List.mem_append_right _ List.mem_cons_self

theorem labelled?_of_later {names : List String} {output : List Nat} {name : String} {k j : Nat}
    (here : names[k + j]? = some name) (inside : k + j < output.length) :
    ∃ field ∈ output.drop k, labelled? names output name = some field := by
  obtain ⟨within, named⟩ := List.getElem?_eq_some_iff.mp here
  let behind := (names.drop k).zip (output.drop k)
  have split : names.zip output = (names.take k).zip (output.take k) ++ behind := by
    conv => lhs; rw [← List.take_append_drop k names, ← List.take_append_drop k output]
    exact List.zip_append (by rw [List.length_take, List.length_take]; omega)
  have pair : (name, output[k + j]) ∈ behind := by
    refine List.mem_of_getElem? (i := j) ?_
    rw [List.getElem?_zip_eq_some, List.getElem?_drop, List.getElem?_drop]
    exact ⟨here, List.getElem?_eq_getElem inside⟩
  have found : (behind.reverse.lookup name).isSome :=
    List.lookup_isSome_iff.mpr ⟨_, List.mem_reverse.mpr pair, beq_self_eq_true name⟩
  obtain ⟨field, found⟩ := Option.isSome_iff_exists.mp found
  refine ⟨field, (List.of_mem_zip (mem_of_last found)).2, ?_⟩
  rw [labelled?, split, List.reverse_append, List.lookup_append, found, Option.some_or]

section Labels

variable {fields : List Field} {names : List String} {output more : List Nat}
  (known : ∀ name ∈ names, name ∈ fields.map (·.name))
  (fitted : output = (names.map (placeOf fields)).eraseDups ++ more)

include known fitted

theorem zip_output (once : (names.take output.length).Nodup) :
    names.zip output = (names.take output.length).map fun name => (name, placeOf fields name) := by
  let front := names.take output.length
  let behind := names.drop output.length
  have split : names = front ++ behind := (List.take_append_drop _ names).symm
  have places : (front.map (placeOf fields)).Nodup :=
    placeOf_nodup (fun name member => known name (List.mem_of_mem_take member)) once
  let rest := ((behind.map (placeOf fields)).removeAll (front.map (placeOf fields))).eraseDups ++ more
  have begins : output = front.map (placeOf fields) ++ rest := by
    rw [fitted]
    conv => lhs; rw [split, List.map_append, List.eraseDups_append, eraseDups_of_nodup places, List.append_assoc]
  -- either the names end or the fields do
  have ended : behind.zip rest = [] := by
    have width : front.length = min output.length names.length := List.length_take
    have total : output.length = front.length + rest.length := by
      conv => lhs; rw [begins, List.length_append, List.length_map]
    rcases Nat.le_total output.length names.length with long | short
    · have nothing : rest = [] := List.length_eq_zero_iff.mp (by omega)
      rw [nothing, List.zip_nil_right]
    · rw [show behind = [] from List.drop_eq_nil_of_le short, List.zip_nil_left]
  conv => lhs; rw [split, begins]
  rw [List.zip_append (List.length_map _).symm, ended, List.append_nil]
  exact List.map_prod_left_eq_zip.symm

theorem labelled?_own (once : (names.take output.length).Nodup) {name : String} {field : Nat}
    (shown : labelled? names output name = some field) : field ∈ output ∧ fieldName fields field = name := by
  have pair : (name, field) ∈ names.zip output := mem_of_last shown
  refine ⟨(List.of_mem_zip pair).2, ?_⟩
  rw [zip_output known fitted once] at pair
  obtain ⟨other, member, same⟩ := List.mem_map.mp pair
  obtain ⟨rfl, rfl⟩ := Prod.mk.inj same
  exact fieldName_placeOf (known other (List.mem_of_mem_take member))

theorem placeOf_early {first later : List String} {name : String} (split : names = first ++ name :: later)
    (new : name ∉ first) : placeOf fields name ∈ output.take (first.length + 1) := by
  have absent : placeOf fields name ∉ first.map (placeOf fields) := by
    intro present
    obtain ⟨other, member, same⟩ := List.mem_map.mp present
    have equal : other = name := by
      rw [← fieldName_placeOf (known other (split ▸ List.mem_append_left _ member)), same]
      exact fieldName_placeOf (known name (split ▸ List.mem_append_right _ List.mem_cons_self))
    exact new (equal ▸ member)
  have kept : (placeOf fields name :: later.map (placeOf fields)).removeAll (first.map (placeOf fields)) =
      placeOf fields name :: (later.map (placeOf fields)).removeAll (first.map (placeOf fields)) :=
    List.filter_cons_of_pos (by simpa using absent)
  have short := length_eraseDups_le (first.map (placeOf fields))
  rw [List.length_map] at short
  rw [fitted, split, List.map_append, List.map_cons, List.eraseDups_append, kept, List.eraseDups_cons,
    List.append_assoc, List.cons_append, List.take_append, Nat.succ_sub short, List.take_succ_cons]
  exact List.mem_append_right _ List.mem_cons_self

/-- A name that is repeated ends up beside a field that has another one. -/
theorem labelled?_other (distinct : output.Nodup) (repeated : ¬ (names.take output.length).Nodup) :
    ∃ field < fields.length, ∃ other ∈ output, other ≠ field ∧
      labelled? names output (fieldName fields field) = some other := by
  obtain ⟨name, twice⟩ := List.exists_duplicate_iff_not_nodup.mpr repeated
  have named : name ∈ fields.map (·.name) := known name (List.mem_of_mem_take twice.mem)
  obtain ⟨first, later, split, new⟩ := List.eq_append_cons_of_mem twice.mem
  have again : name ∈ later := by
    have counted := List.duplicate_iff_two_le_count.mp twice
    rw [split, List.count_append, List.count_eq_zero_of_not_mem new, List.count_cons_self] at counted
    exact List.count_pos_iff.mp (by omega)
  obtain ⟨j, inside, same⟩ := List.getElem_of_mem again
  have whole : names = first ++ name :: (later ++ names.drop output.length) := by
    conv => lhs; rw [← List.take_append_drop output.length names, split, List.append_assoc, List.cons_append]
  have early := placeOf_early known fitted whole new
  have within : first.length + 1 + j < output.length := by
    have width : (names.take output.length).length ≤ output.length := by
      rw [List.length_take]
      exact Nat.min_le_left _ _
    rw [split, List.length_append, List.length_cons] at width
    omega
  have place : names[first.length + 1 + j]? = some name := by
    have found : (names.take output.length)[first.length + 1 + j]? = some name := by
      rw [split, List.getElem?_append_right (by omega), show first.length + 1 + j - first.length = j + 1 by omega,
        List.getElem?_cons_succ, List.getElem?_eq_getElem inside, same]
    rwa [List.getElem?_take_of_lt within] at found
  obtain ⟨other, behind, shown⟩ := labelled?_of_later place within
  refine ⟨placeOf fields name, placeOf_lt.mpr named, other, List.mem_of_mem_drop behind, ?_, ?_⟩
  · rintro rfl
    exact List.disjoint_take_drop distinct (Nat.le_refl _) early behind
  · rw [fieldName_placeOf named]
    exact shown

end Labels

end FeatureLayers.Query
