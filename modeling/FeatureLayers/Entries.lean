namespace FeatureLayers

abbrev Entries (α : Type) := List (String × α)

namespace Entries

def put {α : Type} (key : String) (a : α) : Entries α → Entries α
  | [] => [(key, a)]
  | (other, old) :: rest =>
    if key = other then (key, a) :: rest
    else if key < other then (key, a) :: (other, old) :: rest
    else (other, old) :: put key a rest

/-- Of equal keys the last one counts. -/
def ofPairs {α : Type} (pairs : List (String × α)) : Entries α :=
  pairs.foldl (fun entries (key, a) => put key a entries) []

def get? {α : Type} (key : String) (entries : Entries α) : Option α := entries.lookup key

def erase {α : Type} (key : String) (entries : Entries α) : Entries α := entries.filter (·.1 != key)

theorem get?_put_self {α : Type} (key : String) (a : α) (entries : Entries α) :
    (entries.put key a).get? key = some a := by
  induction entries with
  | nil => simp [put, get?]
  | cons entry rest ih =>
    obtain ⟨first, old⟩ := entry
    by_cases same : key = first
    · simp [put, get?, same]
    · by_cases before : key < first
      · simp [put, get?, same, before]
      · simpa [put, get?, List.lookup_cons, same, before, beq_eq_false_iff_ne.mpr same] using ih

theorem get?_put_ne {α : Type} {key other : String} (a : α) (entries : Entries α) (distinct : other ≠ key) :
    (entries.put key a).get? other = entries.get? other := by
  have missed : (other == key) = false := beq_eq_false_iff_ne.mpr distinct
  induction entries with
  | nil => simp [put, get?, List.lookup_cons, missed]
  | cons entry rest ih =>
    obtain ⟨first, old⟩ := entry
    unfold get? at ih ⊢
    by_cases same : key = first
    · subst same
      simp [put, List.lookup_cons, missed]
    · by_cases before : key < first
      · simp [put, List.lookup_cons, same, before, missed]
      · simp [put, List.lookup_cons, same, before, ih]

theorem erase_put {α : Type} (key : String) (a : α) (entries : Entries α) :
    (entries.put key a).erase key = entries.erase key := by
  induction entries with
  | nil => simp [put, erase]
  | cons entry rest ih =>
    obtain ⟨first, old⟩ := entry
    unfold erase at ih ⊢
    by_cases same : key = first
    · simp [put, same]
    · by_cases before : key < first
      · simp [put, same, before]
      · simp only [put, if_neg same, if_neg before, List.filter_cons, ih]

theorem get?_erase_self {α : Type} (key : String) (entries : Entries α) : (entries.erase key).get? key = none := by
  rw [get?, erase, List.lookup_eq_none_iff]
  intro entry kept
  have other : entry.1 ≠ key := bne_iff_ne.mp (List.mem_filter.mp kept).2
  exact bne_iff_ne.mpr other.symm

theorem erase_erase {α : Type} (key : String) (entries : Entries α) :
    (entries.erase key).erase key = entries.erase key := by
  rw [erase, erase, List.filter_filter]
  simp

theorem get?_map {α β : Type} (f : α → β) (key : String) (entries : Entries α) :
    get? key (entries.map fun entry => (entry.1, f entry.2)) = (entries.get? key).map f := by
  induction entries with
  | nil => rfl
  | cons entry rest ih =>
    unfold get? at ih ⊢
    rw [List.map_cons, List.lookup_cons, List.lookup_cons, ih]
    cases key == entry.1 <;> rfl

end Entries

end FeatureLayers
