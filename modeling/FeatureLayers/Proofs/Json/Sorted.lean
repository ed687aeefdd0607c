import FeatureLayers.Json.Basic

namespace FeatureLayers

namespace Entries

variable {α : Type} {key : String} {a : α} {entries : Entries α}

def Ascending (entries : Entries α) : Prop := entries.Pairwise fun before behind => before.1 < behind.1

theorem put_first (first : ∀ entry ∈ entries, key < entry.1) : entries.put key a = (key, a) :: entries := by
  cases entries with
  | nil => rfl
  | cons entry rest =>
    have less : key < entry.1 := first entry List.mem_cons_self
    have other : key ≠ entry.1 := fun same => String.lt_irrefl _ (same ▸ less)
    rw [put, if_neg other, if_pos less]

theorem mem_put {entry : String × α} (member : entry ∈ entries.put key a) : entry = (key, a) ∨ entry ∈ entries := by
  induction entries with
  | nil => exact .inl (List.mem_singleton.mp member)
  | cons first rest ih =>
    rw [put] at member
    split at member
    · exact (List.mem_cons.mp member).imp_right (List.mem_cons_of_mem _)
    · split at member
      · exact List.mem_cons.mp member
      · rcases List.mem_cons.mp member with rfl | behind
        · exact .inr List.mem_cons_self
        · exact (ih behind).imp_right (List.mem_cons_of_mem _)

theorem Ascending.put (ascending : entries.Ascending) : (entries.put key a).Ascending := by
  induction entries with
  | nil => exact List.pairwise_singleton _ _
  | cons first rest ih =>
    obtain ⟨before, rest'⟩ := List.pairwise_cons.mp ascending
    rw [Entries.put]
    split
    · rename_i same
      exact List.pairwise_cons.mpr ⟨same ▸ before, rest'⟩
    · rename_i other
      split
      · rename_i less
        refine List.pairwise_cons.mpr ⟨fun entry member => ?_, ascending⟩
        rcases List.mem_cons.mp member with rfl | behind
        · exact less
        · exact String.lt_trans less (before entry behind)
      · rename_i notLess
        have greater : first.1 < key := Std.lt_of_le_of_ne (String.not_lt.mp notLess) (Ne.symm other)
        refine List.pairwise_cons.mpr ⟨fun entry member => ?_, ih rest'⟩
        rcases mem_put member with rfl | behind
        · exact greater
        · exact before entry behind

theorem Ascending.mem_iff (ascending : entries.Ascending) : (key, a) ∈ entries ↔ entries.get? key = some a := by
  unfold get?
  induction entries with
  | nil => exact ⟨nofun, nofun⟩
  | cons first rest ih =>
    obtain ⟨before, rest'⟩ := List.pairwise_cons.mp ascending
    rw [List.mem_cons, List.lookup_cons]
    by_cases same : key = first.1
    · subst same
      have once : (first.1, a) ∉ rest := fun behind => String.lt_irrefl _ (before (first.1, a) behind)
      simp [once, Prod.ext_iff, eq_comm]
    · have missed : (key == first.1) = false := beq_eq_false_iff_ne.mpr same
      have other : (key, a) ≠ first := fun whole => same (congrArg Prod.fst whole)
      rw [missed]
      simp only [other, false_or]
      exact ih rest'

end Entries

namespace Json

theorem sortedMembers_ascending (members : List (String × Json)) {done : Entries Json} (ascending : done.Ascending) :
    Entries.Ascending (sortedMembers done members) := by
  induction members generalizing done with
  | nil => exact ascending
  | cons member rest ih => exact ih ascending.put

theorem sortedMembers_get? (members : List (String × Json)) (done : Entries Json) (name : String) :
    Entries.get? name (sortedMembers done members) =
      ((members.reverse.lookup name).map sorted).or (done.get? name) := by
  induction members generalizing done with
  | nil => rfl
  | cons member rest ih =>
    obtain ⟨key, json⟩ := member
    rw [sortedMembers, ih, List.reverse_cons, List.lookup_append]
    cases List.lookup name rest.reverse with
    | some behind => rfl
    | none =>
      by_cases same : name = key
      · subst same
        simp [Entries.get?_put_self]
      · have missed : (name == key) = false := beq_eq_false_iff_ne.mpr same
        simp [Entries.get?_put_ne _ _ same, List.lookup_cons, missed]

theorem mem_sortedMembers {members : List (String × Json)} {name : String} {json : Json} :
    (name, json) ∈ sortedMembers [] members ↔ ∃ value, members.reverse.lookup name = some value ∧ json = value.sorted := by
  rw [(sortedMembers_ascending members List.Pairwise.nil).mem_iff, sortedMembers_get?]
  simp [Entries.get?, Option.map_eq_some_iff, eq_comm]

end Json

end FeatureLayers
