import Mathlib.Data.List.Induction
import Mathlib.Data.List.Nodup

namespace FeatureLayers

variable {α : Type} [DecidableEq α]

theorem eraseDups_snoc (items : List α) (item : α) :
    (items ++ [item]).eraseDups = if item ∈ items then items.eraseDups else items.eraseDups ++ [item] := by
  rw [List.eraseDups_append]
  by_cases known : item ∈ items <;> simp [known, List.removeAll, List.eraseDups_cons]

theorem eraseDups_nodup (items : List α) : items.eraseDups.Nodup := by
  induction items using List.reverseRecOn with
  | nil => simp
  | append_singleton items item ih =>
    rw [eraseDups_snoc]
    by_cases known : item ∈ items
    · rwa [if_pos known]
    · rw [if_neg known]
      have extended := ih.concat fun member => known (List.mem_eraseDups.mp member)
      rwa [List.concat_eq_append] at extended

theorem eraseDups_of_nodup {items : List α} (distinct : items.Nodup) : items.eraseDups = items := by
  induction items using List.reverseRecOn with
  | nil => rfl
  | append_singleton items item ih =>
    obtain ⟨before, -, apart⟩ := List.nodup_append.mp distinct
    have new : item ∉ items := fun member => apart item member item (by simp) rfl
    rw [eraseDups_snoc, if_neg new, ih before]

theorem length_eraseDups_le (items : List α) : items.eraseDups.length ≤ items.length := by
  induction items using List.reverseRecOn with
  | nil => exact Nat.le_refl _
  | append_singleton items item ih =>
    rw [eraseDups_snoc]
    by_cases known : item ∈ items <;> simp [known] <;> omega

end FeatureLayers
