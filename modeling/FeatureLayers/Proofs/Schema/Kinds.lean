import FeatureLayers.Proofs.Distinct
import FeatureLayers.Query.Predicate
import Mathlib.Data.List.Induction

namespace FeatureLayers

namespace GeometryKind

variable {kind single multi : GeometryKind}

theorem ofName?_name (kind : GeometryKind) : ofName? kind.name = some kind := by
  cases kind <;> rfl

theorem ofName?_eq_some_iff {name : String} : ofName? name = some kind ↔ name = kind.name := by
  refine ⟨fun found => ?_, fun same => same ▸ ofName?_name kind⟩
  have fits := List.find?_some found
  exact (of_decide_eq_true fits).symm

theorem name_inj {other : GeometryKind} : kind.name = other.name ↔ kind = other := by
  rw [← ofName?_eq_some_iff, ofName?_name, Option.some.injEq]

theorem singular?_eq_some_iff : multi.singular? = some single ↔ single.plural? = some multi := by
  cases multi <;> cases single <;> decide

theorem plural?_of_plural (paired : single.plural? = some multi) : multi.plural? = none := by
  cases single <;> cases paired <;> rfl

theorem plural?_ne_single (paired : single.plural? = some multi) (kind : GeometryKind) : kind.plural? ≠ some single := by
  intro form
  rw [plural?_of_plural form] at paired
  cases paired

section Observe

variable {kinds : List GeometryKind} {next : GeometryKind}

theorem observe_eq : observe kinds next =
    if next ∈ kinds ∨ ∃ multi ∈ kinds, next.plural? = some multi then kinds
    else kinds.filter (·.plural? ≠ some next) ++ [next] := by
  unfold observe
  by_cases known : next ∈ kinds
  · rw [if_pos known, if_pos (.inl known)]
  rw [if_neg known]
  cases form : next.singular? with
  | some single =>
    have paired := singular?_eq_some_iff.mp form
    have final := plural?_of_plural paired
    have replaced : ∀ kind ∈ kinds, (kind != single) = decide (kind.plural? ≠ some next) := by
      intro kind _
      have same : kind.plural? = some next ↔ kind = single := by
        rw [← singular?_eq_some_iff, form, Option.some.injEq, eq_comm]
      rw [Bool.eq_iff_iff, bne_iff_ne, decide_eq_true_iff]
      exact same.symm.not
    simp [known, final, List.filter_congr replaced]
  | none =>
    have kept : kinds.filter (·.plural? ≠ some next) = kinds := by
      refine List.filter_eq_self.mpr fun kind _ => decide_eq_true fun paired => ?_
      rw [singular?_eq_some_iff.mpr paired] at form
      cases form
    rw [kept]
    cases next.plural? <;> simp [known]

end Observe

theorem dedup_snoc (observed : List GeometryKind) (next : GeometryKind) :
    dedup (observed ++ [next]) = observe (dedup observed) next := List.foldl_append

/-- The multi form of the kind is among these. -/
def isCovered (kind : GeometryKind) (kinds : List GeometryKind) : Bool := kind.plural?.any (· ∈ kinds)

section Covered

variable {kinds others : List GeometryKind}

theorem isCovered_iff : kind.isCovered kinds = true ↔ ∃ multi ∈ kinds, kind.plural? = some multi := by
  rw [isCovered, Option.any_eq_true]
  exact exists_congr fun multi => by rw [decide_eq_true_iff, and_comm]

theorem isCovered_congr (alike : ∀ multi, multi ∈ kinds ↔ multi ∈ others) (kind : GeometryKind) :
    kind.isCovered kinds = kind.isCovered others := by
  rw [Bool.eq_iff_iff, isCovered_iff, isCovered_iff]
  exact exists_congr fun multi => and_congr_left' (alike multi)

theorem isCovered_snoc (kinds : List GeometryKind) (next kind : GeometryKind) :
    kind.isCovered (kinds ++ [next]) = (kind.isCovered kinds || decide (kind.plural? = some next)) := by
  unfold isCovered
  cases kind.plural? <;> simp

theorem not_isCovered_of_plural (paired : single.plural? = some multi) : multi.isCovered kinds = false := by
  rw [isCovered, plural?_of_plural paired, Option.any_none]

end Covered

/-- The kinds are left in the order in which they were first observed, without those whose multi form was observed. -/
theorem dedup_eq (observed : List GeometryKind) :
    dedup observed = observed.eraseDups.filter (!·.isCovered observed) := by
  induction observed using List.reverseRecOn with
  | nil => rfl
  | append_singleton observed next ih =>
    have left (kind : GeometryKind) : kind ∈ dedup observed ↔ kind ∈ observed ∧ kind.isCovered observed = false := by
      rw [ih, List.mem_filter, List.mem_eraseDups, Bool.not_eq_true']
    rw [dedup_snoc, observe_eq, eraseDups_snoc]
    cases covered : next.isCovered observed with
    | true =>
      obtain ⟨multi, seen, paired⟩ := isCovered_iff.mp covered
      have shown : multi ∈ dedup observed := (left multi).mpr ⟨seen, not_isCovered_of_plural paired⟩
      rw [if_pos (.inr ⟨multi, shown, paired⟩), ih]
      split <;> simp [isCovered_snoc, plural?_ne_single paired, covered]
    | false =>
      by_cases known : next ∈ observed
      · have alike (multi : GeometryKind) : multi ∈ observed ++ [next] ↔ multi ∈ observed :=
          List.mem_append.trans (or_iff_left_of_imp fun last => List.mem_singleton.mp last ▸ known)
        rw [if_pos (.inl ((left next).mpr ⟨known, covered⟩)), if_pos known, ih]
        simp only [isCovered_congr alike]
      · have new : ¬(next ∈ dedup observed ∨ ∃ multi ∈ dedup observed, next.plural? = some multi) := by
          rintro (shown | ⟨multi, shown, paired⟩)
          · exact known ((left next).mp shown).1
          · rw [isCovered_iff.mpr ⟨multi, ((left multi).mp shown).1, paired⟩] at covered
            cases covered
        have final : next.plural? ≠ some next := fun form => plural?_ne_single form next form
        rw [if_neg new, if_neg known, ih, List.filter_append, List.filter_filter]
        simp [isCovered_snoc, covered, final, Bool.and_comm]

theorem dedup_nodup (observed : List GeometryKind) : (dedup observed).Nodup :=
  dedup_eq observed ▸ (eraseDups_nodup observed).filter _

theorem mem_dedup {observed : List GeometryKind} :
    kind ∈ dedup observed ↔ kind ∈ observed ∧ ∀ multi, kind.plural? = some multi → multi ∉ observed := by
  rw [dedup_eq, List.mem_filter, List.mem_eraseDups, Bool.not_eq_true', ← Bool.not_eq_true, isCovered_iff]
  simp only [not_exists, not_and, imp_not_comm]

theorem dedup_dedup (observed : List GeometryKind) : dedup (dedup observed) = dedup observed := by
  rw [dedup_eq (dedup observed), eraseDups_of_nodup (dedup_nodup observed), List.filter_eq_self]
  intro kind left
  rw [Bool.not_eq_true', ← Bool.not_eq_true, isCovered_iff]
  rintro ⟨multi, shown, paired⟩
  exact (mem_dedup.mp left).2 multi paired (mem_dedup.mp shown).1

theorem dedup_perm {observed permuted : List GeometryKind} (reordered : permuted.Perm observed) :
    (dedup permuted).Perm (dedup observed) := by
  refine (List.perm_ext_iff_of_nodup (dedup_nodup permuted) (dedup_nodup observed)).mpr fun kind => ?_
  simp only [mem_dedup, reordered.mem_iff]

/--
Of the observed kinds each is left once, in the order in which they were first observed, but for the singular kinds whose
multi form was observed anywhere. Merging what is left changes nothing, and another order of observation only reorders it.
-/
theorem dedup_merges_forms (observed : List GeometryKind) :
    dedup observed = observed.eraseDups.filter (!·.isCovered observed) ∧ dedup (dedup observed) = dedup observed ∧
      ∀ permuted : List GeometryKind, permuted.Perm observed → (dedup permuted).Perm (dedup observed) :=
  ⟨dedup_eq observed, dedup_dedup observed, fun _ => dedup_perm⟩

theorem parcels_and_tracks_merge :
    dedup [.polygon, .lineString, .multiPolygon, .polygon] = [.lineString, .multiPolygon] ∧
      (dedup [.multiPolygon, .polygon, .polygon, .lineString]).Perm [.lineString, .multiPolygon] :=
  have merges := dedup_merges_forms [.polygon, .lineString, .multiPolygon, .polygon]
  ⟨merges.1, merges.2.2 _ (by decide)⟩

open Query (admittedKinds)

variable {shown : GeometryKind} {observed : List GeometryKind}

theorem mem_admittedKinds : kind ∈ admittedKinds shown ↔ kind = shown ∨ kind.plural? = some shown := by
  rw [admittedKinds, List.mem_cons, Option.mem_toList, singular?_eq_some_iff]

/-- Of the kinds that are left exactly one admits an observed kind. -/
theorem dedup_admits_once (seen : kind ∈ observed) : ∃! shown, shown ∈ dedup observed ∧ kind ∈ admittedKinds shown := by
  simp only [mem_admittedKinds]
  by_cases covered : ∃ multi ∈ observed, kind.plural? = some multi
  · obtain ⟨multi, member, paired⟩ := covered
    have final := plural?_of_plural paired
    refine ⟨multi, ⟨mem_dedup.mpr ⟨member, by simp [final]⟩, .inr paired⟩, ?_⟩
    rintro other ⟨left, rfl | form⟩
    · exact absurd member ((mem_dedup.mp left).2 multi paired)
    · exact Option.some.inj (form.symm.trans paired)
  · have alone : ∀ multi, kind.plural? = some multi → multi ∉ observed :=
      fun multi paired member => covered ⟨multi, member, paired⟩
    refine ⟨kind, ⟨mem_dedup.mpr ⟨seen, alone⟩, .inl rfl⟩, ?_⟩
    rintro other ⟨left, rfl | form⟩
    · rfl
    · exact absurd (mem_dedup.mp left).1 (alone other form)

theorem observed_of_admitted (left : shown ∈ dedup observed) (admitted : kind ∈ admittedKinds shown) :
    kind ∈ observed ∨ ∃ multi, kind.plural? = some multi ∧ multi ∈ observed := by
  have seen := (mem_dedup.mp left).1
  rcases mem_admittedKinds.mp admitted with rfl | paired
  · exact .inl seen
  · exact .inr ⟨shown, paired, seen⟩

theorem dedup_eq_nil_iff : dedup observed = [] ↔ observed = [] := by
  refine ⟨fun none => List.eq_nil_iff_forall_not_mem.mpr fun kind seen => ?_, congrArg dedup⟩
  obtain ⟨shown, ⟨left, -⟩, -⟩ := dedup_admits_once seen
  rw [none] at left
  cases left

end GeometryKind

end FeatureLayers
