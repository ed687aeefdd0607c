import Mathlib.Data.Char

namespace FeatureLayers.Text

/-- How a comparison folds letter case. The underscore has no case. -/
structure CaseFold where
  fold : Char → Char
  underscore : ∀ c, fold c = fold '_' → c = '_'

namespace CaseFold

def upper : CaseFold where
  fold := Char.toUpper
  underscore c same := by
    by_cases lower : 'a'.toNat ≤ c.toNat ∧ c.toNat ≤ 'z'.toNat
    · have letters : ∀ n < 123, 97 ≤ n → (Char.ofNat n).toUpper ≠ '_'.toUpper := by decide +kernel
      have other := letters c.toNat (Nat.lt_succ_of_le lower.2) lower.1
      rw [Char.ofNat_toNat] at other
      exact absurd same other
    · have kept : c.toUpper = c := by
        unfold Char.toUpper
        exact dif_neg fun bounds => lower ⟨UInt32.le_iff_toNat_le.mp bounds.1, UInt32.le_iff_toNat_le.mp bounds.2⟩
      rw [← kept, same]
      rfl

variable (f : CaseFold)

def Alike (text other : List Char) : Prop := text.map f.fold = other.map f.fold

instance (text other : List Char) : Decidable (f.Alike text other) := inferInstanceAs (Decidable (_ = _))

end CaseFold

/-- The text is one that the pattern stands for: `%` stands for any run and `_` for any one character. -/
inductive Like (f : CaseFold) : List Char → List Char → Prop
  | nil : Like f [] []
  | run {pattern text : List Char} (run : List Char) : Like f pattern text → Like f ('%' :: pattern) (run ++ text)
  | any {pattern text : List Char} (c : Char) : Like f pattern text → Like f ('_' :: pattern) (c :: text)
  | same {pattern text : List Char} {c d : Char} : c ≠ '%' → c ≠ '_' → f.fold c = f.fold d → Like f pattern text →
    Like f (c :: pattern) (d :: text)

def isWildcard (c : Char) : Bool := c = '%' || c = '_'

def NoWildcard (pattern : List Char) : Prop := ∀ c ∈ pattern, isWildcard c = false

instance (pattern : List Char) : Decidable (NoWildcard pattern) := List.decidableBAll _ pattern

namespace Like

variable {f : CaseFold} {pattern text : List Char}

theorem cons {c d : Char} (folded : f.fold c = f.fold d) (like : Like f pattern text) :
    Like f (c :: pattern) (d :: text) := by
  by_cases percent : c = '%'
  · subst percent
    exact .run [d] like
  · by_cases underscore : c = '_'
    · subst underscore
      exact .any d like
    · exact .same percent underscore folded like

theorem of_alike (alike : f.Alike pattern text) : Like f pattern text := by
  induction pattern generalizing text with
  | nil =>
    rw [List.map_eq_nil_iff.mp alike.symm]
    exact .nil
  | cons c pattern ih =>
    obtain ⟨d, rest, rfl, folded, others⟩ := List.map_eq_cons_iff.mp alike.symm
    exact .cons folded.symm (ih others.symm)

theorem self (f : CaseFold) (pattern : List Char) : Like f pattern pattern := of_alike rfl

theorem append_left (front : List Char) (like : Like f pattern text) : Like f (front ++ pattern) (front ++ text) := by
  induction front with
  | nil => exact like
  | cons c front ih => exact .cons rfl ih

theorem alike (plain : NoWildcard pattern) (like : Like f pattern text) : f.Alike pattern text := by
  induction like with
  | nil => rfl
  | run run like ih => exact absurd (plain '%' List.mem_cons_self) (by decide)
  | any c like ih => exact absurd (plain '_' List.mem_cons_self) (by decide)
  | same percent underscore folded like ih =>
    have others := ih fun c among => plain c (List.mem_cons_of_mem _ among)
    rw [CaseFold.Alike, List.map_cons, List.map_cons, folded, others]

/-- A wildcard lets other texts in: none where there was `%`, a letter where there was `_`. -/
theorem exists_other (f : CaseFold) {c : Char} (among : c ∈ pattern) (wild : isWildcard c) :
    ∃ text, Like f pattern text ∧ ¬ f.Alike pattern text := by
  obtain ⟨front, back, rfl⟩ := List.append_of_mem among
  rw [isWildcard, Bool.or_eq_true, decide_eq_true_eq, decide_eq_true_eq] at wild
  rcases wild with rfl | rfl
  · refine ⟨front ++ back, append_left front (.run [] (self f back)), fun alike => ?_⟩
    have shorter := congrArg List.length alike
    simp at shorter
  · refine ⟨front ++ 'A' :: back, append_left front (.any 'A' (self f back)), fun alike => ?_⟩
    rw [CaseFold.Alike, List.map_append, List.map_append] at alike
    have letter := f.underscore 'A' (List.cons.inj (List.append_cancel_left alike)).1.symm
    exact absurd letter (by decide)

theorem only_alike_iff (f : CaseFold) : (∀ text, Like f pattern text → f.Alike pattern text) ↔ NoWildcard pattern := by
  constructor
  · intro only c among
    rw [← Bool.not_eq_true]
    intro wild
    obtain ⟨text, like, unlike⟩ := exists_other f among wild
    exact unlike (only text like)
  · exact fun plain text like => like.alike plain

end Like

end FeatureLayers.Text
