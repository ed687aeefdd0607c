import FeatureLayers.Source.Basic
import FeatureLayers.Text.Blank
import Mathlib.Data.List.DropRight

namespace FeatureLayers

namespace Text

variable {test : Char → Bool} {text front : List Char}

theorem dropEndWhile_eq_nil_iff : dropEndWhile test text = [] ↔ ∀ c ∈ text, test c := List.rdropWhile_eq_nil_iff

theorem dropEndWhile_last : ∀ c ∈ (dropEndWhile test text).getLast?, test c = false := by
  intro c last
  obtain ⟨nonempty, rfl⟩ := List.mem_getLast?_eq_getLast last
  exact Bool.eq_false_iff.mpr (List.rdropWhile_last_not test text nonempty)

theorem dropEndWhile_append (kept : ∀ c ∈ front.getLast?, test c = false) (back : List Char) :
    dropEndWhile test (front ++ back) = front ++ dropEndWhile test back := by
  induction back using List.reverseRecOn with
  | nil =>
    rw [List.append_nil]
    refine (List.rdropWhile_eq_self_iff.mpr fun nonempty => ?_).trans (List.append_nil front).symm
    exact Bool.eq_false_iff.mp (kept _ (List.getLast?_eq_some_getLast nonempty))
  | append_singleton back c ih =>
    rw [← List.append_assoc]
    by_cases goes : test c
    · exact (List.rdropWhile_concat_pos test _ c goes).trans
        (ih.trans (congrArg (front ++ ·) (List.rdropWhile_concat_pos test back c goes).symm))
    · refine (List.rdropWhile_concat_neg test _ c goes).trans ?_
      rw [List.append_assoc]
      exact congrArg (front ++ ·) (List.rdropWhile_concat_neg test back c goes).symm

theorem trimStart_first : ∀ c ∈ (trimStart text).head?, isBlank c = false := by
  intro c first
  have stops := List.head?_dropWhile_not isBlank text
  rw [trimStart] at first
  rw [Option.mem_def.mp first] at stops
  exact stops

end Text

namespace Source

open Text (isBlank)

def isFiller (c : Char) : Bool := isBlank c || c = ';'

def statement (sql : String) : List Char := Text.dropEndWhile isFiller (Text.trimStart sql.toList)

def ending (sql : String) : List Char := (Text.trimStart sql.toList).rtakeWhile isFiller

/-- Semicolons with nothing but blanks after them. -/
def Tidy (filler : List Char) : Prop :=
  ∃ marks blanks, filler = marks ++ blanks ∧ (∀ c ∈ marks, c = ';') ∧ ∀ c ∈ blanks, isBlank c

def leftover (sql : String) : List Char := Text.dropEndWhile (· = ';') (Text.trimEnd (ending sql))

variable (sql : String)

theorem statement_append_ending : statement sql ++ ending sql = Text.trimStart sql.toList :=
  List.rdropWhile_append_rtakeWhile

variable {sql}

theorem ending_filler : ∀ c ∈ ending sql, isFiller c := fun _ among => List.mem_rtakeWhile_imp among

theorem statement_last : ∀ c ∈ (statement sql).getLast?, isBlank c = false ∧ c ≠ ';' := by
  intro c last
  have kept := Text.dropEndWhile_last c last
  simpa [isFiller] using kept

theorem statement_eq_nil_iff : statement sql = [] ↔ ∀ c ∈ sql.toList, isFiller c := by
  rw [statement, Text.dropEndWhile_eq_nil_iff]
  constructor
  · intro filler c among
    have split : c ∈ sql.toList.takeWhile isBlank ++ sql.toList.dropWhile isBlank :=
      List.takeWhile_append_dropWhile ▸ among
    rcases List.mem_append.mp split with before | after
    · have blank : isBlank c := List.mem_takeWhile_imp before
      rw [isFiller, blank, Bool.true_or]
    · exact filler c after
  · exact fun filler c among => filler c ((List.dropWhile_sublist _).subset among)

theorem tidy_iff {filler : List Char} : Text.dropEndWhile (· = ';') (Text.trimEnd filler) = [] ↔ Tidy filler := by
  rw [Text.dropEndWhile_eq_nil_iff]
  constructor
  · intro marks
    refine ⟨Text.trimEnd filler, filler.rtakeWhile isBlank, ?_, fun c among => of_decide_eq_true (marks c among), ?_⟩
    · exact List.rdropWhile_append_rtakeWhile.symm
    · exact fun c among => List.mem_rtakeWhile_imp among
  · rintro ⟨marks, blanks, rfl, semicolons, blank⟩ c among
    rw [Text.trimEnd_blanks blank] at among
    · exact decide_eq_true (semicolons c among)
    · intro d last
      rw [semicolons d (List.mem_of_mem_getLast? last)]
      rfl

theorem queryBody_eq (sql : String) : queryBody sql = statement sql ++ leftover sql := by
  rw [queryBody, Text.trim, Text.trimEnd, ← statement_append_ending,
    Text.dropEndWhile_append fun c last => (statement_last c last).1,
    Text.dropEndWhile_append fun c last => decide_eq_false (statement_last c last).2]
  rfl

theorem queryBody_eq_statement_iff : queryBody sql = statement sql ↔ Tidy (ending sql) := by
  rw [queryBody_eq, List.append_right_eq_self]
  exact tidy_iff

theorem queryBody_first : ∀ c ∈ (queryBody sql).head?, isBlank c = false := by
  intro c first
  have kept : queryBody sql <+: Text.trimStart sql.toList :=
    (List.rdropWhile_prefix _ _).trans (List.rdropWhile_prefix _ _)
  -- A text that is cut at its end begins as it did.
  obtain ⟨rest, whole⟩ := kept
  have same : (Text.trimStart sql.toList).head? = some c := by
    rw [← whole, List.head?_append, Option.mem_def.mp first, Option.some_or]
  exact Text.trimStart_first c same

theorem queryBody_last : ∀ c ∈ (queryBody sql).getLast?, c ≠ ';' :=
  fun c last => of_decide_eq_false (Text.dropEndWhile_last c last)

/-- Filler that is left over ends in a blank. -/
theorem queryBody_mixed (mixed : ¬ Tidy (ending sql)) : ∃ c, (queryBody sql).getLast? = some c ∧ isBlank c := by
  have nonempty : leftover sql ≠ [] := fun none => mixed (tidy_iff.mp none)
  have last := List.getLast?_eq_some_getLast nonempty
  refine ⟨(leftover sql).getLast nonempty, ?_, ?_⟩
  · rw [queryBody_eq, List.getLast?_append, last, Option.some_or]
  · have other := Text.dropEndWhile_last _ last
    have among : (leftover sql).getLast nonempty ∈ ending sql :=
      ((List.rdropWhile_prefix _ _).trans (List.rdropWhile_prefix _ _)).subset (List.getLast_mem nonempty)
    have filler := ending_filler _ among
    rwa [isFiller, other, Bool.or_false] at filler

theorem isEmptyQuery_iff : (Source.query sql).isEmptyQuery ↔ (∀ c ∈ sql.toList, isFiller c) ∧ Tidy (ending sql) := by
  rw [← statement_eq_nil_iff, ← tidy_iff]
  have blank : (Source.query sql).isEmptyQuery ↔ queryBody sql = [] := by
    have start : Text.trimStart (queryBody sql) = queryBody sql :=
      @Text.dropWhile_blanks [] _ nofun queryBody_first
    rw [isEmptyQuery, List.isEmpty_iff, Text.trim, start, Text.trimEnd, Text.dropEndWhile_eq_nil_iff]
    constructor
    · intro blanks
      rw [← List.head?_eq_none_iff, Option.eq_none_iff_forall_not_mem]
      intro c first
      exact Bool.false_ne_true ((queryBody_first c first).symm.trans (blanks c (List.mem_of_mem_head? first)))
    · intro none
      rw [none]
      exact nofun
  rw [blank, queryBody_eq, List.append_eq_nil_iff]
  rfl

end Source

end FeatureLayers
