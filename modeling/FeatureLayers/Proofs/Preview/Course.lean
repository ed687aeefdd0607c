import FeatureLayers.Proofs.Preview.Collecting
import FeatureLayers.Proofs.Preview.Grouping
import FeatureLayers.Proofs.Warehouse.Replies

namespace FeatureLayers.FeatureGroup

open Warehouse (CancelFlag Disturbance ResultSet Session)
open Warehouse.Action (run_bind)

inductive Step
  | fetch (number : Nat)
  | take (row : Row)

namespace Step

def leaves (disturbance : Nat → Disturbance) (flag : CancelFlag) : Step → CancelFlag
  | .fetch number => if (disturbance number).cancels then flag.polled.raise else flag.polled
  | .take _ => flag.polled

def fault? (disturbance : Nat → Disturbance) : Step → Option Layer.Error
  | .fetch number => (disturbance number).error.map .warehouse
  | .take _ => none

end Step

/-- The steps while so many rows of a full batch are left. The next batch is fetched when none is. -/
def stepsFrom (batchSize : Nat) : Nat → Nat → List Row → List Step
  | 0, number, [] => [.fetch number]
  | _ + 1, _, [] => []
  | 0, number, row :: rest => .fetch number :: .take row :: stepsFrom batchSize (batchSize - 1) (number + 1) rest
  | left + 1, number, row :: rest => .take row :: stepsFrom batchSize left number rest

def steps (batchSize : Nat) (rows : List Row) : List Step := stepsFrom batchSize 0 1 rows

/-- Why the steps are not all done. -/
def interruption? (disturbance : Nat → Disturbance) : CancelFlag → List Step → Option Layer.Error
  | _, [] => none
  | flag, step :: rest =>
    if flag.isRaised then some .cancelled
    else (step.fault? disturbance).or (interruption? disturbance (step.leaves disturbance flag) rest)

def concluded {α : Type} (interrupted : Option Layer.Error) (value : α) : Except Layer.Error α :=
  match interrupted with
  | some e => .error e
  | none => .ok value

theorem concluded_map {α β : Type} (interrupted : Option Layer.Error) (value : α) (f : α → β) :
    (concluded interrupted value).map f = concluded interrupted (f value) := by
  cases interrupted <;> rfl

section Steps

variable {batchSize : Nat} {number : Nat}

theorem stepsFrom_left (left : Nat) (rows : List Row) : stepsFrom batchSize left number rows =
    (rows.take left).map .take ++
      if rows.length < left then [] else stepsFrom batchSize 0 number (rows.drop left) := by
  induction rows generalizing left with
  | nil => cases left <;> simp [stepsFrom]
  | cons row rows ih =>
    cases left with
    | zero => simp
    | succ left => simp [stepsFrom, ih left]

theorem stepsFrom_fetch (positive : 0 < batchSize) (rows : List Row) : stepsFrom batchSize 0 number rows =
    .fetch number :: ((rows.take batchSize).map .take ++
      if rows.length < batchSize then [] else stepsFrom batchSize 0 (number + 1) (rows.drop batchSize)) := by
  obtain ⟨left, rfl⟩ : ∃ left, batchSize = left + 1 := ⟨batchSize - 1, by omega⟩
  rw [← stepsFrom_left]
  cases rows <;> rfl

end Steps

section Interruption

variable {disturbance : Nat → Disturbance} {flag : CancelFlag} {before after : List Step} {step : Step}

theorem interruption?_none (never : flag.raisedFrom = none) (undisturbed : ∀ number, disturbance number = .none)
    (taken : List Step) : interruption? disturbance flag taken = none := by
  induction taken generalizing flag with
  | nil => rfl
  | cons step taken ih =>
    have lowered : flag.isRaised = false := by simp [CancelFlag.isRaised, never]
    have left : (step.leaves disturbance flag).raisedFrom = none := by
      cases step <;> simp [Step.leaves, undisturbed, Disturbance.none, CancelFlag.polled, never]
    have faultless : step.fault? disturbance = none := by
      cases step <;> simp [Step.fault?, undisturbed, Disturbance.none]
    rw [interruption?, lowered, faultless, Option.none_or, ih left]
    rfl

end Interruption

section Collecting

variable {rows : List Row} {p p' : Progress} {s s' : Session}

theorem takeRows_some (disturbance : Nat → Disturbance) (taken : takeRows rows p s = (some p', s')) (rest : List Step) :
    p' = rows.foldl Progress.takeRow p ∧
      interruption? disturbance s.cancel (rows.map .take ++ rest) = interruption? disturbance s'.cancel rest := by
  fun_induction takeRows rows p s with
  | case1 =>
    cases taken
    exact ⟨rfl, rfl⟩
  | case2 => cases taken
  | case3 row rows p s polled clear ih =>
    obtain ⟨lowered, rfl⟩ := Prod.mk.inj clear
    obtain ⟨same, left⟩ := ih taken
    refine ⟨same, ?_⟩
    rw [List.map_cons, List.cons_append, interruption?, lowered, ← left]
    rfl

theorem takeRows_none (disturbance : Nat → Disturbance) (taken : takeRows rows p s = (none, s')) (rest : List Step) :
    interruption? disturbance s.cancel (rows.map .take ++ rest) = some .cancelled := by
  fun_induction takeRows rows p s with
  | case1 => cases taken
  | case2 row rows p s polled raised =>
    obtain ⟨found, -⟩ := Prod.mk.inj raised
    rw [List.map_cons, List.cons_append, interruption?, found, if_pos rfl]
  | case3 row rows p s polled clear ih =>
    obtain ⟨lowered, rfl⟩ := Prod.mk.inj clear
    rw [List.map_cons, List.cons_append, interruption?, lowered]
    exact ih taken

theorem interruption?_fetched {batchSize : Nat} {result result' : ResultSet} {batch : List Row}
    (isOpen : result.cursor.isClosed = false) (lowered : s.cancel.isRaised = false)
    (fetched : result.fetchMany batchSize { s with cancel := s.cancel.polled } = (.ok batch, result', s')) :
    batch = result.cursor.rows.take batchSize ∧
      result' = { result with
        fetches := result.fetches + 1
        cursor := { result.cursor with rows := result.cursor.rows.drop batchSize } } ∧
      ∀ rest, interruption? result.disturbance s.cancel (.fetch (result.fetches + 1) :: rest) =
        interruption? result.disturbance s'.cancel rest := by
  obtain ⟨faultless, taken, left, rfl⟩ := ResultSet.fetchMany_batch isOpen fetched
  refine ⟨taken, left, fun rest => ?_⟩
  have flag : (Step.fetch (result.fetches + 1)).leaves result.disturbance s.cancel =
      (result.disturbed { s with cancel := s.cancel.polled }).cancel := by
    by_cases raised : (result.disturbance (result.fetches + 1)).cancels <;>
      simp [Step.leaves, ResultSet.disturbed, raised]
  rw [interruption?, lowered, flag, Step.fault?, faultless]
  rfl

/-- A collection is what its steps come to, up to the first interruption. -/
theorem collect_outcome (batchSize : Nat) (positive : 0 < batchSize) (result : ResultSet) (p : Progress) (s : Session)
    (isOpen : result.cursor.isClosed = false) : (collect batchSize positive result p s).1 =
      concluded (interruption? result.disturbance s.cancel
        (stepsFrom batchSize 0 (result.fetches + 1) result.cursor.rows))
        (result.cursor.rows.foldl Progress.takeRow p) := by
  -- The cases are the exits, in the order of the checks; only the last goes on with the next batch.
  fun_induction collect batchSize positive result p s with
  | case1 result p s polled raised =>
    obtain ⟨found, -⟩ := Prod.mk.inj raised
    rw [stepsFrom_fetch positive, interruption?, found, if_pos rfl]
    rfl
  | case2 result p s polled clear e result' failing failed =>
    obtain ⟨lowered, rfl⟩ := Prod.mk.inj clear
    obtain ⟨fault, -, -⟩ := ResultSet.fetchMany_error isOpen failed
    rw [stepsFrom_fetch positive, interruption?, lowered, Step.fault?, fault]
    rfl
  | case3 result p s polled clear batch result' fetching fetched taking taken =>
    obtain ⟨lowered, rfl⟩ := Prod.mk.inj clear
    obtain ⟨rfl, -, onward⟩ := interruption?_fetched isOpen lowered fetched
    rw [stepsFrom_fetch positive, onward, takeRows_none _ taken]
    rfl
  | case4 result p s polled clear batch result' fetching fetched progress taking taken short =>
    obtain ⟨lowered, rfl⟩ := Prod.mk.inj clear
    obtain ⟨rfl, -, onward⟩ := interruption?_fetched isOpen lowered fetched
    rw [List.length_take] at short
    have last : result.cursor.rows.length < batchSize := by omega
    have whole : result.cursor.rows.take batchSize = result.cursor.rows := List.take_of_length_le (Nat.le_of_lt last)
    obtain ⟨rfl, left⟩ := takeRows_some result.disturbance taken []
    rw [stepsFrom_fetch positive, onward, if_pos last, left, whole]
    rfl
  | case5 result p s polled clear batch result' fetching fetched progress taking taken full ih =>
    obtain ⟨lowered, rfl⟩ := Prod.mk.inj clear
    obtain ⟨rfl, rfl, onward⟩ := interruption?_fetched isOpen lowered fetched
    rw [List.length_take] at full
    have more : ¬ result.cursor.rows.length < batchSize := by omega
    obtain ⟨rfl, left⟩ := takeRows_some result.disturbance taken
      (stepsFrom batchSize 0 (result.fetches + 1 + 1) (result.cursor.rows.drop batchSize))
    rw [stepsFrom_fetch positive, onward, if_neg more, left, ih isOpen, ← List.foldl_append, List.take_append_drop]

end Collecting

section Query

variable {endpoint : Warehouse.Endpoint} {query geometryColumn : String} {columns shown : List Column}
  {sample rows : List Row} {described disturbance : Nat → Disturbance} {s : Session}

theorem ofQuery_outcome (batchSize : Nat) (isKnown : columns.any (·.name = geometryColumn))
    (describes : s.answer s.log.size (endpoint.command
      ("SELECT * FROM " ++ (Source.query query).fromClause ++ " LIMIT 0")) = .rows columns sample described)
    (answers : s.answer (s.log.size + 1) (endpoint.command
      (statementText (Source.query query).fromClause columns geometryColumn)) = .rows shown rows disturbance) :
    ((ofQuery endpoint query geometryColumn batchSize).run s).1 =
      concluded (interruption? disturbance s.cancel (steps (max batchSize 1) rows))
        ⟨(attributeColumns columns geometryColumn).map Field.ofColumn, grouped (featuresOf rows)⟩ := by
  obtain ⟨s', asked, unraised, ran⟩ := Layer.describe_run describes
  rw [← asked.answer, ← asked.size] at answers
  unfold ofQuery
  rw [run_bind, ran]
  dsimp only
  rw [if_pos isKnown, run_bind, Layer.ofWarehouse_run, Warehouse.Action.execute_run answers]
  dsimp only [Except.mapError]
  rw [run_bind, ExceptT.run_mk]
  let begun := { s'.logged (endpoint.command (statementText (Source.query query).fromClause columns geometryColumn))
    with tracker := s'.tracker.noteOpened }
  have outcome := collect_outcome (max batchSize 1) (by omega) (.ofReply shown rows disturbance) ⟨[], 0⟩ begun rfl
  have flag : begun.cancel = s.cancel := unraised
  let collection (p : Progress) : Collection := ⟨(attributeColumns columns geometryColumn).map Field.ofColumn, p.groups⟩
  have mapped := congrArg (Except.map collection) outcome
  rw [concluded_map, flag] at mapped
  rw [← groups_of_rows]
  refine Eq.trans ?_ mapped
  rcases collect (max batchSize 1) (by omega) (.ofReply shown rows disturbance) ⟨[], 0⟩ begun with ⟨e | p, s''⟩ <;> rfl

end Query

section Sailings

def collected (batchSize : Nat) (s : Session) : Except Layer.Error Collection :=
  ((ofQuery ⟨"lake", .unset⟩ "SELECT * FROM FERRIES" "PATH" batchSize).run s).1

end Sailings

end FeatureLayers.FeatureGroup
