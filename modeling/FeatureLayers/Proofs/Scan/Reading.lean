import FeatureLayers.Proofs.Decode.Rows
import FeatureLayers.Proofs.Scan.Moves
import FeatureLayers.Proofs.Warehouse.History

namespace FeatureLayers.Scan

/-- Where a scan stands that reads `rows` batch by batch. -/
structure Reads (rows : List Row) (decoder : Decode.RowDecoder) (s : Scan) (result : Warehouse.ResultSet)
    (buffer : List Row) (isDrained : Bool) : Prop where
  inside : s.position ≤ rows.length
  ahead : rows.drop s.position = buffer ++ result.cursor.rows
  cached : s.cache.toList = decoder.features (rows.take s.position)
  unfinished : s.cache.isComplete = false
  isOpen : result.cursor.isClosed = false
  counted : s.stats.rowsDecoded + s.stats.rowsSkipped = s.position
  held : buffer.length ≤ s.batchSize
  full : isDrained = false → s.stats.batches * s.batchSize + result.cursor.rows.length = rows.length
  drained : isDrained = true → result.cursor.rows = [] ∧ s.stats.batches = rows.length / s.batchSize + 1

def begun (base : ScanBase) (spec : GeometryColumn) (statement : Query.Statement) (decoder : Decode.RowDecoder)
    (transform : Option Crs.Transform) (result : Warehouse.ResultSet) : Scan :=
  { idle base spec (.statement statement decoder) transform with phase := .streaming result [] false }

namespace Reads

variable {rows rest : List Row} {decoder : Decode.RowDecoder} {s : Scan} {result : Warehouse.ResultSet} {row : Row}
  {isDrained : Bool}

theorem start (rows : List Row) (decoder : Decode.RowDecoder) {s : Scan} (columns : List Column)
    (disturbance : Nat → Warehouse.Disturbance) (position : s.position = 0) (cache : s.cache = .empty)
    (stats : s.stats = .start) :
    Reads rows decoder s (.ofReply columns rows disturbance) [] false where
  inside := by simp [position]
  ahead := by simp [position, Warehouse.ResultSet.ofReply]
  cached := by
    rw [cache, position]
    rfl
  unfinished := by simp [cache, Cache.empty]
  isOpen := rfl
  counted := by simp [stats, position, Stats.start]
  held := by simp
  full _ := by simp [stats, Stats.start, Warehouse.ResultSet.ofReply]
  drained := nofun

theorem taken {buffer : List Row} (reads : Reads rows decoder s result buffer isDrained) :
    s.stats.rowsDecoded + s.stats.rowsSkipped + buffer.length + result.cursor.rows.length = rows.length := by
  have ahead := congrArg List.length reads.ahead
  have inside := reads.inside
  rw [reads.counted]
  simp only [List.length_drop, List.length_append] at ahead
  omega

theorem next (reads : Reads rows decoder s result (row :: rest) isDrained) :
    rows.drop s.position = row :: (rest ++ result.cursor.rows) := reads.ahead

theorem next_inside (reads : Reads rows decoder s result (row :: rest) isDrained) : s.position < rows.length := by
  have := congrArg List.length reads.next
  simp only [List.length_drop, List.length_cons] at this
  omega

theorem next_ahead (reads : Reads rows decoder s result (row :: rest) isDrained) :
    rows.drop (s.position + 1) = rest ++ result.cursor.rows := by
  rw [← List.tail_drop, reads.next, List.tail_cons]

theorem skip {fault : Decode.Fault} (reads : Reads rows decoder s result (row :: rest) isDrained)
    (undecoded : decoder.decode row s.position = .error fault) :
    Reads rows decoder { s with position := s.position + 1 }.skipped result rest isDrained where
  inside := reads.next_inside
  ahead := reads.next_ahead
  cached := by
    have more := Decode.RowDecoder.features_take_succ (d := decoder) reads.next
    rw [Decode.RowDecoder.featuresFrom_cons_error [] undecoded] at more
    exact reads.cached.trans (more.trans (List.append_nil _)).symm
  unfinished := reads.unfinished
  isOpen := reads.isOpen
  counted := by
    have := reads.counted
    simp only [skipped]
    omega
  held := Nat.le_trans (Nat.le_succ _) reads.held
  full := reads.full
  drained := reads.drained

theorem yield {feature : Feature} (reads : Reads rows decoder s result (row :: rest) isDrained)
    (decoded : decoder.decode row s.position = .ok feature) :
    Reads rows decoder ({ s with position := s.position + 1 }.yielded feature) result rest isDrained where
  inside := reads.next_inside
  ahead := reads.next_ahead
  cached := by
    have more := Decode.RowDecoder.features_take_succ (d := decoder) reads.next
    rw [Decode.RowDecoder.featuresFrom_cons_ok [] decoded] at more
    change (s.cache.features.push feature).toList = decoder.features (rows.take (s.position + 1))
    rw [Array.toList_push, more, ← reads.cached]
    rfl
  unfinished := reads.unfinished
  isOpen := reads.isOpen
  counted := by
    have := reads.counted
    simp only [yielded]
    omega
  held := Nat.le_trans (Nat.le_succ _) reads.held
  full := reads.full
  drained := reads.drained

theorem refill {b : Nat} {result' : Warehouse.ResultSet} {session session' : Warehouse.Session} {batch : List Row}
    (reads : Reads rows decoder s result [] false) (size : b = s.batchSize)
    (took : result.fetchMany b session = (.ok batch, result', session')) :
    Reads rows decoder s.fetched result' batch (decide (batch.length < b)) := by
  subst size
  obtain ⟨-, rfl, rfl, -⟩ := Warehouse.ResultSet.fetchMany_batch reads.isOpen took
  have before := reads.full rfl
  have ahead := reads.ahead
  rw [List.nil_append] at ahead
  refine ⟨reads.inside, ?_, reads.cached, reads.unfinished, reads.isOpen, reads.counted, ?_, ?_, ?_⟩
  · rw [List.take_append_drop]
    exact ahead
  · exact List.length_take_le _ _
  · intro isFull
    have whole : s.batchSize ≤ result.cursor.rows.length := by
      simp only [List.length_take, decide_eq_false_iff_not] at isFull
      omega
    simp only [fetched, List.length_drop, Nat.add_mul]
    omega
  · intro isShort
    have short : result.cursor.rows.length < s.batchSize := by
      simp only [List.length_take, decide_eq_true_eq] at isShort
      omega
    refine ⟨List.drop_eq_nil_of_le (Nat.le_of_lt short), ?_⟩
    simp only [fetched]
    rw [← before, Nat.mul_comm, Nat.mul_add_div s.batchSize_pos, Nat.div_eq_of_lt short, Nat.add_zero]

theorem fail {b : Nat} {result' : Warehouse.ResultSet} {session session' : Warehouse.Session} {e : Warehouse.Error}
    (reads : Reads rows decoder s result [] false)
    (failed : result.fetchMany b session = (.error e, result', session')) :
    Reads rows decoder s result' [] false := by
  obtain ⟨-, rfl, -⟩ := Warehouse.ResultSet.fetchMany_error reads.isOpen failed
  exact { reads with }

theorem finished (reads : Reads rows decoder s result [] true) :
    s.position = rows.length ∧ s.cache.toList = decoder.features rows := by
  have none := reads.ahead
  rw [(reads.drained rfl).1, List.append_nil, List.drop_eq_nil_iff] at none
  have all : s.position = rows.length := Nat.le_antisymm reads.inside none
  refine ⟨all, ?_⟩
  rw [reads.cached, all, List.take_length]

end Reads

end FeatureLayers.Scan
