import FeatureLayers.Scan.Run

namespace FeatureLayers.Run

def visit (decoder : Decode.RowDecoder) (row : Row) (run : Run) : Option Feature × Run :=
  let position := run.scan.position
  let scan := { run.scan with position := position + 1 }
  match decoder.decode row position with
  | .ok feature => (some feature, { run with scan := scan.yielded feature })
  | .error _ => (none, { run with scan := scan.skipped }.note .warn "Skipping undecodable row")

def takeBuffered (decoder : Decode.RowDecoder) : List Row → Run → Option Feature × List Row × Run
  | [], run => (none, [], run)
  | row :: rest, run => match run.visit decoder row with
    | (some feature, run) => (some feature, rest, run)
    | (none, run) => takeBuffered decoder rest run

/-- Fetches that a streaming scan may still make, bounded by the rows that are left. -/
def unread (result : Warehouse.ResultSet) (isDrained : Bool) : Nat :=
  result.cursor.rows.length + if isDrained then 0 else 1

theorem unread_fetchMany_lt {n : Nat} {r r' : Warehouse.ResultSet} {s s' : Warehouse.Session} {batch : List Row}
    (positive : 0 < n) (h : r.fetchMany n s = (.ok batch, r', s')) :
    unread r' (decide (batch.length < n)) < unread r false := by
  obtain ⟨taken, left⟩ := Warehouse.ResultSet.fetchMany_ok h
  simp only [unread, taken, left, List.length_take, List.length_drop, decide_eq_true_eq, Bool.false_eq_true, if_false]
  split <;> omega

/-- Serves the buffer, and refills it while it serves nothing. The flag is polled before each fetch, and a batch that is
shorter than asked for is the last. -/
def streamNext (decoder : Decode.RowDecoder) (batchSize : Nat) (positive : 0 < batchSize)
    (result : Warehouse.ResultSet) (buffer : List Row) (isDrained : Bool) (run : Run) :
    Except Layer.Error (Option Feature) × Run :=
  match takeBuffered decoder buffer run with
  | (some feature, rest, run) => (.ok (some feature), run.inPhase (.streaming result rest isDrained))
  | (none, _, run) =>
    let run := run.inPhase (.streaming result [] isDrained)
    if _drained : isDrained = true then (.ok none, run.finish)
    else match run.pollCancel with
      | (true, run) => (.ok none, (run.note .info "Scan cancelled").close)
      | (false, run) => match _fetched : result.fetchMany batchSize run.session with
        | (.error e, result, session) =>
          (.error (.warehouse e), { run with session }.inPhase (.streaming result [] false))
        | (.ok batch, result, session) =>
          let run := { run with session, scan := run.scan.fetched }.note .debug "Fetched batch"
          streamNext decoder batchSize positive result batch (decide (batch.length < batchSize)) run
termination_by unread result isDrained
decreasing_by
  have full : isDrained = false := by simpa using _drained
  subst full
  exact unread_fetchMany_lt positive _fetched

def replayNext (selection : Selection) : List Feature → Run → Except Layer.Error (Option Feature) × Run
  | [], run => (.ok none, (run.inPhase (.replaying [])).finish)
  | feature :: rest, run =>
    if selection.admits feature then
      let shaped := selection.shape run.scan.transform feature
      (.ok (some shaped), { run with scan := run.scan.yielded shaped }.inPhase (.replaying rest))
    else replayNext selection rest run

def fetchNext (run : Run) : Except Layer.Error (Option Feature) × Run :=
  match run.scan.phase, run.scan.work with
  | .streaming result buffer isDrained, .statement _ decoder =>
    streamNext decoder run.scan.batchSize run.scan.batchSize_pos result buffer isDrained run
  | .replaying rest, .replay _ selection => replayNext selection rest run
  | _, _ => (.ok none, run)

def fetchTimes : (count : Nat) → Run → List (Except Layer.Error (Option Feature)) × Run
  | 0, run => ([], run)
  | count + 1, run =>
    let (outcome, run) := run.fetchNext
    let (outcomes, run) := fetchTimes count run
    (outcome :: outcomes, run)

def advance : Nat → Run → Except Layer.Error Unit × Run
  | 0, run => (.ok (), run)
  | count + 1, run => match run.fetchNext with
    | (.error e, run) => (.error e, run)
    | (.ok none, run) => (.ok (), run)
    | (.ok (some _), run) => advance count run

/-- The feature at a position of the scan's output. What was yielded before is kept, the rest is fetched. -/
def featureAt (position : Nat) (run : Run) : Except Layer.Error (Option Feature) × Run :=
  match run.advance (position + 1 - run.scan.cache.size) with
  | (.error e, run) => (.error e, run)
  | (.ok (), run) => (.ok (run.scan.cache.get? position), run)

def remaining (run : Run) : Nat :=
  match run.scan.phase with
  | .streaming result buffer _ => result.cursor.rows.length + buffer.length
  | .replaying rest => rest.length
  | .exhausted | .closed => 0

def collectFrom : Nat → List Feature → Run → Except Layer.Error (List Feature) × Run
  | 0, taken, run => (.ok taken.reverse, run)
  | bound + 1, taken, run => match run.fetchNext with
    | (.error e, run) => (.error e, run)
    | (.ok none, run) => (.ok taken.reverse, run)
    | (.ok (some feature), run) => collectFrom bound (feature :: taken) run

def collectRemaining (run : Run) : Except Layer.Error (List Feature) × Run := collectFrom (run.remaining + 1) [] run

/-- The features of a complete scan, which forgets them. -/
def takeMaterialized (run : Run) : Option (List Feature) × Run :=
  let (features, cache) := run.scan.cache.take
  (features, { run with scan := { run.scan with cache } })

end FeatureLayers.Run
