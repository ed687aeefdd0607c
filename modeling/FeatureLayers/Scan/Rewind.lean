import FeatureLayers.Scan.Run

namespace FeatureLayers.Run

/-- What the scan published counts no longer; the pass to come may publish again. -/
def rearm (run : Run) : Run :=
  match run.scan.publication with
  | none => run
  | some _ =>
    let store := run.store.invalidate
    { run with store, scan := run.scan.publishingTo store }

/-- Back to the start, with the same statement or the same features; a closed scan stays closed. -/
def rewind (run : Run) : Except Layer.Error Bool × Run :=
  match run.scan.phase with
  | .closed => (.ok false, run)
  | .streaming _ _ _ | .replaying _ | .exhausted =>
    let run := run.releaseCursor.rearm
    let scan := { run.scan with cache := .empty, position := 0, stats := .start, phase := .exhausted }
    match scan.work with
    | .replay features _ => (.ok true, ({ run with scan }.inPhase (.replaying features)).note .debug "Rewound")
    | .statement statement _ => match (Scan.execute scan.endpoint statement).run run.session with
      | (.error e, session) => (.error e, { run with scan, session })
      | (.ok phase, session) => (.ok true, ({ run with scan, session }.inPhase phase).note .debug "Rewound")

end FeatureLayers.Run
