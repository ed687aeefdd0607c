import FeatureLayers.Scan.Open

namespace FeatureLayers

structure Run where
  scan : Scan
  session : Warehouse.Session
  store : Store

namespace Run

def note (level : Journal.Level) (message : String) (run : Run) : Run :=
  { run with session := run.session.note level .scan message }

def inPhase (phase : Scan.Phase) (run : Run) : Run := { run with scan := { run.scan with phase } }

def pollCancel (run : Run) : Bool × Run :=
  match run.scan.cancel with
  | .own flag => (flag.isRaised, { run with scan := { run.scan with cancel := .own flag.polled } })
  | .shared => (run.session.cancel.isRaised, { run with session.cancel := run.session.cancel.polled })

def raiseCancel (run : Run) : Run :=
  match run.scan.cancel with
  | .own flag => { run with scan := { run.scan with cancel := .own flag.raise } }
  | .shared => { run with session.cancel := run.session.cancel.raise }

def releaseCursor (run : Run) : Run :=
  match run.scan.phase with
  | .streaming result _ _ => { run with session := (result.close run.session).2 }
  | .replaying _ | .exhausted | .closed => run

def close (run : Run) : Run :=
  match run.scan.phase with
  | .streaming _ _ _ => (run.releaseCursor.inPhase .closed).note .debug "Closed"
  | .replaying _ | .exhausted | .closed => run.inPhase .closed

def publish (run : Run) : Run :=
  match run.scan.publication with
  | none => run
  | some generation =>
    let (isCurrent, store) := run.store.publish generation run.scan.cache.toList
    let run := { run with store }
    if isCurrent then run.note .debug "Source fully loaded" else run

def finish (run : Run) : Run :=
  let run := run.releaseCursor.inPhase .exhausted
  let run := { run with scan := { run.scan with cache := run.scan.cache.completed } }
  run.publish.note .info "Scan complete"

end Run

end FeatureLayers
