import FeatureLayers.Workspace

namespace FeatureLayers

def Warehouse.CancelFlag.raisedAfter (polls : Nat) (f : CancelFlag) : CancelFlag :=
  { f with raisedFrom := some (f.raisedFrom.elim (f.polls + polls) (min (f.polls + polls))) }

inductive Use
  | fetchNext
  | featureAt (position : Nat)
  | collectRemaining
  | rewind
  | close
  | takeMaterialized
  | cancel (polls : Nat)

def Run.cancelAfter (polls : Nat) (run : Run) : Run :=
  match run.scan.cancel with
  | .own flag => { run with scan := { run.scan with cancel := .own (flag.raisedAfter polls) } }
  | .shared => { run with session.cancel := run.session.cancel.raisedAfter polls }

def Run.used (run : Run) : Use → Run
  | .fetchNext => run.fetchNext.2
  | .featureAt position => (run.featureAt position).2
  | .collectRemaining => run.collectRemaining.2
  | .rewind => run.rewind.2
  | .close => run.close
  | .takeMaterialized => run.takeMaterialized.2
  | .cancel polls => run.cancelAfter polls

namespace Workspace

inductive Operation
  | openLayer (d : Descriptor) (context : Warehouse.Context) (settings : Settings)
  | registerTransform (layer : Nat) (transform : Crs.Transform)
  | setSubset (layer : Nat) (filter : Option String)
  | loadAll (layer : Nat)
  | getFeatures (layer : Nat) (request : Request) (shared : Bool)
  | use (scan : Nat) (use : Use)
  | drop (scan : Nat)
  | cancelShared (polls : Nat)

def perform (w : Workspace) : Operation → Workspace
  | .openLayer d context settings => (w.openLayer d context settings).2
  | .registerTransform layer transform =>
    ((w.onLayer layer fun l => pure ((), l.registerTransform transform)).map Prod.snd).getD w
  | .setSubset layer filter => ((w.onLayer layer fun l => l.setSubset filter).map Prod.snd).getD w
  | .loadAll layer => ((w.onLayer layer Layer.loadAll).map Prod.snd).getD w
  | .getFeatures layer request shared => ((w.getFeatures layer request shared).map Prod.snd).getD w
  | .use scan use => ((w.onScan scan fun run => ((), run.used use)).map Prod.snd).getD w
  | .drop scan => (w.dropScan scan).getD w
  | .cancelShared polls => { w with session.cancel := w.session.cancel.raisedAfter polls }

def after (session : Warehouse.Session) (operations : List Operation) : Workspace :=
  operations.foldl perform (start session)

theorem after_snoc (session : Warehouse.Session) (operations : List Operation) (last : Operation) :
    after session (operations ++ [last]) = (after session operations).perform last := by
  simp [after]

end Workspace

end FeatureLayers
