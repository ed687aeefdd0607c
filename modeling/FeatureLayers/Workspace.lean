import FeatureLayers.Layer.Features
import FeatureLayers.Layer.Statistics
import FeatureLayers.Scan.Rewind

namespace FeatureLayers

structure OpenScan where
  scan : Scan
  layer : Option Nat

structure Workspace where
  session : Warehouse.Session
  layers : Array Layer
  scans : Array (Option OpenScan)

namespace Workspace

def start (session : Warehouse.Session) : Workspace := ⟨session, #[], #[]⟩

def act {α : Type} (action : Layer.Action α) (w : Workspace) : Except Layer.Error α × Workspace :=
  let (result, session) := action.run w.session
  (result, { w with session })

def openLayer (d : Descriptor) (context : Warehouse.Context) (settings : Settings) (w : Workspace) :
    Except Layer.Error Layer × Workspace :=
  match w.act (Layer.ofDescriptor d context settings) with
  | (.ok layer, w) => (.ok layer, { w with layers := w.layers.push layer })
  | (.error e, w) => (.error e, w)

/-- Runs an action on a layer and keeps the layer that it leaves; after an error the layer is as it was. -/
def onLayer {α : Type} (number : Nat) (action : Layer → Layer.Action (α × Layer)) (w : Workspace) :
    Option (Except Layer.Error α × Workspace) :=
  w.layers[number]?.map fun layer =>
    match w.act (action layer) with
    | (.ok (a, layer), w) => (.ok a, { w with layers := w.layers.set! number layer })
    | (.error e, w) => (.error e, w)

def addScan (scan : Scan) (layer : Option Nat) (w : Workspace) : Nat × Workspace :=
  (w.scans.size, { w with scans := w.scans.push (some ⟨scan, layer⟩) })

def openScan (action : Layer.Action Scan) (layer : Option Nat) (w : Workspace) : Except Layer.Error Nat × Workspace :=
  match w.act action with
  | (.ok scan, w) =>
    let (number, w) := w.addScan scan layer
    (.ok number, w)
  | (.error e, w) => (.error e, w)

def getFeatures (number : Nat) (request : Request) (shared : Bool) (w : Workspace) :
    Option (Except Layer.Error Nat × Workspace) :=
  w.layers[number]?.map fun layer =>
    let action := do
      let scan ← layer.getFeatures request
      return if shared then scan.listeningToShared else scan
    w.openScan action (some number)

def scan? (number : Nat) (w : Workspace) : Option OpenScan := w.scans[number]?.join

def storeOf (layer : Option Nat) (w : Workspace) : Store :=
  ((layer.bind (w.layers[·]?)).map (·.store)).getD .empty

def setStore (layer : Option Nat) (store : Store) (w : Workspace) : Workspace :=
  match layer with
  | some number => { w with layers := w.layers.modify number fun l => { l with store } }
  | none => w

def onScan {α : Type} (number : Nat) (operation : Run → α × Run) (w : Workspace) : Option (α × Workspace) :=
  (w.scan? number).map fun found =>
    let (a, run) := operation ⟨found.scan, w.session, w.storeOf found.layer⟩
    let w := { w with session := run.session, scans := w.scans.set! number (some ⟨run.scan, found.layer⟩) }
    (a, w.setStore found.layer run.store)

def dropScan (number : Nat) (w : Workspace) : Option Workspace :=
  (w.onScan number fun run => ((), run.close)).map fun (_, w) => { w with scans := w.scans.set! number none }

end Workspace

end FeatureLayers
