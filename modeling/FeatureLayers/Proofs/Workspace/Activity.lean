import FeatureLayers.Preview.Group
import FeatureLayers.Preview.Page
import FeatureLayers.Proofs.Warehouse.Action
import FeatureLayers.Proofs.Workspace.Operation

namespace FeatureLayers

inductive Layer.Inquiry
  | featureCount
  | extent
  | uniqueValues (field : String) (limit : Option Nat)
  | isView
  | explain (request : Request)

def Layer.inquire (inquiry : Inquiry) (l : Layer) : Action (Unit × Layer) := do
  match inquiry with
  | .featureCount =>
    let (_, l) ← l.featureCount
    return ((), l)
  | .extent =>
    let (_, l) ← l.extent
    return ((), l)
  | .uniqueValues field limit =>
    let _ ← l.uniqueValues field limit
    return ((), l)
  | .isView =>
    let _ ← l.isView
    return ((), l)
  | .explain request =>
    let _ ← l.explain request
    return ((), l)

namespace Workspace

inductive Activity
  | operate (operation : Operation)
  | inquire (layer : Nat) (inquiry : Layer.Inquiry)
  | adopt (layer : Nat) (features : List Feature)
  | preview (endpoint : Warehouse.Endpoint) (query : String) (limit : Nat)
  | collectGroups (endpoint : Warehouse.Endpoint) (query geometryColumn : String) (batchSize : Nat)

def engage (w : Workspace) : Activity → Workspace
  | .operate operation => w.perform operation
  | .inquire layer inquiry => ((w.onLayer layer (Layer.inquire inquiry)).map Prod.snd).getD w
  | .adopt layer features =>
    ((w.onLayer layer fun l => do return ((), ← l.adopt features)).map Prod.snd).getD w
  | .preview endpoint query limit => (w.act (Preview.ofQuery endpoint query limit)).2
  | .collectGroups endpoint query geometryColumn batchSize =>
    (w.act (FeatureGroup.ofQuery endpoint query geometryColumn batchSize)).2

def engaged (w : Workspace) (activities : List Activity) : Workspace := activities.foldl engage w

theorem engaged_snoc (w : Workspace) (activities : List Activity) (last : Activity) :
    w.engaged (activities ++ [last]) = (w.engaged activities).engage last := by
  simp [engaged]

variable {α : Type} {i k : Nat}

theorem openLayer_left (d : Descriptor) (context : Warehouse.Context) (settings : Settings) (w : Workspace) :
    w.openLayer d context settings = match (Layer.ofDescriptor d context settings).run w.session with
      | (.ok l, session) => (.ok l, { w with session, layers := w.layers.push l })
      | (.error e, session) => (.error e, { w with session }) := by
  unfold openLayer act
  rcases (Layer.ofDescriptor d context settings).run w.session with ⟨e | l, session⟩ <;> rfl

theorem onLayer_left (action : Layer → Layer.Action (α × Layer)) (w : Workspace) :
    ((w.onLayer i action).map Prod.snd).getD w = match w.layers[i]? with
      | none => w
      | some l => match (action l).run w.session with
        | (.ok (_, l), session) => { w with session, layers := w.layers.set! i l }
        | (.error _, session) => { w with session } := by
  unfold onLayer act
  cases w.layers[i]? with
  | none => rfl
  | some l =>
    dsimp only [Option.map_some, Option.getD_some]
    rcases (action l).run w.session with ⟨e | ⟨a, l'⟩, session⟩ <;> rfl

theorem getFeatures_left (request : Request) (shared : Bool) (w : Workspace) :
    ((w.getFeatures i request shared).map Prod.snd).getD w = match w.layers[i]? with
      | none => w
      | some l => match (l.getFeatures request).run w.session with
        | (.ok scan, session) => { w with
          session, scans := w.scans.push (some ⟨if shared then scan.listeningToShared else scan, some i⟩) }
        | (.error _, session) => { w with session } := by
  unfold getFeatures openScan act
  cases w.layers[i]? with
  | none => rfl
  | some l =>
    dsimp only [Option.map_some, Option.getD_some]
    rw [Warehouse.Action.run_bind]
    rcases (l.getFeatures request).run w.session with ⟨e | scan, session⟩ <;> rfl

variable {w w' : Workspace} {found opened : OpenScan} {slot : Option OpenScan}

theorem scan?_of_set {j : Nat} (scans : w'.scans = w.scans.set! k slot) (present : w'.scan? j = some found) :
    slot = some found ∨ w.scan? j = some found := by
  unfold scan? at present
  rw [scans, Array.set!_eq_setIfInBounds, Array.getElem?_setIfInBounds] at present
  split at present
  · split at present
    · exact .inl present
    · cases present
  · exact .inr present

theorem scan?_of_push (scans : w'.scans = w.scans.push (some opened)) (present : w'.scan? k = some found) :
    opened = found ∨ w.scan? k = some found := by
  unfold scan? at present
  rw [scans, Array.getElem?_push] at present
  split at present
  · exact .inl (Option.some.inj present)
  · exact .inr present

/-- What is done on a scan concerns the session, the scan and the store of its layer. -/
structure Touched (w w' : Workspace) (k : Nat) (found : OpenScan) (run : Run) : Prop where
  session : w'.session = run.session
  scans : w'.scans = w.scans.set! k (some ⟨run.scan, found.layer⟩)
  layers : ∀ j : Nat, w'.layers[j]? =
    if found.layer = some j then w.layers[j]?.map fun l => { l with store := run.store } else w.layers[j]?

theorem onScan_touches {w w' : Workspace} {operation : Run → α × Run} {a : α}
    (h : w.onScan k operation = some (a, w')) :
    ∃ found, w.scan? k = some found ∧
      Touched w w' k found (operation ⟨found.scan, w.session, w.storeOf found.layer⟩).2 := by
  obtain ⟨found, present, left⟩ := Option.map_eq_some_iff.mp h
  cases left
  refine ⟨found, present, ?_, ?_, fun j => ?_⟩
  · unfold setStore
    cases found.layer <;> rfl
  · unfold setStore
    cases found.layer <;> rfl
  · unfold setStore
    cases found.layer with
    | none => simp
    | some i => simp [Array.getElem?_modify]

theorem dropScan_touches {w w' : Workspace} (h : w.dropScan k = some w') :
    ∃ found dropped, w.scan? k = some found ∧
      Touched w dropped k found (Run.close ⟨found.scan, w.session, w.storeOf found.layer⟩) ∧
      w' = { dropped with scans := dropped.scans.set! k none } := by
  obtain ⟨⟨⟨⟩, dropped⟩, closed, rfl⟩ := Option.map_eq_some_iff.mp h
  obtain ⟨found, present, touched⟩ := onScan_touches closed
  exact ⟨found, dropped, present, touched, rfl⟩

end Workspace

end FeatureLayers
