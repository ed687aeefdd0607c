import FeatureLayers.Proofs.Layer.Sized
import FeatureLayers.Proofs.Preview.Collecting
import FeatureLayers.Proofs.Workspace.Activity
import Mathlib.Data.List.Induction

namespace FeatureLayers

open Warehouse (Session)
open Warehouse.Action (Keeps precedes_frame)

theorem Layer.inquire_keeps {R : Session → Session → Prop} (frame : Warehouse.Action.Frame R) (inquiry : Inquiry)
    (l : Layer) : Keeps R (l.inquire inquiry) := by
  cases inquiry with
  | featureCount => exact frame.bind (l.featureCount_keeps frame) fun _ => frame.pure _
  | extent => exact frame.bind (l.extent_keeps frame) fun _ => frame.pure _
  | uniqueValues field limit => exact frame.bind (l.uniqueValues_keeps frame field limit) fun _ => frame.pure _
  | isView => exact frame.bind (l.isView_keeps frame) fun _ => frame.pure _
  | explain request => exact frame.bind (l.explain_keeps frame request) fun _ => frame.pure _

theorem Layer.inquire_cases {inquiry : Inquiry} {l l' : Layer} {s s' : Session}
    (h : (l.inquire inquiry).run s = (.ok ((), l'), s')) :
    l' = l ∨ (∃ count, l.featureCount.run s = (.ok (count, l'), s')) ∨
      ∃ extent, l.extent.run s = (.ok (extent, l'), s') := by
  cases inquiry with
  | featureCount =>
    obtain ⟨⟨count, left⟩, s₁, counted, returned⟩ := Warehouse.Action.bind_ok h
    cases returned
    exact .inr (.inl ⟨count, counted⟩)
  | extent =>
    obtain ⟨⟨extent, left⟩, s₁, measured, returned⟩ := Warehouse.Action.bind_ok h
    cases returned
    exact .inr (.inr ⟨extent, measured⟩)
  | uniqueValues field limit =>
    obtain ⟨values, s₁, listed, returned⟩ := Warehouse.Action.bind_ok h
    cases returned
    exact .inl rfl
  | isView =>
    obtain ⟨isView, s₁, asked, returned⟩ := Warehouse.Action.bind_ok h
    cases returned
    exact .inl rfl
  | explain request =>
    obtain ⟨statement, s₁, explained, returned⟩ := Warehouse.Action.bind_ok h
    cases returned
    exact .inl rfl

theorem Layer.adopt_keeps {R : Session → Session → Prop} (frame : Warehouse.Action.Frame R) (l : Layer)
    (features : List Feature) : Keeps R (l.adopt features) :=
  frame.bind (frame.noted _ _ _) fun _ => frame.pure _

namespace Workspace

/-- Layers have one property, by their number and in the session, and their open scans have another. -/
structure Throughout (first : Nat) (P : Nat → Layer → Session → Prop) (Q : Nat → Scan → Prop) (w : Workspace) :
    Prop where
  opened : first ≤ w.layers.size
  layers : ∀ i l, w.layers[i]? = some l → P i l w.session
  scans : ∀ k found i, w.scan? k = some found → found.layer = some i → i < w.layers.size ∧ Q i found.scan

/-- An activity keeps up the properties; of layers that it opens, those from the first on need not have had them. -/
structure Lasting (first : Nat) (P : Nat → Layer → Session → Prop) (Q : Nat → Scan → Prop) (activity : Activity) :
    Prop where
  later {i l s s'} : P i l s → s.Precedes s' → P i l s'
  opens {i d context settings l s s'} : first ≤ i → (Layer.ofDescriptor d context settings).run s = (.ok l, s') → P i l s'
  registers {i l s} (transform : Crs.Transform) : P i l s → P i (l.registerTransform transform) s
  filters {i l filter isAccepted l' s s'} : P i l s → (l.setSubset filter).run s = (.ok (isAccepted, l'), s') → P i l' s'
  loads {i l count l' s s'} : P i l s → l.loadAll.run s = (.ok (count, l'), s') → P i l' s'
  inquires {i l inquiry l' s s'} : P i l s → (l.inquire inquiry).run s = (.ok ((), l'), s') → P i l' s'
  adopts {i l features l' s s'} : activity = .adopt i features → P i l s → (l.adopt features).run s = (.ok l', s') →
    P i l' s'
  begins {i l request scan s s'} (shared : Bool) : P i l s → (l.getFeatures request).run s = (.ok scan, s') →
    Q i (if shared then scan.listeningToShared else scan)
  used {i} (run : Run) (use : Use) : Q i run.scan → Q i (run.used use).scan ∧
    ∀ l s, P i l s → run.store = l.store → P i { l with store := (run.used use).store } s

variable {first : Nat} {P : Nat → Layer → Session → Prop} {Q : Nat → Scan → Prop} {activity : Activity}
  {w w' : Workspace} {k : Nat}

theorem Throughout.later (throughout : w.Throughout first P Q) (lasting : Lasting first P Q activity)
    (precedes : w.session.Precedes w'.session) (layers : w'.layers = w.layers) (scans : w'.scans = w.scans) :
    w'.Throughout first P Q where
  opened := layers ▸ throughout.opened
  layers i l present := lasting.later (throughout.layers i l (layers ▸ present)) precedes
  scans k found i present same := by
    rw [layers]
    refine throughout.scans k found i ?_ same
    rw [← present, scan?, scan?, scans]

theorem Throughout.openLayer (throughout : w.Throughout first P Q) (lasting : Lasting first P Q activity)
    (d : Descriptor) (context : Warehouse.Context) (settings : Settings) :
    (w.openLayer d context settings).2.Throughout first P Q := by
  have precedes := Layer.ofDescriptor_keeps precedes_frame d context settings w.session
  rw [openLayer_left]
  rcases outcome : (Layer.ofDescriptor d context settings).run w.session with ⟨e | l, session⟩
  · rw [outcome] at precedes
    exact throughout.later lasting precedes rfl rfl
  · rw [outcome] at precedes
    refine ⟨?_, fun i m present => ?_, fun k found i present same => ?_⟩
    · rw [Array.size_push]
      exact Nat.le_succ_of_le throughout.opened
    · rw [Array.getElem?_push] at present
      split at present
      · rename_i last
        cases present
        exact lasting.opens (last ▸ throughout.opened) outcome
      · exact lasting.later (throughout.layers i m present) precedes
    · obtain ⟨inside, holds⟩ := throughout.scans k found i present same
      rw [Array.size_push]
      exact ⟨Nat.lt_succ_of_lt inside, holds⟩

theorem Throughout.onLayer {α : Type} {action : Layer → Layer.Action (α × Layer)} (throughout : w.Throughout first P Q)
    (lasting : Lasting first P Q activity) (i : Nat) (keeps : ∀ l, Keeps Session.Precedes (action l))
    (stays : ∀ l a l' s, P i l w.session → (action l).run w.session = (.ok (a, l'), s) → P i l' s) :
    (((w.onLayer i action).map Prod.snd).getD w).Throughout first P Q := by
  rw [onLayer_left]
  split
  · exact throughout
  · rename_i l here
    have precedes := keeps l w.session
    rcases outcome : (action l).run w.session with ⟨e | ⟨a, l'⟩, session⟩
    · rw [outcome] at precedes
      exact throughout.later lasting precedes rfl rfl
    · rw [outcome] at precedes
      dsimp only
      refine ⟨?_, fun j m present => ?_, fun k found j present same => ?_⟩
      · rw [Array.size_set!]
        exact throughout.opened
      · rw [Array.set!_eq_setIfInBounds, Array.getElem?_setIfInBounds] at present
        split at present
        · rename_i same
          split at present
          · cases present
            exact same ▸ stays l a l' session (throughout.layers i l here) outcome
          · cases present
        · exact lasting.later (throughout.layers j m present) precedes
      · rw [Array.size_set!]
        exact throughout.scans k found j present same

theorem Throughout.getFeatures (throughout : w.Throughout first P Q) (lasting : Lasting first P Q activity) (i : Nat)
    (request : Request) (shared : Bool) :
    (((w.getFeatures i request shared).map Prod.snd).getD w).Throughout first P Q := by
  rw [getFeatures_left]
  split
  · exact throughout
  · rename_i l here
    have precedes := l.getFeatures_keeps request w.session
    rcases outcome : (l.getFeatures request).run w.session with ⟨e | scan, session⟩
    · rw [outcome] at precedes
      exact throughout.later lasting precedes rfl rfl
    · rw [outcome] at precedes
      refine ⟨throughout.opened, fun j m present => lasting.later (throughout.layers j m present) precedes,
        fun k found j present same => ?_⟩
      rcases scan?_of_push rfl present with rfl | earlier
      · cases same
        exact ⟨(Array.getElem?_eq_some_iff.mp here).1, lasting.begins shared (throughout.layers i l here) outcome⟩
      · exact throughout.scans k found j earlier same

theorem Touched.size {found : OpenScan} {run : Run} (touched : Touched w w' k found run) :
    w'.layers.size = w.layers.size := by
  have same : ∀ j : Nat, w'.layers[j]? = none ↔ w.layers[j]? = none := by
    intro j
    rw [touched.layers]
    split
    · exact Option.map_eq_none_iff
    · exact Iff.rfl
  have beyond := fun j => (Array.getElem?_eq_none_iff.symm.trans (same j)).trans Array.getElem?_eq_none_iff
  exact Nat.le_antisymm ((beyond _).mpr (Nat.le_refl _)) ((beyond _).mp (Nat.le_refl _))

theorem Throughout.used {found : OpenScan} {use : Use} (throughout : w.Throughout first P Q)
    (lasting : Lasting first P Q activity) (present : w.scan? k = some found)
    (touched : Touched w w' k found (Run.used ⟨found.scan, w.session, w.storeOf found.layer⟩ use)) :
    w'.Throughout first P Q := by
  have precedes := Run.used_precedes ⟨found.scan, w.session, w.storeOf found.layer⟩ use
  refine ⟨touched.size ▸ throughout.opened, fun j m here => ?_, fun k' found' j present' same => ?_⟩
  · rw [touched.session]
    rw [touched.layers] at here
    split at here
    · -- The layer of the scan has the store that the run leaves; the others are as they were.
      rename_i layer
      obtain ⟨l, before, rfl⟩ := Option.map_eq_some_iff.mp here
      obtain ⟨-, holds⟩ := throughout.scans k found j present layer
      have later := lasting.later (throughout.layers j l before) precedes
      refine (lasting.used ⟨found.scan, w.session, w.storeOf found.layer⟩ use holds).2 l _ later ?_
      rw [layer, storeOf, Option.bind_some, before]
      rfl
    · exact lasting.later (throughout.layers j m here) precedes
  · rw [touched.size]
    rcases scan?_of_set touched.scans present' with ⟨⟨⟩⟩ | earlier
    · obtain ⟨inside, holds⟩ := throughout.scans k found j present same
      exact ⟨inside, (lasting.used _ use holds).1⟩
    · exact throughout.scans k' found' j earlier same

theorem Throughout.forgets (throughout : w.Throughout first P Q) (k : Nat) :
    ({ w with scans := w.scans.set! k none } : Workspace).Throughout first P Q := by
  refine ⟨throughout.opened, throughout.layers, fun j found i present same => ?_⟩
  rcases scan?_of_set rfl present with ⟨⟨⟩⟩ | earlier
  exact throughout.scans j found i earlier same

theorem Throughout.engage (throughout : w.Throughout first P Q) (lasting : Lasting first P Q activity) :
    (w.engage activity).Throughout first P Q := by
  cases activity with
  | operate operation =>
    cases operation with
    | openLayer d context settings => exact throughout.openLayer lasting d context settings
    | registerTransform layer transform =>
      refine throughout.onLayer lasting layer (fun l => precedes_frame.pure _) fun l a l' s holds registered => ?_
      cases registered
      exact lasting.registers transform holds
    | setSubset layer filter =>
      exact throughout.onLayer lasting layer (fun l => Layer.setSubset_keeps precedes_frame l filter)
        fun _ _ _ _ => lasting.filters
    | loadAll layer => exact throughout.onLayer lasting layer Layer.loadAll_keeps fun _ _ _ _ => lasting.loads
    | getFeatures layer request shared => exact throughout.getFeatures lasting layer request shared
    | use k use =>
      change (((w.onScan k fun run => ((), run.used use)).map Prod.snd).getD w).Throughout first P Q
      cases left : w.onScan k fun run => ((), run.used use) with
      | none => exact throughout
      | some left' =>
        obtain ⟨found, present, touched⟩ := onScan_touches left
        exact throughout.used lasting present touched
    | drop k =>
      change ((w.dropScan k).getD w).Throughout first P Q
      cases left : w.dropScan k with
      | none => exact throughout
      | some w' =>
        obtain ⟨found, dropped, present, closed, rfl⟩ := dropScan_touches left
        have touched : Touched w dropped k found (Run.used ⟨found.scan, w.session, w.storeOf found.layer⟩ .close) :=
          closed
        exact (throughout.used lasting present touched).forgets k
    | cancelShared polls => exact throughout.later lasting (.of_eq rfl rfl) rfl rfl
  | inquire layer inquiry =>
    exact throughout.onLayer lasting layer (Layer.inquire_keeps precedes_frame inquiry)
      fun _ _ _ _ => lasting.inquires
  | adopt layer features =>
    refine throughout.onLayer lasting layer
      (fun l => precedes_frame.bind (l.adopt_keeps precedes_frame features) fun _ => precedes_frame.pure _)
      fun l a l' s holds adopted => ?_
    obtain ⟨l₁, s₁, adopts, returned⟩ := Warehouse.Action.bind_ok adopted
    cases returned
    exact lasting.adopts rfl holds adopts
  | preview endpoint query limit =>
    exact throughout.later lasting (Preview.ofQuery_keeps precedes_frame endpoint query limit w.session) rfl rfl
  | collectGroups endpoint query geometryColumn batchSize =>
    exact throughout.later lasting
      (FeatureGroup.ofQuery_precedes endpoint query geometryColumn batchSize w.session) rfl rfl

theorem Throughout.engaged {activities : List Activity} (throughout : w.Throughout first P Q)
    (lasting : ∀ activity ∈ activities, Lasting first P Q activity) :
    (w.engaged activities).Throughout first P Q := by
  induction activities using List.reverseRecOn with
  | nil => exact throughout
  | append_singleton activities last ih =>
    rw [engaged_snoc]
    refine (ih fun activity member => ?_).engage (lasting last (by simp))
    exact lasting activity (List.mem_append_left _ member)

theorem housed (session : Session) (activities : List Activity) :
    ((start session).engaged activities).Throughout 0 (fun _ _ _ => True) fun _ _ => True := by
  refine Throughout.engaged ⟨Nat.le_refl _, fun _ _ _ => trivial, fun k found i present => ?_⟩ fun activity _ => ?_
  · simp [start, scan?] at present
  · constructor <;> intros <;> simp

theorem openLayer_ok {d : Descriptor} {context : Warehouse.Context} {settings : Settings} {l : Layer}
    (opened : w.openLayer d context settings = (.ok l, w')) :
    (Layer.ofDescriptor d context settings).run w.session = (.ok l, w'.session) ∧
      w' = { w with session := w'.session, layers := w.layers.push l } := by
  rw [openLayer_left] at opened
  rcases outcome : (Layer.ofDescriptor d context settings).run w.session with ⟨e | l', session⟩
  · rw [outcome] at opened
    cases opened
  · rw [outcome] at opened
    cases opened
    exact ⟨rfl, rfl⟩

theorem throughout_opened {d : Descriptor} {context : Warehouse.Context} {settings : Settings} {l : Layer}
    {P : Layer → Session → Prop} {Q : Scan → Prop} (housed : w.Throughout 0 (fun _ _ _ => True) fun _ _ => True)
    (opened : w.openLayer d context settings = (.ok l, w')) (holds : P l w'.session) :
    w'.Throughout (w.layers.size + 1) (fun i l s => i = w.layers.size → P l s)
      fun i scan => i = w.layers.size → Q scan := by
  obtain ⟨-, left⟩ := openLayer_ok opened
  generalize w'.session = session at left holds
  subst left
  refine ⟨?_, fun i m present same => ?_, fun k found i present same => ?_⟩
  · exact Nat.le_of_eq (Array.size_push _).symm
  · subst same
    rw [Array.getElem?_push_size] at present
    cases present
    exact holds
  · obtain ⟨inside, -⟩ := housed.scans k found i present same
    rw [Array.size_push]
    exact ⟨Nat.lt_succ_of_lt inside, fun last => absurd last (Nat.ne_of_lt inside)⟩

end Workspace

end FeatureLayers
