import FeatureLayers.Proofs.Layer.Loading
import FeatureLayers.Proofs.Workspace.Operation
import Mathlib.Data.List.Induction

namespace FeatureLayers

open Warehouse (Session)

theorem Run.Fits.used {l : Layer} {excuse : Layer.Excuse} {start run : Run} (fits : Fits l excuse start run) (use : Use)
    (renews : ∀ generation filter statement decoder, use = .rewind → run.scan.publication = some generation →
      run.scan.phase ≠ .closed →
      l.Armed excuse run.session run.store run.scan generation filter statement decoder →
      l.Admits excuse (run.store.generation + 1) filter) :
    Fits l excuse start (run.used use) := by
  cases use with
  | fetchNext => exact (Fits.lasting l excuse start).fetchNext fits
  | featureAt position => exact (Fits.lasting l excuse start).featureAt position fits
  | collectRemaining => exact (Fits.lasting l excuse start).collectRemaining fits
  | rewind => exact fits.rewind fun _ _ _ _ => renews _ _ _ _ rfl
  | close => exact fits.close
  | takeMaterialized =>
    refine fits.onward (.refl _) rfl rfl rfl rfl fun statement decoder result buffer isDrained _ streams => ?_
    refine ⟨result, buffer, isDrained, streams, fun rows reads => ?_⟩
    have kept : run.scan.cache.take.2 = run.scan.cache := by simp [Cache.take, reads.unfinished]
    simp only [Run.used, takeMaterialized, kept]
    exact reads
  | cancel polls =>
    simp only [Run.used, cancelAfter]
    split
    · exact fits.onward (.refl _) rfl rfl rfl rfl fun _ _ result buffer isDrained _ streams =>
        ⟨result, buffer, isDrained, streams, fun rows reads => { reads with }⟩
    · exact fits.onward (.of_eq rfl rfl) rfl rfl rfl rfl fun _ _ result buffer isDrained _ streams =>
        ⟨result, buffer, isDrained, streams, fun rows reads => reads⟩

namespace Workspace

/-- Layers are sound, and every scan that publishes belongs to one and tends to keep it so. -/
structure Sound (excuse : Nat → Layer.Excuse) (w : Workspace) : Prop where
  layers : ∀ i (l : Layer), w.layers[i]? = some l → l.Kept (excuse i) w.session
  scans : ∀ k opened, w.scan? k = some opened →
    ∃ i, ∃ l : Layer, opened.layer = some i ∧ w.layers[i]? = some l ∧
      l.Tends (excuse i) w.session l.store opened.scan

variable {excuse excuse' : Nat → Layer.Excuse} {w w' : Workspace} {i k : Nat} {l l' : Layer}

theorem start_sound (session : Session) : (start session).Sound excuse :=
  ⟨fun i l present => by simp [start] at present, fun k opened present => by simp [start, scan?] at present⟩

theorem Sound.later (sound : w.Sound excuse) (precedes : w.session.Precedes w'.session) (layers : w'.layers = w.layers)
    (scans : w'.scans = w.scans)
    (excused : ∀ i, (excuse i).Within (excuse' i)) :
    w'.Sound excuse' where
  layers i l present := (sound.layers i l (layers ▸ present)).later precedes (excused i)
  scans k opened present := by
    obtain ⟨i, l, layer, found, tends⟩ := sound.scans k opened (by rw [← present, scan?, scan?, scans])
    exact ⟨i, l, layer, layers ▸ found, tends.later (.of_le (Nat.le_refl _)) precedes (excused i)⟩

theorem Sound.evolve (sound : w.Sound excuse) (l' : Layer) (here : w.layers[i]? = some l)
    (precedes : w.session.Precedes w'.session)
    (excused : ∀ i, (excuse i).Within (excuse' i))
    (kept : l'.Kept (excuse' i) w'.session) (onward : l.Onward l.store l' l'.store)
    (layers : ∀ j, w'.layers[j]? = if i = j then some l' else w.layers[j]?)
    (scans : ∀ k opened, w'.scan? k = some opened → w.scan? k = some opened ∨
      opened.layer = some i ∧ l'.Tends (excuse' i) w'.session l'.store opened.scan) :
    w'.Sound excuse' where
  layers j m present := by
    rw [layers] at present
    split at present
    · rename_i same
      cases present
      exact same ▸ kept
    · exact (sound.layers j m present).later precedes (excused j)
  scans k opened present := by
    rcases scans k opened present with before | ⟨layer, tends⟩
    · obtain ⟨j, m, layer, found, tends⟩ := sound.scans k opened before
      by_cases same : i = j
      · subst same
        obtain rfl : l = m := Option.some.inj (here.symm.trans found)
        exact ⟨i, l', layer, by rw [layers, if_pos rfl], tends.later onward precedes (excused i)⟩
      · have still := tends.later (.of_le (Nat.le_refl _)) precedes (excused j)
        exact ⟨j, m, layer, by rw [layers, if_neg same, found], still⟩
    · exact ⟨i, l', layer, by rw [layers, if_pos rfl], tends⟩

theorem Sound.openLayer (sound : w.Sound excuse) (d : Descriptor) (context : Warehouse.Context) (settings : Settings)
    (excused : ∀ i, (excuse i).Within (excuse' i)) :
    (w.openLayer d context settings).2.Sound excuse' := by
  have precedes := Layer.ofDescriptor_keeps Warehouse.Action.precedes_frame d context settings w.session
  unfold Workspace.openLayer act
  rcases opened : (Layer.ofDescriptor d context settings).run w.session with ⟨outcome, session⟩
  rw [opened] at precedes
  cases outcome with
  | error e => exact sound.later precedes rfl rfl excused
  | ok l =>
    have next : Sound excuse' { w with session } := sound.later precedes rfl rfl excused
    refine ⟨fun i m present => ?_, fun k opened present => ?_⟩
    · simp only [Array.getElem?_push] at present
      split at present
      · cases present
        exact Layer.ofDescriptor_ok opened
      · exact next.layers i m present
    · obtain ⟨i, m, layer, found, tends⟩ := next.scans k opened present
      have inside : i < w.layers.size := (Array.getElem?_eq_some_iff.mp found).1
      refine ⟨i, m, layer, ?_, tends⟩
      simp only [Array.getElem?_push, if_neg (Nat.ne_of_lt inside)]
      exact found

theorem Sound.onLayer {α : Type} {action : Layer → Layer.Action (α × Layer)} (sound : w.Sound excuse)
    (excused : ∀ i, (excuse i).Within (excuse' i))
    (keeps : ∀ {l : Layer} {result session}, l.Kept (excuse i) w.session →
      (action l).run w.session = (result, session) → w.session.Precedes session ∧ ∀ a l', result = .ok (a, l') →
        l'.Kept (excuse i) session ∧ l.Onward l.store l' l'.store) :
    (((w.onLayer i action).map Prod.snd).getD w).Sound excuse' := by
  unfold Workspace.onLayer act
  cases here : w.layers[i]? with
  | none => exact sound.later (.refl _) rfl rfl excused
  | some l =>
    rcases acted : (action l).run w.session with ⟨result, session⟩
    obtain ⟨precedes, leaves⟩ := keeps (sound.layers i l here) acted
    simp only [Option.map_some, Option.getD_some]
    rw [acted]
    cases result with
    | error e => exact sound.later precedes rfl rfl excused
    | ok leaving =>
      obtain ⟨a, l'⟩ := leaving
      obtain ⟨kept, onward⟩ := leaves a l' rfl
      have kept := kept.later (.refl _) (excused i)
      refine sound.evolve l' here precedes excused kept onward (fun j => ?_) fun _ _ => .inl
      have inside : i < w.layers.size := (Array.getElem?_eq_some_iff.mp here).1
      simp [Array.getElem?_setIfInBounds, inside]

theorem Sound.getFeatures (sound : w.Sound excuse) (i : Nat) (request : Request) (shared : Bool)
    (excused : ∀ i, (excuse i).Within (excuse' i)) :
    (((w.getFeatures i request shared).map Prod.snd).getD w).Sound excuse' := by
  unfold Workspace.getFeatures openScan act
  cases here : w.layers[i]? with
  | none => exact sound.later (.refl _) rfl rfl excused
  | some l =>
    have kept := sound.layers i l here
    have precedes := Layer.getFeatures_keeps l request w.session
    simp only [Option.map_some, Option.getD_some, Warehouse.Action.run_bind]
    rcases opened : (l.getFeatures request).run w.session with ⟨outcome, session⟩
    rw [opened] at precedes
    cases outcome with
    | error e => exact sound.later precedes rfl rfl excused
    | ok scan =>
      have tends : l.Tends (excuse i) session l.store (if shared then scan.listeningToShared else scan) := by
        split
        · exact (kept.getFeatures opened).listening
        · exact kept.getFeatures opened
      have next : Sound excuse' { w with session } := sound.later precedes rfl rfl excused
      refine ⟨next.layers, fun k found present => ?_⟩
      change (w.scans.push (some ⟨if shared then scan.listeningToShared else scan, some i⟩))[k]?.join =
        some found at present
      rw [Array.getElem?_push] at present
      split at present
      · cases present
        exact ⟨i, l, rfl, here, tends.later (.of_le (Nat.le_refl _)) (.refl _) (excused i)⟩
      · exact next.scans k found present

theorem onScan_ok {α : Type} {operation : Run → α × Run} {a : α} {scan : Scan} (found : w.scan? k = some ⟨scan, some i⟩)
    (here : w.layers[i]? = some l) (h : w.onScan k operation = some (a, w')) :
    ∃ last, operation ⟨scan, w.session, l.store⟩ = (a, last) ∧ w'.session = last.session ∧
      (∀ j, w'.layers[j]? = if i = j then some { l with store := last.store } else w.layers[j]?) ∧
      ∀ m, w'.scan? m = if k = m then some ⟨last.scan, some i⟩ else w.scan? m := by
  have store : w.storeOf (some i) = l.store := by simp [storeOf, here]
  unfold Workspace.onScan at h
  rw [found] at h
  simp only [Option.map_some, store, Option.some.injEq, Prod.mk.injEq] at h
  obtain ⟨rfl, rfl⟩ := h
  refine ⟨_, rfl, rfl, fun j => ?_, fun m => ?_⟩
  · by_cases same : i = j
    · subst same
      simp [setStore, Array.getElem?_modify, here]
    · simp [setStore, Array.getElem?_modify, same]
  · have inside : k < w.scans.size := by
      unfold scan? at found
      by_contra outside
      simp [Array.getElem?_eq_none (Nat.le_of_not_lt outside)] at found
    simp only [setStore, scan?, Array.set!_eq_setIfInBounds, Array.getElem?_setIfInBounds, inside, if_true]
    split <;> rfl

theorem Sound.onScan (sound : w.Sound excuse) (k : Nat) (use : Use)
    (excused : ∀ i, (excuse i).Within (excuse' i))
    (renews : ∀ i l scan generation filter statement decoder, use = .rewind → w.scan? k = some ⟨scan, some i⟩ →
      w.layers[i]? = some l → scan.publication = some generation → scan.phase ≠ .closed →
      Layer.Armed l (excuse' i) w.session l.store scan generation filter statement decoder →
      l.Admits (excuse' i) (l.store.generation + 1) filter) :
    (((w.onScan k fun run => ((), run.used use)).map Prod.snd).getD w).Sound excuse' := by
  rcases left : w.onScan k fun run => ((), run.used use) with _ | ⟨_, w'⟩
  · exact sound.later (.refl _) rfl rfl excused
  obtain ⟨⟨scan, layer⟩, found, -⟩ := Option.map_eq_some_iff.mp left
  obtain ⟨i, l, rfl, here, tends⟩ := sound.scans k _ found
  have kept := (sound.layers i l here).later (.refl _) (excused i)
  let start : Run := ⟨scan, w.session, l.store⟩
  have begun : Run.Fits l (excuse' i) start start :=
    ⟨kept.sound, tends.later (.of_le (Nat.le_refl _)) (.refl _) (excused i), .refl _, Nat.le_refl _⟩
  have fits := begun.used use fun generation filter statement decoder rewinds published isOpen armed =>
    renews i l scan generation filter statement decoder rewinds found here published isOpen armed
  obtain ⟨last, used, session, layers, scans⟩ := onScan_ok found here left
  obtain rfl : start.used use = last := congrArg Prod.snd used
  refine sound.evolve { l with store := (start.used use).store } here (session ▸ fits.precedes) excused ?_
    (.stored _ fits.generation) layers fun m opened present => ?_
  · rw [Option.map_some, Option.getD_some, session]
    exact ⟨fits.sound.later (.stored _ (Nat.le_refl _)) (.refl _) (.refl _), kept.unsampled⟩
  · rw [Option.map_some, Option.getD_some] at present ⊢
    rw [scans] at present
    rw [session]
    split at present
    · cases present
      exact .inr ⟨rfl, fits.tends.later (.stored _ (Nat.le_refl _)) (.refl _) (.refl _)⟩
    · exact .inl present

theorem Sound.dropScan (sound : w.Sound excuse) (k : Nat)
    (excused : ∀ i, (excuse i).Within (excuse' i)) :
    ((w.dropScan k).getD w).Sound excuse' := by
  have closed := sound.onScan k .close excused fun _ _ _ _ _ _ _ rewinds => nomatch rewinds
  unfold Workspace.dropScan
  change ((w.onScan k fun run => ((), run.close)).map Prod.snd |>.getD w).Sound excuse' at closed
  cases outcome : w.onScan k fun run => ((), run.close) with
  | none =>
    rw [outcome] at closed
    exact closed
  | some left =>
    rw [outcome] at closed
    refine ⟨closed.layers, fun m opened present => closed.scans m opened ?_⟩
    change (left.2.scans.set! k none)[m]?.join = some opened at present
    rw [Array.set!_eq_setIfInBounds, Array.getElem?_setIfInBounds] at present
    split at present
    · split at present <;> cases present
    · exact present

/--
An open scan that may publish although the filter of its statement is not the one that is set any more, and the
generation that it is armed for when it is rewound now.
-/
def Outdated (w : Workspace) (k i generation : Nat) (filter current : Option String) : Prop :=
  ∃ scan l statement decoder, w.scan? k = some ⟨scan, some i⟩ ∧ w.layers[i]? = some l ∧
    scan.publication.isSome = true ∧ scan.phase ≠ .closed ∧ scan.work = .statement statement decoder ∧
    statement.filters = (filter.map Query.Filter.subset).toList ∧ l.base.subsetFilter = current ∧ filter ≠ current ∧
    generation = l.store.generation + 1

theorem Sound.perform (sound : w.Sound excuse) (operation : Operation)
    (excused : ∀ i, (excuse i).Within (excuse' i))
    (renews : ∀ k i generation filter current, operation = .use k .rewind →
      w.Outdated k i generation filter current → excuse' i generation filter current) :
    (w.perform operation).Sound excuse' := by
  cases operation with
  | openLayer d context settings => exact sound.openLayer d context settings excused
  | registerTransform layer transform =>
    refine sound.onLayer excused fun {l result session} kept acted => ?_
    cases acted
    refine ⟨.refl _, fun a l' same => ?_⟩
    cases same
    have onward : l.Onward l.store (l.registerTransform transform) l.store := ⟨rfl, rfl, Nat.le_refl _, fun _ => rfl⟩
    exact ⟨⟨kept.sound.later onward (.refl _) (.refl _), kept.unsampled⟩, onward⟩
  | setSubset layer filter =>
    refine sound.onLayer excused fun {l result session} kept acted => ?_
    have precedes := Layer.setSubset_keeps Warehouse.Action.precedes_frame l filter w.session
    rw [acted] at precedes
    refine ⟨precedes, fun a l' same => ?_⟩
    subst same
    exact kept.setSubset acted
  | loadAll layer => exact sound.onLayer excused fun kept acted => kept.loadAll acted
  | getFeatures layer request shared => exact sound.getFeatures layer request shared excused
  | use k use =>
    refine sound.onScan k use excused ?_
    intro i l scan generation filter statement decoder rewinds found here published isOpen armed
    by_cases current : filter = l.base.subsetFilter
    · exact .inl current
    · exact .inr (renews k i _ _ _ (by rw [rewinds]) ⟨scan, l, statement, decoder, found, here, by rw [published]; rfl,
        isOpen, armed.work, armed.composes.filters, rfl, current, rfl⟩)
  | drop k => exact sound.dropScan k excused
  | cancelShared polls => exact sound.later (.of_eq rfl rfl) rfl rfl excused

/-- A rewind of an outdated scan was among the operations, and it armed the scan for this generation. -/
def Rearmed (session : Session) (operations : List Operation) (i generation : Nat) (filter current : Option String) :
    Prop :=
  ∃ before k rest, operations = before ++ .use k .rewind :: rest ∧
    (after session before).Outdated k i generation filter current

theorem after_sound (session : Session) (operations : List Operation) :
    (after session operations).Sound (Rearmed session operations) := by
  induction operations using List.reverseRecOn with
  | nil => exact start_sound session
  | append_singleton operations last ih =>
    rw [after_snoc]
    refine ih.perform last ?_ ?_
    · rintro i generation filter current ⟨before, k, rest, rfl, outdated⟩
      exact ⟨before, k, rest ++ [last], by simp, outdated⟩
    · rintro k i generation filter current rfl outdated
      exact ⟨operations, k, [], rfl, outdated⟩

end Workspace

end FeatureLayers
