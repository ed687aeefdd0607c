import FeatureLayers.Proofs.Workspace.Soundness

namespace FeatureLayers.Workspace

open Warehouse (Session)

/-- A warehouse with two rows, one of which does not decode; it accepts any filter. -/
def twoRows : Session := .start fun number _ => match number with
  | 0 => .rows [] [] fun _ => .none
  | 1 => .rows [] [[.int 2]] fun _ => .none
  | _ => .rows [] [[.null, .null, .int 7], [.null]] fun _ => .none

def openPoints : Operation :=
  .openLayer ⟨"c", .query "q", some "G", some .point, some .geometry, some 4326, none⟩ .unset .standard

/--
Whatever is done, with whatever failures, a loaded layer holds the features of all rows of one answer to a statement for
all of it. Loading a layer that is not sampled, when it succeeds, leaves it loaded with as many features as it reports.
-/
theorem loaded_layer_is_whole (session : Session) (operations : List Operation) (i : Nat) (l : Layer)
    (here : (after session operations).layers[i]? = some l) :
    (∀ features, l.store.features = some features →
      ∃ filter, l.Whole (after session operations).session filter features) ∧
    ∀ count w', (after session operations).onLayer i Layer.loadAll = some (.ok count, w') → l.isLimited = false →
      ∃ l' filter features, w'.layers[i]? = some l' ∧ l'.store.features = some features ∧ features.length = count ∧
        l'.Whole w'.session filter features := by
  have kept := (after_sound session operations).layers i l here
  refine ⟨fun features loaded => ?_, fun count w' loads unlimited => ?_⟩
  · obtain ⟨filter, whole, -⟩ := kept.sound features loaded
    exact ⟨filter, whole⟩
  · unfold onLayer act at loads
    rw [here] at loads
    rcases acted : l.loadAll.run (after session operations).session with ⟨outcome, s'⟩
    obtain ⟨-, leaves⟩ := kept.loadAll acted
    simp only [Option.map_some, acted, Option.some.injEq] at loads
    cases outcome with
    | error e => cases loads
    | ok leaving =>
      obtain ⟨n, l'⟩ := leaving
      cases loads
      obtain ⟨features, filled, length⟩ := Layer.loadAll_fills kept.unsampled unlimited acted
      obtain ⟨filter, whole, -⟩ := (leaves _ l' rfl).1.sound features filled
      have inside : i < (after session operations).layers.size := (Array.getElem?_eq_some_iff.mp here).1
      exact ⟨l', filter, features, by simp [inside], filled, length, whole⟩

theorem loaded_layer_is_whole_of_two_rows :
    (∃ l features filter, (after twoRows [openPoints, .loadAll 0]).layers[0]? = some l ∧
      l.store.features = some features ∧ features.length = 1 ∧
      l.Whole (after twoRows [openPoints, .loadAll 0]).session filter features) ∧
    ∃ w' l' features, (after twoRows [openPoints]).onLayer 0 Layer.loadAll = some (.ok 1, w') ∧
      w'.layers[0]? = some l' ∧ l'.store.features = some features ∧ features.length = 1 := by
  refine ⟨?_, ?_⟩
  · have filled : ((after twoRows [openPoints, .loadAll 0]).layers[0]?.bind fun l => l.store.features).map List.length =
        some 1 := by decide +kernel
    obtain ⟨features, loaded, length⟩ := Option.map_eq_some_iff.mp filled
    obtain ⟨l, here, loaded⟩ := Option.bind_eq_some_iff.mp loaded
    obtain ⟨filter, whole⟩ := (loaded_layer_is_whole twoRows [openPoints, .loadAll 0] 0 l here).1 features loaded
    exact ⟨l, features, filter, here, loaded, length, whole⟩
  · have opened : ((after twoRows [openPoints]).layers[0]?.map Layer.isLimited) = some false := by decide +kernel
    obtain ⟨l, here, unlimited⟩ := Option.map_eq_some_iff.mp opened
    have loads : ((after twoRows [openPoints]).onLayer 0 Layer.loadAll).map (·.1.toOption) = some (some 1) := by
      decide +kernel
    obtain ⟨⟨outcome, w'⟩, loads, counted⟩ := Option.map_eq_some_iff.mp loads
    obtain rfl : outcome = .ok 1 := by
      cases outcome <;> cases counted
      rfl
    obtain ⟨l', filter, features, present, loaded, length, -⟩ :=
      (loaded_layer_is_whole twoRows [openPoints] 0 l here).2 1 w' loads unlimited
    exact ⟨w', l', features, loads, present, loaded, length⟩

theorem filter_unique {filter filter' : Option String}
    (same : (filter.map Query.Filter.subset).toList = (filter'.map Query.Filter.subset).toList) : filter = filter' := by
  cases filter <;> cases filter' <;> simp_all

/--
A loaded layer holds the features of its subset filter, unless an outdated scan was rewound, and armed by that for the
generation that the store is still in. Such a scan, when it is rewound and read to its end, does leave the layer loaded
with the features of the filter that it was opened under.
-/
theorem store_is_current_unless_rearmed (session : Session) (operations : List Operation) (i : Nat) (l : Layer)
    (here : (after session operations).layers[i]? = some l) :
    (∀ features, l.store.features = some features →
      ∃ filter, l.Whole (after session operations).session filter features ∧ (filter = l.base.subsetFilter ∨
        Rearmed session operations i l.store.generation filter l.base.subsetFilter)) ∧
    ∀ k generation filter current w₁ w₂ features opened,
      (after session operations).Outdated k i generation filter current →
      (after session operations).onScan k Run.rewind = some (.ok true, w₁) →
      w₁.onScan k Run.collectRemaining = some (.ok features, w₂) → w₂.scan? k = some opened →
      opened.scan.phase = .exhausted →
      ∃ l', w₂.layers[i]? = some l' ∧ l'.store = ⟨some features, generation⟩ ∧ l'.base.subsetFilter = current ∧
        l'.Whole w₂.session filter features ∧ filter ≠ current := by
  have sound := after_sound session operations
  refine ⟨(sound.layers i l here).sound, ?_⟩
  rintro k _ filter current w₁ w₂ features opened
    ⟨scan, _, statement, decoder, found, here', publishes, isOpen, work, filters, rfl, outdated, rfl⟩
    rewound collected last ended
  obtain rfl := Option.some.inj (here.symm.trans here')
  obtain ⟨_, _, layer, here'', tends⟩ := sound.scans k _ found
  cases layer
  obtain rfl := Option.some.inj (here.symm.trans here'')
  obtain ⟨generation, published⟩ := Option.isSome_iff_exists.mp publishes
  obtain ⟨_, _, _, armed⟩ := tends generation published
  cases work.symm.trans armed.work
  obtain rfl := filter_unique (armed.composes.filters.symm.trans filters)
  -- The rewind runs the statement once more and arms the scan for the generation that it begins.
  obtain ⟨next, again, session₁, layers₁, scans₁⟩ := onScan_ok found here rewound
  have found₁ := scans₁ k
  have here₁ := layers₁ i
  rw [if_pos rfl] at found₁ here₁
  obtain ⟨final, reads, session₂, layers₂, scans₂⟩ := onScan_ok found₁ here₁ collected
  rw [session₁] at reads
  rw [scans₂, if_pos rfl] at last
  cases last
  obtain ⟨rows, number, answered, rfl, stored⟩ := Run.rewind_collects isOpen work again reads ended
  refine ⟨{ l with store := final.store }, by rw [layers₂, if_pos rfl], ?_, rfl, ?_, outdated⟩
  · rw [stored, Run.restarted_store, Run.restarted_scan]
    simp [published, Store.offered, Store.publish, Store.invalidate]
  · rw [session₂]
    have composes := armed.composes.later (.stored final.store (Nat.le_refl l.store.generation))
    refine ⟨statement, decoder, number, rows, composes, ?_, rfl⟩
    rw [← armed.endpoint]
    exact answered

theorem store_of_two_rows_is_stale_after_rewind :
    ∃ w₁ w₂ l features generation,
      (after twoRows [openPoints, .getFeatures 0 .all false, .setSubset 0 (some "N")]).onScan 0 Run.rewind =
        some (.ok true, w₁) ∧
      w₁.onScan 0 Run.collectRemaining = some (.ok features, w₂) ∧ w₂.layers[0]? = some l ∧
      l.store = ⟨some features, generation⟩ ∧ l.base.subsetFilter = some "N" ∧ l.Whole w₂.session none features := by
  let w := after twoRows [openPoints, .getFeatures 0 .all false, .setSubset 0 (some "N")]
  have layer : (w.layers[0]?.map fun l => l.base.subsetFilter) = some (some "N") := by decide +kernel
  obtain ⟨l, here, filtered⟩ := Option.map_eq_some_iff.mp layer
  have scan : ((w.scan? 0).map fun o => (o.layer, o.scan.publication.isSome, o.scan.phase.name,
      o.scan.statement?.map (·.filters))) = some (some 0, true, "Streaming", some []) := by decide +kernel
  obtain ⟨⟨scan, layer⟩, found, known⟩ := Option.map_eq_some_iff.mp scan
  simp only [Prod.mk.injEq, Option.map_eq_some_iff] at known
  obtain ⟨rfl, published, streaming, statement, asked, unfiltered⟩ := known
  have isOpen : scan.phase ≠ .closed := by
    rintro closed
    rw [closed] at streaming
    exact absurd streaming (by decide)
  obtain ⟨decoder, work⟩ : ∃ decoder, scan.work = .statement statement decoder := by
    unfold Scan.statement? at asked
    split at asked <;> cases asked
    exact ⟨_, by assumption⟩
  have outdated : w.Outdated 0 0 (l.store.generation + 1) none (some "N") :=
    ⟨scan, l, statement, decoder, found, here, published, isOpen, work, unfiltered, filtered, nofun, rfl⟩
  have passes : ((w.onScan 0 Run.rewind).bind fun r => (r.2.onScan 0 Run.collectRemaining).map fun r' =>
      (r.1.toOption, r'.1.toOption.map List.length, (r'.2.scan? 0).map (·.scan.phase.name))) =
      some (some true, some 1, some "Exhausted") := by decide +kernel
  obtain ⟨⟨outcome, w₁⟩, rewound, rest⟩ := Option.bind_eq_some_iff.mp passes
  obtain ⟨⟨outcome', w₂⟩, collected, same⟩ := Option.map_eq_some_iff.mp rest
  simp only [Prod.mk.injEq, Option.map_eq_some_iff] at same
  obtain ⟨succeeded, ⟨features, succeeded', -⟩, opened, last, phase⟩ := same
  have ended : opened.scan.phase = .exhausted := by
    cases final : opened.scan.phase <;> simp [final, Scan.Phase.name] at phase ⊢
  obtain rfl : outcome = .ok true := by cases outcome <;> cases succeeded; rfl
  obtain rfl : outcome' = .ok features := by cases outcome' <;> cases succeeded'; rfl
  obtain ⟨l', here', stored, current, whole, -⟩ :=
    (store_is_current_unless_rearmed twoRows _ 0 l here).2 0 _ none (some "N") w₁ w₂ features opened outdated rewound
      collected last ended
  exact ⟨w₁, w₂, l', features, _, rewound, collected, here', stored, current, whole⟩

/-- A scan that was opened before the filter was set is rewound and read again. -/
theorem rewound_scan_fills_store_with_stale_features :
    ¬ ∀ (session : Session) (operations : List Operation) (i : Nat) (l : Layer) (features : List Feature),
      (after session operations).layers[i]? = some l → l.store.features = some features →
        l.Whole (after session operations).session l.base.subsetFilter features := by
  intro always
  let operations : List Operation :=
    [openPoints, .getFeatures 0 .all false, .setSubset 0 (some "N"), .use 0 .rewind, .use 0 .collectRemaining]
  have filled : ((after twoRows operations).layers[0]?.bind fun l => l.store.features).isSome = true := by
    decide +kernel
  obtain ⟨features, loaded⟩ := Option.isSome_iff_exists.mp filled
  obtain ⟨l, here, loaded⟩ := Option.bind_eq_some_iff.mp loaded
  have whole := always twoRows operations 0 l features here loaded
  obtain ⟨statement, decoder, number, rows, composes, ⟨entry, -⟩, -⟩ := whole
  obtain ⟨spec, found, composed⟩ := composes.all
  have never : ((after twoRows operations).layers[0]?.bind fun l => l.spec.bind fun spec =>
      (Query.compose (Scan.queryPlan l.base spec) .all none none).toOption.map fun statement =>
        (after twoRows operations).session.log.toList.all fun entry => entry.sql ≠ statement.toSql) = some true := by
    decide +kernel
  have composed : Query.compose (Scan.queryPlan l.base spec) .all none none = .ok statement := composed
  rw [here, Option.bind_some, found, Option.bind_some, composed] at never
  simp only [Except.toOption, Option.map_some, Option.some.injEq, List.all_eq_true] at never
  have different := never _ (List.mem_of_getElem? entry)
  simp only [decide_eq_true_eq] at different
  exact different rfl

end FeatureLayers.Workspace
