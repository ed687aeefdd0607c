import FeatureLayers.Preview.Group
import FeatureLayers.Proofs.Distinct
import FeatureLayers.Proofs.Wkb.Canonical

namespace FeatureLayers.FeatureGroup

def decoded? (row : Row) : Option (Geometry × List Value) :=
  match row.getLast? with
  | some (.binary bytes) => (Wkb.read bytes).toOption.map (·, row.dropLast)
  | _ => none

def numbered : (Geometry × List Value) × Nat → Feature
  | ((g, attributes), number) => ⟨number, some g, attributes⟩

def featuresOf (rows : List Row) : List Feature := (rows.filterMap decoded?).zipIdx.map numbered

def kindOf? (f : Feature) : Option GeometryKind := f.geometry.bind Geometry.kind?

def gathered (features : List Feature) (kind : GeometryKind) : FeatureGroup :=
  ⟨kind, (features.filter (kindOf? · = some kind)).toArray⟩

def grouped (features : List Feature) : List FeatureGroup :=
  (features.filterMap kindOf?).eraseDups.map (gathered features)

/-- The groups hold the features of the rows, each one in the group of its kind and none twice. -/
structure Partitions (rows : List Row) (groups : List FeatureGroup) : Prop where
  distinct : (groups.map (·.kind)).Nodup
  ordered : groups.map (·.kind) = ((featuresOf rows).filterMap kindOf?).eraseDups
  placed : ∀ group ∈ groups, group.features.toList = (featuresOf rows).filter (kindOf? · = some group.kind)
  merged : (groups.flatMap (·.features.toList)).mergeSort (·.id ≤ ·.id) = featuresOf rows

section Adding

variable {features : List Feature} {f : Feature} {kind : GeometryKind}

theorem gathered_same (kinded : kindOf? f = some kind) :
    gathered (features ++ [f]) kind =
      { gathered features kind with features := (gathered features kind).features.push f } := by
  simp [gathered, kinded]

theorem gathered_other {other : GeometryKind} (kinded : kindOf? f = some kind) (unlike : other ≠ kind) :
    gathered (features ++ [f]) other = gathered features other := by
  simp [gathered, kinded, unlike.symm]

theorem add_gathered {kinds : List GeometryKind} (kinded : kindOf? f = some kind) (distinct : kinds.Nodup)
    (fresh : kind ∉ kinds → ∀ g ∈ features, kindOf? g ≠ some kind) : add kind f (kinds.map (gathered features)) =
      (if kind ∈ kinds then kinds else kinds ++ [kind]).map (gathered (features ++ [f])) := by
  induction kinds with
  | nil =>
    have empty : gathered features kind = ⟨kind, #[]⟩ := by
      have none : features.filter (kindOf? · = some kind) = [] := by
        simpa using fresh
      rw [gathered, none]
    simp [add, gathered_same kinded, empty]
  | cons first kinds ih =>
    obtain ⟨unlike, distinct⟩ := List.nodup_cons.mp distinct
    rw [List.map_cons, add]
    by_cases here : first = kind
    · subst here
      have rest : kinds.map (gathered features) = kinds.map (gathered (features ++ [f])) :=
        List.map_congr_left fun other member =>
          (gathered_other kinded fun meets => unlike (meets ▸ member)).symm
      simp [gathered, rest, kinded]
    · have inside : kind ∈ first :: kinds ↔ kind ∈ kinds := by simp [Ne.symm here]
      have apart : (gathered features first).kind ≠ kind := here
      rw [if_neg apart, ih distinct fun absent => fresh (mt inside.mp absent)]
      by_cases known : kind ∈ kinds
      · rw [if_pos known, if_pos (inside.mpr known), List.map_cons, gathered_other kinded here]
      · rw [if_neg known, if_neg (mt inside.mp known), List.cons_append, List.map_cons, gathered_other kinded here]

def place (groups : List FeatureGroup) (f : Feature) : List FeatureGroup :=
  match kindOf? f with
  | some kind => add kind f groups
  | none => groups

theorem place_grouped (kinded : kindOf? f = some kind) : place (grouped features) f = grouped (features ++ [f]) := by
  have kinds : (features ++ [f]).filterMap kindOf? = features.filterMap kindOf? ++ [kind] := by
    simp [kinded]
  have fresh : kind ∉ (features.filterMap kindOf?).eraseDups → ∀ g ∈ features, kindOf? g ≠ some kind := by
    intro absent g member same
    exact absent (List.mem_eraseDups.mpr (List.mem_filterMap.mpr ⟨g, member, same⟩))
  rw [grouped, grouped, kinds, eraseDups_snoc]
  simp only [place, kinded]
  rw [add_gathered kinded (eraseDups_nodup _) fresh]
  simp only [List.mem_eraseDups]

theorem foldl_place (kinded : ∀ f ∈ features, (kindOf? f).isSome) : features.foldl place [] = grouped features := by
  induction features using List.reverseRecOn with
  | nil => rfl
  | append_singleton features f ih =>
    obtain ⟨kind, same⟩ := Option.isSome_iff_exists.mp (kinded f (by simp))
    rw [List.foldl_append, ih fun g member => kinded g (by simp [member])]
    exact place_grouped same

end Adding

section Rows

variable {row : Row} {g : Geometry} {attributes : List Value}

theorem kind?_of_read {bytes : List UInt8} (read : Wkb.read bytes = .ok g) : g.kind?.isSome := by
  have accepted : Decode.readWkb bytes = .ok g := by rw [Decode.readWkb, read]; rfl
  exact (Wkb.sound_of_accepted accepted).typed _ g.self_mem_headers

theorem decoded?_eq (row : Row) : decoded? row = (geometryOf? (payloadOf row)).map (·, row.dropLast) := by
  unfold decoded? payloadOf
  cases row.getLast? with
  | none => rfl
  | some payload => cases payload <;> rfl

theorem kind?_of_payload {payload : Value} (decodes : geometryOf? payload = some g) : g.kind?.isSome := by
  unfold geometryOf? at decodes
  split at decodes
  · rename_i bytes
    cases read : Wkb.read bytes with
    | ok found =>
      rw [read] at decodes
      cases decodes
      exact kind?_of_read read
    | error fault =>
      rw [read] at decodes
      cases decodes
  · cases decodes

theorem takeRow_eq (p : Progress) (row : Row) : p.takeRow row = match decoded? row with
    | none => p
    | some decoded => ⟨place p.groups (numbered (decoded, p.nextId)), p.nextId + 1⟩ := by
  rw [decoded?_eq, Progress.takeRow]
  cases decodes : geometryOf? (payloadOf row) with
  | none => rfl
  | some g =>
    obtain ⟨kind, kinded⟩ := Option.isSome_iff_exists.mp (kind?_of_payload decodes)
    simp [place, numbered, kindOf?, kinded]

theorem foldl_takeRow (rows : List Row) (p : Progress) : (rows.foldl Progress.takeRow p).groups =
    (((rows.filterMap decoded?).zipIdx p.nextId).map numbered).foldl place p.groups := by
  induction rows generalizing p with
  | nil => rfl
  | cons row rows ih =>
    rw [List.foldl_cons, ih, takeRow_eq]
    cases decoded : decoded? row with
    | none => simp [decoded]
    | some pair => simp [decoded, List.zipIdx_cons]

theorem kinded_of_mem {rows : List Row} {f : Feature} (member : f ∈ featuresOf rows) : (kindOf? f).isSome := by
  obtain ⟨⟨decoded, number⟩, inside, rfl⟩ := List.mem_map.mp member
  obtain ⟨row, -, found⟩ := List.mem_filterMap.mp (List.fst_mem_of_mem_zipIdx inside)
  rw [decoded?_eq] at found
  obtain ⟨g, decodes, rfl⟩ := Option.map_eq_some_iff.mp found
  exact kind?_of_payload decodes

theorem groups_of_rows (rows : List Row) :
    (rows.foldl Progress.takeRow ⟨[], 0⟩).groups = grouped (featuresOf rows) := by
  rw [foldl_takeRow]
  exact foldl_place fun f member => kinded_of_mem member

end Rows

section Merging

variable {features : List Feature}

theorem flatMap_gathered_perm {kinds : List GeometryKind} (distinct : kinds.Nodup) :
    (kinds.flatMap fun kind => (gathered features kind).features.toList).Perm
      (features.filter fun f => kinds.any fun kind => kindOf? f = some kind) := by
  induction kinds with
  | nil => simp
  | cons first kinds ih =>
    obtain ⟨unlike, distinct⟩ := List.nodup_cons.mp distinct
    let shown := features.filter fun f => (first :: kinds).any fun kind => kindOf? f = some kind
    have own : shown.filter (kindOf? · = some first) = (gathered features first).features.toList := by
      simp only [shown, gathered, List.filter_filter]
      refine List.filter_congr fun f _ => ?_
      by_cases same : kindOf? f = some first <;> simp [same]
    have others : shown.filter (fun f => !decide (kindOf? f = some first)) =
        features.filter fun f => kinds.any fun kind => kindOf? f = some kind := by
      simp only [shown, List.filter_filter]
      refine List.filter_congr fun f _ => ?_
      by_cases same : kindOf? f = some first
      · have apart : ∀ kind ∈ kinds, first ≠ kind := fun kind member meets => unlike (meets ▸ member)
        simpa [same] using apart
      · simp [same]
    have split := List.filter_append_perm (fun f => decide (kindOf? f = some first)) shown
    rw [own, others] at split
    exact ((List.Perm.refl _).append (ih distinct)).trans split

theorem featuresOf_ids (rows : List Row) :
    (featuresOf rows).map (·.id) = (List.range (featuresOf rows).length).map Int.ofNat := by
  have ids : (featuresOf rows).map (·.id) = ((rows.filterMap decoded?).zipIdx.map Prod.snd).map Int.ofNat := by
    rw [featuresOf, List.map_map, List.map_map]
    rfl
  rw [ids, List.zipIdx_map_snd, featuresOf, List.length_map, List.length_zipIdx, List.range_eq_range']

theorem mergeSort_grouped (rows : List Row) :
    ((grouped (featuresOf rows)).flatMap (·.features.toList)).mergeSort (·.id ≤ ·.id) = featuresOf rows := by
  let features := featuresOf rows
  let kinds := (features.filterMap kindOf?).eraseDups
  have held : ((grouped features).flatMap (·.features.toList)).Perm features := by
    have all : features.filter (fun f => kinds.any fun kind => kindOf? f = some kind) = features := by
      refine List.filter_eq_self.mpr fun f member => ?_
      obtain ⟨kind, same⟩ := Option.isSome_iff_exists.mp (kinded_of_mem member)
      have known : kind ∈ kinds := List.mem_eraseDups.mpr (List.mem_filterMap.mpr ⟨f, member, same⟩)
      exact List.any_eq_true.mpr ⟨kind, known, decide_eq_true same⟩
    rw [grouped, List.flatMap_map]
    exact (flatMap_gathered_perm (eraseDups_nodup _)).trans (.of_eq all)
  have ascending : (features.map (·.id)).Pairwise (· < ·) := by
    rw [featuresOf_ids]
    exact List.pairwise_map.mpr (List.pairwise_lt_range.imp fun less => by simpa using less)
  have sorted : features.Pairwise fun f g => f.id < g.id := List.pairwise_map.mp ascending
  have merged := List.mergeSort_perm ((grouped features).flatMap (·.features.toList)) (·.id ≤ ·.id)
  have ordered : (((grouped features).flatMap (·.features.toList)).mergeSort (·.id ≤ ·.id)).Pairwise
      fun f g => f.id ≤ g.id := by
    have trans (f g h : Feature) : decide (f.id ≤ g.id) → decide (g.id ≤ h.id) → decide (f.id ≤ h.id) := by
      simpa using Int.le_trans
    have total (f g : Feature) : (decide (f.id ≤ g.id) || decide (g.id ≤ f.id)) = true := by
      simpa using Int.le_total f.id g.id
    simpa using List.pairwise_mergeSort trans total ((grouped features).flatMap (·.features.toList))
  refine (merged.trans held).eq_of_pairwise ?_ ordered (sorted.imp Int.le_of_lt)
  intro f g inside member le ge
  have distinct : (features.map (·.id)).Nodup := ascending.imp Int.ne_of_lt
  exact List.inj_on_of_nodup_map distinct ((merged.trans held).subset inside) member (Int.le_antisymm le ge)

end Merging

end FeatureLayers.FeatureGroup
