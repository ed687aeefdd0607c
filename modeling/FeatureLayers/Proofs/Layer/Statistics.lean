import FeatureLayers.Layer.Features
import FeatureLayers.Layer.Statistics
import FeatureLayers.Proofs.Scan.Opening

namespace FeatureLayers.Layer

open Warehouse (Session)
open Warehouse.Action (Frame Keeps)

section Keeping

variable {R : Session → Session → Prop} (frame : Frame R) (l : Layer)

include frame

theorem countRows_keeps (endpoint : Warehouse.Endpoint) (fromText : String) : Keeps R (countRows endpoint fromText) :=
  frame.bind (frame.rows _ _) fun _ => frame.pure _

theorem featureCount_keeps : Keeps R l.featureCount := by
  unfold featureCount
  split
  · exact frame.pure _
  · exact frame.pure _
  · exact frame.bind (countRows_keeps frame _ _) fun _ => frame.pure _

theorem extent_keeps : Keeps R l.extent := by
  unfold extent
  split
  · exact frame.pure _
  · split
    · exact frame.pure _
    · exact frame.pure _
    · exact frame.bind (frame.rows _ _) fun _ => frame.pure _

theorem uniqueValues_keeps (field : String) (limit : Option Nat) : Keeps R (l.uniqueValues field limit) := by
  unfold uniqueValues
  split
  · exact frame.throw _
  · exact frame.bind (frame.rows _ _) fun _ => frame.pure _

theorem isView_keeps : Keeps R l.isView := by
  unfold isView
  split
  · exact frame.pure _
  · exact frame.bind (frame.rows _ _) fun _ => frame.pure _

theorem explain_keeps (request : Request) : Keeps R (l.explain request) := by
  refine frame.bind (Scan.requireSpec_keeps frame _) fun spec => ?_
  exact frame.bind (Scan.plan_keeps frame _ _ _) fun _ => frame.pure _

end Keeping

def countText (l : Layer) : String := "SELECT COUNT(*) FROM " ++ (l.fromClause ++ l.whereText l.countGuards)

/-- What is remembered about the layer was answered between these sessions, under the filter that is set now. -/
structure Remembers (l : Layer) (since now : Session) : Prop where
  count : ∀ count, l.countCache = some count →
    ∃ rows, since.AnsweredSince now (l.base.endpoint.command l.countText) rows ∧ count = firstCount rows
  extent : ∀ spec extent, l.spec = some spec → l.extentCache = some extent →
    ∃ rows, since.AnsweredSince now (l.base.endpoint.command (l.extentText spec)) rows ∧ extent = extentOfRows rows

variable {l l' : Layer} {since s s' : Session}

theorem Remembers.later (remembers : l.Remembers since s) (precedes : s.Precedes s') : l.Remembers since s' where
  count count cached := by
    obtain ⟨rows, answered, same⟩ := remembers.count count cached
    exact ⟨rows, answered.within (.refl _) precedes, same⟩
  extent spec extent found cached := by
    obtain ⟨rows, answered, same⟩ := remembers.extent spec extent found cached
    exact ⟨rows, answered.within (.refl _) precedes, same⟩

theorem Remembers.nothing (noCount : l.countCache = none) (noExtent : l.extentCache = none) : l.Remembers since s where
  count count cached := by cases noCount.symm.trans cached
  extent spec extent found cached := by cases noExtent.symm.trans cached

theorem wholeInMemory?_unloaded (unloaded : l.store.features = none) : l.wholeInMemory? = none := by
  unfold wholeInMemory?
  rw [unloaded, ite_self]

theorem featureCount_left {count : Nat} (h : l.featureCount.run s = (.ok (count, l'), s')) :
    l' = { l with countCache := l'.countCache } := by
  unfold Layer.featureCount at h
  split at h
  · cases h
    rfl
  · cases h
    rfl
  · obtain ⟨counted, s₁, counts, returned⟩ := Warehouse.Action.bind_ok h
    cases returned
    rfl

theorem extent_left {extent : Option BoundingBox} (h : l.extent.run s = (.ok (extent, l'), s')) :
    l' = { l with extentCache := l'.extentCache } := by
  unfold Layer.extent at h
  split at h
  · cases h
    rfl
  · split at h
    · cases h
      rfl
    · cases h
      rfl
    · obtain ⟨rows, s₁, asked, returned⟩ := Warehouse.Action.bind_ok h
      cases returned
      rfl

theorem Remembers.featureCount {count : Nat} (remembers : l.Remembers since s) (started : since.Precedes s)
    (h : l.featureCount.run s = (.ok (count, l'), s')) :
    l'.Remembers since s' ∧ (l.wholeInMemory? = none →
      ∃ rows, since.AnsweredSince s' (l.base.endpoint.command l.countText) rows ∧ count = firstCount rows) := by
  unfold Layer.featureCount at h
  cases whole : l.wholeInMemory? with
  | some features =>
    rw [whole] at h
    cases h
    exact ⟨remembers, nofun⟩
  | none =>
    rw [whole] at h
    cases cached : l.countCache with
    | some known =>
      rw [cached] at h
      cases h
      exact ⟨remembers, fun _ => remembers.count count cached⟩
    | none =>
      rw [cached] at h
      obtain ⟨counted, s₁, counts, returned⟩ := Warehouse.Action.bind_ok h
      obtain ⟨rows, s₂, asked, found⟩ := Warehouse.Action.bind_ok counts
      cases returned
      cases found
      have answered := (queryAll_ok asked).within started (.refl _)
      have precedes := (Warehouse.Action.precedes_frame.rows _ _).outcome asked
      refine ⟨⟨fun count same => ?_, (remembers.later precedes).extent⟩, fun _ => ⟨rows, answered, rfl⟩⟩
      cases same
      exact ⟨rows, answered, rfl⟩

theorem Remembers.extentFound {extent : Option BoundingBox} (remembers : l.Remembers since s)
    (started : since.Precedes s) (h : l.extent.run s = (.ok (extent, l'), s')) :
    l'.Remembers since s' ∧ ∀ spec, l.spec = some spec → l.wholeInMemory? = none →
      ∃ rows, since.AnsweredSince s' (l.base.endpoint.command (l.extentText spec)) rows ∧
        extent = extentOfRows rows := by
  unfold Layer.extent at h
  split at h
  · rename_i missing
    cases h
    refine ⟨remembers, fun spec found => ?_⟩
    cases missing.symm.trans found
  rename_i spec found
  cases whole : l.wholeInMemory? with
  | some features =>
    rw [whole] at h
    cases h
    exact ⟨remembers, nofun⟩
  | none =>
    rw [whole] at h
    have one : ∀ {spec'}, l.spec = some spec' → spec' = spec := fun found' => Option.some.inj (found'.symm.trans found)
    cases cached : l.extentCache with
    | some known =>
      rw [cached] at h
      cases h
      exact ⟨remembers, fun spec' found' _ => remembers.extent spec' extent found' cached⟩
    | none =>
      rw [cached] at h
      obtain ⟨rows, s₁, asked, returned⟩ := Warehouse.Action.bind_ok h
      cases returned
      have answered := (queryAll_ok asked).within started (.refl _)
      have precedes := (Warehouse.Action.precedes_frame.rows _ _).outcome asked
      refine ⟨⟨(remembers.later precedes).count, fun spec' extent found' same => ?_⟩, fun spec' found' _ => ?_⟩
      · cases same
        obtain rfl := one found'
        exact ⟨rows, answered, rfl⟩
      · obtain rfl := one found'
        exact ⟨rows, answered, rfl⟩

end FeatureLayers.Layer
