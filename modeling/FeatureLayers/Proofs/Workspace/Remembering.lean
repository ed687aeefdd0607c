import FeatureLayers.Proofs.Layer.Remembering
import FeatureLayers.Proofs.Workspace.Lasting

namespace FeatureLayers

open Warehouse (Session)

namespace Layer

variable {l l' : Layer} {since s s' : Session}

theorem Course.elsewhere (course : Course since l s) (store : Store) (transforms : List Crs.Transform)
    (precedes : s.Precedes s') : Course since { l with store, base := { l.base with transforms } } s' :=
  .onward course (.elsewhere .none store transforms precedes)

theorem Course.later (course : Course since l s) (precedes : s.Precedes s') : Course since l s' :=
  course.elsewhere l.store l.base.transforms precedes

theorem Course.called (course : Course since l s) (call : Call) :
    ∃ since', Course since' (l.called s call).1 (l.called s call).2 := by
  by_cases refilters : l.Refilters s call
  · exact ⟨_, .refiltered course refilters⟩
  · exact ⟨since, .onward course (.called .none call refilters)⟩

theorem Course.inquire {inquiry : Inquiry} (course : Course since l s)
    (h : (l.inquire inquiry).run s = (.ok ((), l'), s')) : ∃ since', Course since' l' s' := by
  have precedes := (l.inquire_keeps Warehouse.Action.precedes_frame inquiry).outcome h
  rcases Layer.inquire_cases h with rfl | ⟨count, counted⟩ | ⟨extent, measured⟩
  · exact ⟨since, course.later precedes⟩
  · have onward := course.called .featureCount
    rwa [Layer.called, counted] at onward
  · have onward := course.called .extent
    rwa [Layer.called, measured] at onward

theorem loadAll_left {count : Nat} (h : l.loadAll.run s = (.ok (count, l'), s')) : l' = { l with store := l'.store } := by
  cases loaded : l.store.features with
  | some features =>
    rw [loadAll_loaded loaded] at h
    cases h
    rfl
  | none =>
    rw [loadAll_run loaded] at h
    rcases opens : (l.getFeatures .all).run s with ⟨e | scan, s₁⟩
    · rw [opens] at h
      cases h
    · rw [opens] at h
      dsimp only at h
      rcases collected : Run.collectRemaining ⟨scan, s₁, l.store⟩ with ⟨e | features, last⟩
      · rw [collected] at h
        cases h
      · rw [collected] at h
        cases h
        rfl

end Layer

namespace Workspace

open Layer (Course)

theorem courses_last (activity : Activity) :
    Lasting 0 (fun _ l s => ∃ since, Course since l s) (fun _ _ => True) activity where
  later holds precedes := holds.imp fun _ course => course.later precedes
  opens _ opened := ⟨_, .opened opened⟩
  registers {_ l _} transform holds :=
    holds.imp fun _ course => course.elsewhere l.store (l.base.transforms ++ [transform]) (.refl _)
  filters {_ _ filter _ _ _ _} holds filtered := by
    obtain ⟨since, course⟩ := holds
    have onward := course.called (.setSubset filter)
    rwa [Layer.called, filtered] at onward
  loads {_ l _ _ _ _} holds loaded := by
    obtain ⟨since, course⟩ := holds
    rw [Layer.loadAll_left loaded]
    exact ⟨since, course.elsewhere _ l.base.transforms (l.loadAll_keeps.outcome loaded)⟩
  inquires holds inquired := by
    obtain ⟨since, course⟩ := holds
    exact course.inquire inquired
  adopts {_ l features _ _ _} _ holds adopted := by
    obtain ⟨since, course⟩ := holds
    have precedes := (l.adopt_keeps Warehouse.Action.precedes_frame features).outcome adopted
    obtain ⟨⟨⟩, s₁, noted, returned⟩ := Warehouse.Action.bind_ok adopted
    cases returned
    exact ⟨since, course.elsewhere _ l.base.transforms precedes⟩
  begins _ _ _ := trivial
  used run use _ :=
    ⟨trivial, fun l _ holds _ => holds.imp fun _ course => course.elsewhere _ l.base.transforms (.refl _)⟩

/-- Every layer of a workspace is in a course, whatever was done. -/
theorem layer_has_course (session : Session) (activities : List Activity) (i : Nat) (l : Layer)
    (present : ((start session).engaged activities).layers[i]? = some l) :
    ∃ since, Course since l ((start session).engaged activities).session := by
  have begun : (start session).Throughout 0 (fun _ l s => ∃ since, Course since l s) fun _ _ => True := by
    refine ⟨Nat.zero_le _, fun i l present => ?_, fun k found i present => ?_⟩
    · simp [start] at present
    · simp [start, scan?] at present
  exact (begun.engaged fun activity _ => courses_last activity).layers i l present

end Workspace

end FeatureLayers
