import FeatureLayers.Layer.Access
import Mathlib.Data.List.Forall2

namespace FeatureLayers.Warehouse.Action

variable {ε ε' α β : Type} {R : Session → Session → Prop}

section Sequence

variable {σ : Type} {action : ExceptT ε (StateM σ) α} {next : α → ExceptT ε (StateM σ) β} {s s' : σ} {b : β}

theorem run_bind (action : ExceptT ε (StateM σ) α) (next : α → ExceptT ε (StateM σ) β) (s : σ) :
    (action >>= next).run s = match action.run s with
      | (.ok a, s) => (next a).run s
      | (.error e, s) => (.error e, s) := by
  show ExceptT.bindCont next (action.run s).1 (action.run s).2 = _
  rcases action.run s with ⟨result, s⟩
  cases result <;> rfl

theorem bind_ok (h : (action >>= next).run s = (.ok b, s')) :
    ∃ a s₁, action.run s = (.ok a, s₁) ∧ (next a).run s₁ = (.ok b, s') := by
  rw [run_bind] at h
  split at h
  · rename_i a s₁ first
    exact ⟨a, s₁, first, h⟩
  · cases h

end Sequence

theorem note_run (level : Journal.Level) (topic : Journal.Topic) (message : String) (s : Session) :
    (note level topic message : Action ε PUnit).run s = (.ok ⟨⟩, s.note level topic message) := rfl

theorem mapM_run {action : α → Action ε β} {f : α → β} (each : ∀ a s, ∃ s', (action a).run s = (.ok (f a), s'))
    (items : List α) (s : Session) : ∃ s', (items.mapM action).run s = (.ok (items.map f), s') := by
  induction items generalizing s with
  | nil => exact ⟨s, rfl⟩
  | cons item items ih =>
    obtain ⟨s₁, first⟩ := each item s
    obtain ⟨s₂, others⟩ := ih s₁
    refine ⟨s₂, ?_⟩
    rw [List.mapM_cons, run_bind, first]
    dsimp only
    rw [run_bind, others]
    rfl

/-- Relations that hold between the sessions before and after what does not leave a cursor open. -/
structure Frame (R : Session → Session → Prop) : Prop where
  refl : ∀ s, R s s
  trans : ∀ ⦃a b c⦄, R a b → R b c → R a c
  note : ∀ level topic message s, R s (s.note level topic message)
  queryAll : ∀ command s, R s ((queryAll command).run s).2
  queryColumns : ∀ command s, R s ((queryColumns command).run s).2

def Keeps (R : Session → Session → Prop) (action : Action ε α) : Prop := ∀ s, R s (action.run s).2

theorem Keeps.outcome {action : Action ε α} (kept : Keeps R action) {s s' : Session} {result : Except ε α}
    (h : action.run s = (result, s')) : R s s' := by
  have after := kept s
  rwa [h] at after

theorem Keeps.bind (trans : ∀ ⦃a b c⦄, R a b → R b c → R a c) {action : Action ε α} {next : α → Action ε β}
    (first : Keeps R action) (second : ∀ a, Keeps R (next a)) : Keeps R (action >>= next) := by
  intro s
  rw [run_bind]
  have before := first s
  split
  · rename_i a s₁ same
    rw [same] at before
    exact trans before (second a s₁)
  · rename_i e s₁ same
    rwa [same] at before

namespace Frame

theorem pure (frame : Frame R) (a : α) : Keeps R (pure a : Action ε α) := frame.refl

theorem throw (frame : Frame R) (e : ε) : Keeps R (throw e : Action ε α) := frame.refl

theorem bind (frame : Frame R) {action : Action ε α} {next : α → Action ε β} (first : Keeps R action)
    (second : ∀ a, Keeps R (next a)) : Keeps R (action >>= next) :=
  Keeps.bind frame.trans first second

theorem noted (frame : Frame R) (level : Journal.Level) (topic : Journal.Topic) (message : String) :
    Keeps R (Action.note level topic message : Action ε PUnit) := frame.note level topic message

theorem ofExcept (frame : Frame R) (result : Except Layer.Error α) : Keeps R (Layer.ofExcept result) := frame.refl

theorem ofWarehouse {action : Action Error α} (kept : Keeps R action) : Keeps R (Layer.ofWarehouse action) := by
  intro s
  have before := kept s
  change R s (match action.run s with | (r, s) => (r.mapError Layer.Error.warehouse, s)).2
  exact before

theorem attempt {action : Action ε α} (kept : Keeps R action) : Keeps R (attempt action : Action ε' (Except ε α)) :=
  kept

theorem mapM (frame : Frame R) {action : α → Action ε β} (each : ∀ a, Keeps R (action a)) (items : List α) :
    Keeps R (items.mapM action) := by
  induction items with
  | nil => exact frame.pure []
  | cons item items ih =>
    rw [List.mapM_cons]
    exact frame.bind (each item) fun b => frame.bind ih fun bs => frame.pure (b :: bs)

theorem mapM_ok (frame : Frame R) {action : α → Action ε β} (each : ∀ a, Keeps R (action a)) {items : List α}
    {results : List β} {s s' : Session} (h : (items.mapM action).run s = (.ok results, s')) :
    R s s' ∧ List.Forall₂ (fun a b => ∃ s₁ s₂, R s s₁ ∧ (action a).run s₁ = (.ok b, s₂) ∧ R s₂ s') items results := by
  induction items generalizing results s with
  | nil =>
    cases h
    exact ⟨frame.refl _, .nil⟩
  | cons item items ih =>
    rw [List.mapM_cons] at h
    obtain ⟨b, s₁, first, h⟩ := bind_ok h
    obtain ⟨bs, s₂, rest, h⟩ := bind_ok h
    cases h
    have before := (each item).outcome first
    obtain ⟨after, others⟩ := ih rest
    refine ⟨frame.trans before after, .cons ⟨s, s₁, frame.refl s, first, after⟩ (others.imp fun a b done => ?_)⟩
    obtain ⟨t, t', earlier, ran, later⟩ := done
    exact ⟨t, t', frame.trans before earlier, ran, later⟩

theorem filterM (frame : Frame R) {accepts : α → Action ε Bool} (each : ∀ a, Keeps R (accepts a)) (items : List α) :
    Keeps R (items.filterM accepts) := by
  have collects : ∀ items found, Keeps R (List.filterAuxM accepts items found) := by
    intro items
    induction items with
    | nil => exact frame.pure
    | cons item items ih => exact fun found => frame.bind (each item) fun accepted => ih _
  exact frame.bind (collects items []) fun found => frame.pure _

theorem rows (frame : Frame R) (endpoint : Endpoint) (sql : String) : Keeps R (Layer.queryAll endpoint sql) :=
  ofWarehouse (frame.queryAll _)

theorem columns (frame : Frame R) (endpoint : Endpoint) (fromText : String) :
    Keeps R (Layer.describe endpoint fromText) :=
  ofWarehouse (frame.queryColumns _)

end Frame

end FeatureLayers.Warehouse.Action

namespace FeatureLayers.Layer

variable {α : Type}

theorem ofExcept_run (result : Except Error α) (s : Warehouse.Session) : (ofExcept result).run s = (result, s) := rfl

theorem ofWarehouse_run (action : Warehouse.Action Warehouse.Error α) (s : Warehouse.Session) :
    (ofWarehouse action).run s = ((action.run s).1.mapError Error.warehouse, (action.run s).2) := rfl

theorem ofExcept_ok {result : Except Error α} {a : α} {s s' : Warehouse.Session}
    (h : (ofExcept result).run s = (.ok a, s')) : result = .ok a ∧ s' = s := by
  cases h
  exact ⟨rfl, rfl⟩

theorem ofWarehouse_ok {action : Warehouse.Action Warehouse.Error α} {a : α} {s s' : Warehouse.Session}
    (h : (ofWarehouse action).run s = (.ok a, s')) : action.run s = (.ok a, s') := by
  rw [ofWarehouse_run] at h
  rcases outcome : action.run s with ⟨result, after⟩
  rw [outcome] at h
  cases result with
  | ok b => cases h; rfl
  | error e => cases h

end FeatureLayers.Layer

namespace FeatureLayers

theorem ok_of_toOption {ε α : Type} {outcome : Except ε α} {a : α} (some : outcome.toOption = .some a) :
    outcome = .ok a := by
  cases outcome <;> cases some
  rfl

end FeatureLayers
