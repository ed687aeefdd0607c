import FeatureLayers.Scan.Store
import Mathlib.Algebra.Group.Nat.Defs
import Mathlib.Data.List.Induction

namespace FeatureLayers.Store

/-- What some user does with the store. Generations are told by whoever publishes, and may be old or made up. -/
inductive Event
  | read
  | publish (generation : Nat) (features : List Feature)
  | adopt (features : List Feature)
  | invalidate

def Event.isInvalidation : Event → Bool
  | .invalidate => true
  | .read | .publish _ _ | .adopt _ => false

def met (s : Store) : Event → Store
  | .read => s
  | .publish generation features => (s.publish generation features).2
  | .adopt features => s.adopt features
  | .invalidate => s.invalidate

def taken? (s : Store) : Event → Option (List Feature)
  | .publish generation features => if (s.publish generation features).1 then some features else none
  | .adopt features => some features
  | .read | .invalidate => none

def after (history : List Event) : Store := history.foldl met .empty

theorem after_append (front back : List Event) : after (front ++ back) = back.foldl met (after front) :=
  List.foldl_append

theorem after_snoc (history : List Event) (last : Event) : after (history ++ [last]) = (after history).met last :=
  after_append history [last]

section Generation

variable {s : Store} {generation : Nat} {features : List Feature}

theorem publish_accepts_iff : (s.publish generation features).1 = true ↔ generation = s.generation := by
  unfold publish
  split
  · rename_i same
    exact ⟨fun _ => same, fun _ => rfl⟩
  · rename_i other
    exact ⟨nofun, fun same => absurd same other⟩

theorem publish_refused (refused : (s.publish generation features).1 = false) :
    (s.publish generation features).2 = s := by
  unfold publish at refused ⊢
  split
  · rename_i same
    rw [if_pos same] at refused
    cases refused
  · rfl

theorem publish_generation : (s.publish generation features).2.generation = s.generation := by
  unfold publish
  split <;> rfl

theorem generation_foldl (s : Store) (events : List Event) :
    (events.foldl met s).generation = s.generation + events.countP Event.isInvalidation := by
  induction events generalizing s with
  | nil => rfl
  | cons event events ih =>
    rw [List.foldl_cons, ih, List.countP_cons]
    cases event with
    | read | adopt => rfl
    | publish => simp [met, publish_generation, Event.isInvalidation]
    | invalidate =>
      simp only [met, invalidate, Event.isInvalidation, if_true]
      omega

theorem generation_after (history : List Event) :
    (after history).generation = history.countP Event.isInvalidation :=
  (generation_foldl .empty history).trans (Nat.zero_add _)

end Generation

section Loaded

variable {features : List Feature}

theorem met_features (s : Store) (event : Event) : (s.met event).features =
    if event.isInvalidation then none else (s.taken? event).or s.features := by
  cases event with
  | read | adopt | invalidate => rfl
  | publish generation features =>
    simp only [met, taken?, Event.isInvalidation, publish]
    split <;> rfl

/-- The store took these features at some point, and behind it nothing was invalidated and nothing else taken. -/
def TookLast (history : List Event) (features : List Feature) : Prop :=
  ∃ earlier event later, history = earlier ++ event :: later ∧ (after earlier).taken? event = some features ∧
    ∀ front next back, later = front ++ next :: back →
      next.isInvalidation = false ∧ (after (earlier ++ event :: front)).taken? next = none

theorem split_snoc {history earlier later : List Event} {last event : Event}
    (split : history ++ [last] = earlier ++ event :: later) :
    (later = [] ∧ earlier = history ∧ event = last) ∨
      ∃ rest, later = rest ++ [last] ∧ history = earlier ++ event :: rest := by
  rcases List.eq_nil_or_concat later with rfl | ⟨rest, final, rfl⟩
  · obtain ⟨front, back⟩ := List.append_inj' split rfl
    cases back
    exact .inl ⟨rfl, front.symm, rfl⟩
  · rw [List.concat_eq_append, ← List.cons_append, ← List.append_assoc] at split
    obtain ⟨front, back⟩ := List.append_inj' split rfl
    cases back
    exact .inr ⟨rest, List.concat_eq_append, front⟩

variable {history : List Event} {last : Event}

theorem TookLast.snoc (took : TookLast history features) (stands : last.isInvalidation = false)
    (nothing : (after history).taken? last = none) : TookLast (history ++ [last]) features := by
  obtain ⟨earlier, event, later, rfl, taken, quiet⟩ := took
  refine ⟨earlier, event, later ++ [last], by simp, taken, fun front next back split => ?_⟩
  rcases split_snoc split with ⟨rfl, rfl, rfl⟩ | ⟨rest, rfl, inside⟩
  · exact ⟨stands, nothing⟩
  · exact quiet front next rest inside

theorem TookLast.of_snoc (took : TookLast (history ++ [last]) features) :
    (after history).taken? last = some features ∨
      last.isInvalidation = false ∧ (after history).taken? last = none ∧ TookLast history features := by
  obtain ⟨earlier, event, later, split, taken, quiet⟩ := took
  rcases split_snoc split with ⟨rfl, rfl, rfl⟩ | ⟨rest, rfl, rfl⟩
  · exact .inl taken
  · obtain ⟨stands, nothing⟩ := quiet rest last [] rfl
    refine .inr ⟨stands, nothing, earlier, event, rest, rfl, taken, fun front next back inside => ?_⟩
    exact quiet front next (back ++ [last]) (by simp [inside])

theorem after_features_iff (history : List Event) :
    (after history).features = some features ↔ TookLast history features := by
  -- The last event either changes what is loaded, or leaves it to what went before.
  induction history using List.reverseRecOn with
  | nil =>
    refine ⟨nofun, ?_⟩
    rintro ⟨earlier, event, later, split, -⟩
    simp at split
  | append_singleton history last ih =>
    rw [after_snoc, met_features]
    constructor
    · intro loaded
      split at loaded
      · cases loaded
      · rename_i stands
        cases taken : (after history).taken? last with
        | some new =>
          rw [taken] at loaded
          cases loaded
          refine ⟨history, last, [], rfl, taken, fun front next back split => ?_⟩
          simp at split
        | none =>
          rw [taken] at loaded
          exact (ih.mp loaded).snoc (Bool.not_eq_true _ ▸ stands) taken
    · intro took
      rcases took.of_snoc with taken | ⟨stands, nothing, took⟩
      · have stands : last.isInvalidation = false := by
          cases last with
          | invalidate => cases taken
          | read | publish | adopt => rfl
        simp [stands, taken]
      · simp [stands, nothing, ih.mpr took]

end Loaded

/--
Whoever publishes under a generation that was read before is heard exactly when nothing was invalidated in between, and
changes nothing when refused. At every point the store holds what it took last, if it was not invalidated behind that.
While it is invalidated less than 2^64 times, a word of 64 bits holds every generation.
-/
theorem history_settles_store (history : List Event) (few : history.countP Event.isInvalidation < 2 ^ 64) :
    (∀ before between, history = before ++ .read :: between →
      (after before).generation < 2 ^ 64 ∧ ∀ features,
        (((after history).publish (after before).generation features).1 = true ↔
          ∀ event ∈ between, event.isInvalidation = false)) ∧
    (∀ generation features, ((after history).publish generation features).1 = false →
      ((after history).publish generation features).2 = after history) ∧
    ∀ features, (after history).features = some features ↔ TookLast history features := by
  refine ⟨fun before between split => ?_, fun generation features => publish_refused, fun features =>
    after_features_iff history⟩
  have counted : history.countP Event.isInvalidation =
      before.countP Event.isInvalidation + between.countP Event.isInvalidation := by
    rw [split, List.countP_append, List.countP_cons]
    rfl
  refine ⟨by rw [generation_after]; omega, fun features => ?_⟩
  rw [publish_accepts_iff, generation_after, generation_after, counted]
  have uncounted : between.countP Event.isInvalidation = 0 ↔ ∀ event ∈ between, event.isInvalidation = false := by
    simp [List.countP_eq_zero]
  rw [← uncounted]
  omega

def tide (level : Int) : Feature := ⟨level, none, []⟩

def tides : List Event :=
  [.read, .adopt [tide 1], .invalidate, .read, .publish 1 [tide 2], .publish 0 [tide 1]]

theorem tides_of_today_settle_store :
    tides.countP Event.isInvalidation < 2 ^ 64 ∧
    ((after tides).publish (after []).generation [tide 3]).1 = false ∧
    ((after tides).publish (after []).generation [tide 3]).2 = after tides ∧
    ((after tides).publish (after (tides.take 3)).generation [tide 3]).1 = true ∧
    (after tides).features = some [tide 2] := by
  have few : tides.countP Event.isInvalidation < 2 ^ 64 := by decide
  obtain ⟨heard, unchanged, holds⟩ := history_settles_store tides few
  obtain ⟨-, late⟩ := heard [] _ rfl
  obtain ⟨-, timely⟩ := heard (tides.take 3) _ rfl
  have refused : ((after tides).publish (after []).generation [tide 3]).1 = false := by
    rw [← Bool.not_eq_true, late]
    exact fun all => absurd (all .invalidate (by simp)) (by decide)
  refine ⟨few, refused, unchanged _ _ refused, (timely _).mpr (by simp [Event.isInvalidation]), ?_⟩
  -- The late publication was refused, so it does not stand behind the one before it.
  refine (holds _).mpr ⟨tides.take 4, .publish 1 [tide 2], [.publish 0 [tide 1]], rfl, rfl, ?_⟩
  intro front next back split
  cases front with
  | nil =>
    cases split
    exact ⟨rfl, rfl⟩
  | cons first front => simp at split

end FeatureLayers.Store
