import FeatureLayers.Configuration.Environment
import Mathlib.Data.Char
import Mathlib.Data.List.Forall2

namespace FeatureLayers

namespace Configuration

section Variables

variable {c d : Char}

theorem isAlphanum_toUpper (c : Char) : c.toUpper.isAlphanum = c.isAlphanum := by
  by_cases lower : 'a'.toNat ≤ c.toNat ∧ c.toNat ≤ 'z'.toNat
  · have letters : ∀ n < 123, 97 ≤ n → (Char.ofNat n).toUpper.isAlphanum = (Char.ofNat n).isAlphanum := by decide +kernel
    have same := letters c.toNat (Nat.lt_succ_of_le lower.2) lower.1
    rwa [Char.ofNat_toNat] at same
  · have kept : c.toUpper = c := by
      unfold Char.toUpper
      exact dif_neg fun bounds => lower ⟨UInt32.le_iff_toNat_le.mp bounds.1, UInt32.le_iff_toNat_le.mp bounds.2⟩
    rw [kept]

/-- The characters differ in letter case at most, or neither is a letter or a digit of ASCII. -/
def SameInVariable (c d : Char) : Prop := c.toUpper = d.toUpper ∨ (c.isAlphanum = false ∧ d.isAlphanum = false)

instance (c d : Char) : Decidable (SameInVariable c d) := inferInstanceAs (Decidable (_ ∨ _))

theorem isAlphanum_passwordChar (c : Char) : (passwordChar c).isAlphanum = c.isAlphanum := by
  unfold passwordChar
  cases letter : c.isAlphanum with
  | true => exact (isAlphanum_toUpper c).trans letter
  | false => rfl

theorem passwordChar_eq_iff : passwordChar c = passwordChar d ↔ SameInVariable c d := by
  constructor
  · intro same
    have alike : c.isAlphanum = d.isAlphanum := by
      rw [← isAlphanum_passwordChar, same, isAlphanum_passwordChar]
    unfold passwordChar at same
    rw [alike] at same
    cases letter : d.isAlphanum with
    | true => exact .inl (by simpa [letter] using same)
    | false => exact .inr ⟨alike.trans letter, letter⟩
  · rintro (same | ⟨first, second⟩)
    · have alike : c.isAlphanum = d.isAlphanum := by
        rw [← isAlphanum_toUpper, same, isAlphanum_toUpper]
      rw [passwordChar, passwordChar, alike, same]
    · simp [passwordChar, first, second]

/-- The names are of one length and are written alike in variables, character by character. -/
def Collide (name other : String) : Prop := List.Forall₂ SameInVariable name.toList other.toList

instance (name other : String) : Decidable (Collide name other) := inferInstanceAs (Decidable (List.Forall₂ _ _ _))

theorem passwordVariable_eq_iff {name other : String} :
    passwordVariable name = passwordVariable other ↔ Collide name other := by
  have chars : passwordVariable name = passwordVariable other ↔
      name.toList.map passwordChar = other.toList.map passwordChar := by
    rw [← String.toList_inj]
    simp [passwordVariable]
  rw [chars, ← List.forall₂_eq_eq_eq, List.forall₂_map_left_iff, List.forall₂_map_right_iff]
  simp only [passwordChar_eq_iff, Collide]

end Variables

section Parameters

variable {c c' : Configuration} {e e' : Environment} {name other : String}

def withoutPasswords (c : Configuration) : Configuration :=
  { c with connections := c.connections.map fun entry => (entry.1, entry.2.erase passwordKey) }

def AgreeBut (changed : String) (e e' : Environment) : Prop := ∀ key, key ≠ changed → e.get? key = e'.get? key

theorem agreeBut_put (changed value : String) (e : Environment) : AgreeBut changed e (e.put changed value) :=
  fun _ other => (Entries.get?_put_ne value e other).symm

def withPassword (password? : Option String) (parameters : Parameters) : Parameters :=
  password?.elim parameters fun password => parameters.put passwordKey password

theorem connection_eq (c : Configuration) (e : Environment) (name : String) :
    c.connection e name = match c.withoutPasswords.connections.get? name with
      | none => .error (.unknownConnection name)
      | some parameters => .ok (withPassword (e.get? (passwordVariable name)) parameters) := by
  rw [connection, withoutPasswords, Entries.get?_map]
  cases c.connections.get? name with
  | none => rfl
  | some parameters => cases found : e.get? (passwordVariable name) <;> simp [withPassword]

theorem erase_withPassword (password? : Option String) (parameters : Parameters) :
    (withPassword password? parameters).erase passwordKey = parameters.erase passwordKey := by
  cases password? with
  | none => rfl
  | some password => exact Entries.erase_put passwordKey password parameters

theorem get?_withPassword (password? : Option String) (parameters : Parameters) :
    (withPassword password? (parameters.erase passwordKey)).get? passwordKey = password? := by
  cases password? with
  | none => exact Entries.get?_erase_self passwordKey parameters
  | some password => exact Entries.get?_put_self passwordKey password _

theorem connection_of_known {parameters : Parameters} (known : c.connections.get? name = some parameters) :
    c.connection e name = .ok (withPassword (e.get? (passwordVariable name)) (parameters.erase passwordKey)) := by
  rw [connection_eq, withoutPasswords, Entries.get?_map, known]
  rfl

theorem connection_congr (agree : e.get? (passwordVariable name) = e'.get? (passwordVariable name)) :
    c.connection e name = c.connection e' name := by
  rw [connection_eq, connection_eq, agree]

/--
The parameters of a connection are those of the file with the value of the variable of its name for the password, if it
is set. What the file has for passwords never counts. Neither does the variable of another connection, exactly when the
two names are not written alike in variables.
-/
theorem parameters_keep_to_own_variable (name other : String) :
    (∀ (c : Configuration) (e : Environment),
      (c.connections.get? name = none → c.connection e name = .error (.unknownConnection name)) ∧
      ∀ parameters, c.connections.get? name = some parameters → ∃ given, c.connection e name = .ok given ∧
        given.erase passwordKey = parameters.erase passwordKey ∧
        given.get? passwordKey = e.get? (passwordVariable name)) ∧
    (∀ (c c' : Configuration) (e : Environment), c.withoutPasswords = c'.withoutPasswords →
      c.connection e name = c'.connection e name) ∧
    (¬ Collide name other ↔ ∀ (c : Configuration) (e e' : Environment), AgreeBut (passwordVariable other) e e' →
      c.connection e name = c.connection e' name) := by
  refine ⟨fun c e => ⟨fun unknown => ?_, fun parameters known => ?_⟩, fun c c' e same => ?_, fun apart c e e' agree => ?_,
    fun independent collide => ?_⟩
  · rw [connection, unknown]
  · refine ⟨_, connection_of_known known, ?_, get?_withPassword _ parameters⟩
    rw [erase_withPassword, Entries.erase_erase]
  · rw [connection_eq, connection_eq, same]
  · exact connection_congr (agree _ (passwordVariable_eq_iff.not.mpr apart))
  · -- A shared variable is set in one environment and not in the other.
    have known : Entries.get? name [(name, ([] : Parameters))] = some [] := by simp [Entries.get?]
    have same := independent { standard with connections := [(name, [])] } _ _
      (agreeBut_put (passwordVariable other) "" [])
    rw [connection_of_known known, connection_of_known known, ← passwordVariable_eq_iff.mpr collide,
      Entries.get?_put_self] at same
    cases same

end Parameters

section Seas

def seas : Configuration :=
  { standard with
    connections := [("north-sea", [("kind", "duckdb")]), ("north_sea", [("kind", "duckdb"), ("password", "spring")])] }

def ebb : Environment := [("GEOFLAKE_NORTH_SEA_PASSWORD", "ebb")]

theorem north_sea_keeps_its_password :
    ¬ Collide "north-sea" "south-sea" ∧
    AgreeBut (passwordVariable "south-sea") ebb (ebb.put "GEOFLAKE_SOUTH_SEA_PASSWORD" "flood") ∧
    seas.connection ebb "north-sea" = seas.connection (ebb.put "GEOFLAKE_SOUTH_SEA_PASSWORD" "flood") "north-sea" ∧
    seas.connection ebb "north_sea" = seas.withoutPasswords.connection ebb "north_sea" := by
  have apart : ¬ Collide "north-sea" "south-sea" := by decide
  have agree := agreeBut_put (passwordVariable "south-sea") "flood" ebb
  obtain ⟨-, unread, -⟩ := parameters_keep_to_own_variable "north_sea" "north-sea"
  exact ⟨apart, agree, (parameters_keep_to_own_variable _ _).2.2.mp apart seas _ _ agree, unread seas _ ebb rfl⟩

theorem north_sea_is_given_password_of_other :
    "north-sea" ≠ "north_sea" ∧ AgreeBut (passwordVariable "north_sea") [] ebb ∧
    seas.connection [] "north-sea" = .ok [("kind", "duckdb")] ∧
    seas.connection ebb "north-sea" = .ok [("kind", "duckdb"), ("password", "ebb")] := by
  refine ⟨by decide, ?_, rfl, rfl⟩
  exact agreeBut_put (passwordVariable "north_sea") "ebb" []

end Seas

end Configuration

end FeatureLayers
