import FeatureLayers.Proofs.Preview.Payloads
import FeatureLayers.Proofs.Text.Hex

namespace FeatureLayers.Decode

open Text.Hex (IsHex Spells unsigned)

variable {text : String} {bytes : List UInt8}

theorem readHex_eq_ok_iff : readHex text = .ok bytes ↔ Spells (unsigned (Text.trim text.toList)) bytes := by
  rw [← Text.Hex.decode_eq_ok_iff, readHex]
  cases Text.Hex.decode (Text.trim text.toList) with
  | ok found => simp
  | error fault => cases fault <;> simp

theorem readHex_accepts_iff : (∃ bytes, readHex text = .ok bytes) ↔ IsHex (unsigned (Text.trim text.toList)) := by
  simp only [readHex_eq_ok_iff, Text.Hex.isHex_iff]

theorem readHex_exact_iff :
    (∀ bytes, readHex text = .ok bytes ↔ Spells (Text.trim text.toList) bytes) ↔
      '+' ∉ Text.trim text.toList ∨ ¬ IsHex (unsigned (Text.trim text.toList)) := by
  have plain {chars : List Char} {bytes : List UInt8} (spells : Spells chars bytes) : '+' ∉ chars :=
    fun plus => absurd (Text.Hex.digit_of_spells spells plus) (by decide)
  constructor
  · intro exactly
    refine Classical.or_iff_not_imp_right.mpr fun read => ?_
    obtain ⟨bytes, accepted⟩ := readHex_accepts_iff.mpr (Classical.not_not.mp read)
    exact plain ((exactly bytes).mp accepted)
  · rintro (unplussed | unread) bytes
    · rw [readHex_eq_ok_iff, Text.Hex.unsigned_plain unplussed]
    · refine iff_of_false (fun accepted => unread (readHex_accepts_iff.mp ⟨bytes, accepted⟩)) fun spells => unread ?_
      rw [Text.Hex.unsigned_plain (plain spells)]
      exact Text.Hex.isHex_iff.mpr ⟨bytes, spells⟩

namespace RowDecoder

variable {d : RowDecoder} {row : Row} {column place : Nat} {g : Geometry}

theorem shape?_eq_some_iff : d.shape? row place = some g ↔ d.layout.width ≤ row.length ∧
    d.geometryOf row = .ok (some g) ∧ ∃ attributes, d.attributesOf (d.attributeRow row) = .ok attributes := by
  constructor
  · intro found
    obtain ⟨feature, decoded, shown⟩ := Option.bind_eq_some_iff.mp found
    obtain ⟨wide, geometry, attributes, shaped, valued, rfl⟩ := decode_eq_ok.mp (ok_of_toOption decoded)
    cases shown
    exact ⟨wide, shaped, attributes, valued⟩
  · rintro ⟨wide, shaped, attributes, valued⟩
    rw [shape?, decode_eq_ok.mpr ⟨wide, some g, attributes, shaped, valued, rfl⟩]
    rfl

theorem readPayload_text {encoding : Encoding} (vector : encoding.isVector = true) (text : String) :
    readPayload encoding (.text text) = (readHex text).bind fun bytes => readPayload encoding (.binary bytes) := by
  cases encoding with
  | cellId => cases vector
  | _ => rfl

/-- A text is decoded to what the bytes that are read from it are decoded to, and to nothing without them. -/
theorem shape?_text (vector : d.encoding.isVector = true) (placed : d.layout.geometry = some column)
    (inside : column < row.length) (text : String) : d.shape? (row.set column (.text text)) place = some g ↔
      ∃ bytes, readHex text = .ok bytes ∧ d.shape? (row.set column (.binary bytes)) place = some g := by
  have blanked (payload : Value) : d.attributeRow (row.set column payload) = row.set column .null := by
    simp [attributeRow, placed]
  have shaped (payload : Value) : d.geometryOf (row.set column payload) =
      (readPayload d.encoding payload).map (·.map (moved d.transform)) := by
    have here : (row.set column payload).getD column .null = payload := by simp [inside]
    rw [geometryOf, placed]
    dsimp only
    rw [here]
    rfl
  simp only [shape?_eq_some_iff, blanked, shaped, List.length_set, readPayload_text vector]
  cases readHex text with
  | ok bytes => simp [Except.bind]
  | error fault => simp [Except.bind, Except.map]

/--
A text is read as bytes exactly when it spells them in hexadecimal digits of either letter case, blanks around it and
pluses for the zeros at the head of pairs aside, and a payload of that text has the geometry of a payload of those bytes.
The digits alone decide about a text unless it has such a plus and is read.
-/
theorem hex_payloads_are_read_exactly_unless_signed (vector : d.encoding.isVector = true)
    (placed : d.layout.geometry = some column) (inside : column < row.length) (text : String) :
    (∀ bytes, readHex text = .ok bytes ↔ Spells (unsigned (Text.trim text.toList)) bytes) ∧
    ((∃ bytes, readHex text = .ok bytes) ↔ IsHex (unsigned (Text.trim text.toList))) ∧
    (∀ place g, d.shape? (row.set column (.text text)) place = some g ↔
      ∃ bytes, Spells (unsigned (Text.trim text.toList)) bytes ∧
        d.shape? (row.set column (.binary bytes)) place = some g) ∧
    ('+' ∉ Text.trim text.toList → unsigned (Text.trim text.toList) = Text.trim text.toList) ∧
    ((∀ bytes, readHex text = .ok bytes ↔ Spells (Text.trim text.toList) bytes) ↔
      '+' ∉ Text.trim text.toList ∨ ¬ IsHex (unsigned (Text.trim text.toList))) := by
  refine ⟨fun bytes => readHex_eq_ok_iff, readHex_accepts_iff, fun place g => ?_, Text.Hex.unsigned_plain,
    readHex_exact_iff⟩
  simp only [shape?_text vector placed inside, readHex_eq_ok_iff]

section Beacon

open FeatureGroup (buoy pilot)

def beaconDigits : String := " 0101000000000000000000F03f0000000000000000 "

def beaconBytes : List UInt8 := [1, 1, 0, 0, 0, 0, 0, 0, 0, 0, 0, 0xf0, 0x3f, 0, 0, 0, 0, 0, 0, 0, 0]

theorem beacon_is_read_in_either_case :
    readHex beaconDigits = .ok beaconBytes ∧
    ∃ g, pilot.shape? [.text "Dover", .binary beaconBytes] 0 = some g ∧
      pilot.shape? [.text "Dover", .text beaconDigits] 0 = some g := by
  obtain ⟨reads, -, shapes, plain, -⟩ := @hex_payloads_are_read_exactly_unless_signed pilot [.text "Dover", .null] 1
    rfl rfl (by decide) beaconDigits
  have spells : Spells (unsigned (Text.trim beaconDigits.toList)) beaconBytes := by
    rw [plain (by decide)]
    decide
  have found : (pilot.shape? [.text "Dover", .binary beaconBytes] 0).isSome := by decide +kernel
  obtain ⟨g, found⟩ := Option.isSome_iff_exists.mp found
  exact ⟨(reads beaconBytes).mpr spells, g, found, (shapes 0 g).mpr ⟨beaconBytes, spells, found⟩⟩

theorem pluses_are_read_as_zeros :
    readHex "+1" = .ok [1] ∧ ¬ IsHex "+1".toList ∧ (∀ bytes, ¬ Spells "+1".toList bytes) ∧
    pilot.shape? [.text "Ostend", .text "+1+100000000000000000000000000000000000000"] 0 = some buoy := by
  refine ⟨by decide, by decide, fun bytes spells => ?_, rfl⟩
  exact absurd (Text.Hex.digit_of_spells spells List.mem_cons_self) (by decide)

end Beacon

end RowDecoder

end FeatureLayers.Decode
