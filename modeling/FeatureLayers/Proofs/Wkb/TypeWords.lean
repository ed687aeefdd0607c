import FeatureLayers.Proofs.Wkb.Dialect
import FeatureLayers.Proofs.Wkb.Prefixes

namespace FeatureLayers.Wkb

open FeatureLayers.Geometry

section Words

variable {word code : Nat} {shape : Shape}

/-- The code of a shape, and a thousand for each way to have further ordinates. -/
def IsKnown (code : Nat) : Prop := ∃ shape : Shape, ∃ thousands ≤ 3, code = shape.code + 1000 * thousands

def unflagged (word : Nat) : Nat := word % flagSrid

def idleBit : Nat := 0x10000000

def reportedCode (word : Nat) : Nat :=
  if word % idleBit / 1000 ≤ 3 then word % idleBit % 1000 else word % idleBit

theorem Shape.ofCode?_eq_some_iff : Shape.ofCode? code = some shape ↔ code = shape.code := by
  refine ⟨fun found => ?_, fun same => same ▸ shape.ofCode?_code⟩
  unfold Shape.ofCode? at found
  split at found <;> cases found <;> rfl

theorem Shape.code_lt (shape : Shape) : shape.code < 1000 := by
  cases shape <;> decide

theorem splitTypeWord_cases (word : Nat) :
    (word % idleBit / 1000 ≤ 3 ∧ ∃ extra, splitTypeWord word = .ok (reportedCode word, extra)) ∨
      (3 < word % idleBit / 1000 ∧ splitTypeWord word = .error (.unknownType (reportedCode word))) := by
  have few (small : word % idleBit / 1000 ≤ 3) : reportedCode word = word % idleBit % 1000 := if_pos small
  have many (large : 3 < word % idleBit / 1000) : reportedCode word = word % idleBit := if_neg (Nat.not_le.mpr large)
  unfold splitTypeWord
  dsimp only
  rw [show 0x10000000 = idleBit from rfl]
  generalize word % idleBit = code at few many ⊢
  split
  · rename_i none
    rw [few (by omega), Nat.mod_eq_of_lt (by omega : code < 1000)]
    exact .inl ⟨by omega, _, rfl⟩
  · rename_i one
    rw [few (by omega)]
    exact .inl ⟨by omega, _, rfl⟩
  · rename_i two
    rw [few (by omega)]
    exact .inl ⟨by omega, _, rfl⟩
  · rename_i three
    rw [few (by omega)]
    exact .inl ⟨by omega, _, rfl⟩
  · rename_i none one two three
    simp only [imp_false] at none one two three
    have large : 3 < code / 1000 := by omega
    rw [many large]
    exact .inr ⟨large, rfl⟩

theorem isKnown_iff : IsKnown code ↔ code / 1000 ≤ 3 ∧ ∃ shape, Shape.ofCode? (code % 1000) = some shape := by
  simp only [Shape.ofCode?_eq_some_iff]
  constructor
  · rintro ⟨shape, thousands, few, rfl⟩
    have small := shape.code_lt
    exact ⟨by omega, shape, by omega⟩
  · rintro ⟨few, shape, same⟩
    exact ⟨shape, code / 1000, few, by omega⟩

theorem isKnown_unflagged_iff : IsKnown (unflagged word) ↔ IsKnown (word % idleBit) ∧ hasFlag word idleBit = false := by
  have parts : unflagged word = word % idleBit + idleBit * (word / idleBit % 2) := by
    unfold unflagged flagSrid idleBit
    omega
  have bit : hasFlag word idleBit = false ↔ word / idleBit % 2 = 0 := by
    unfold hasFlag
    rw [decide_eq_false_iff_not]
    omega
  rw [bit, parts]
  constructor
  · rintro ⟨shape, thousands, few, same⟩
    have small := shape.code_lt
    have idle : word / idleBit % 2 = 0 := by
      unfold idleBit at *
      omega
    rw [idle] at same
    exact ⟨⟨shape, thousands, few, same⟩, idle⟩
  · rintro ⟨known, idle⟩
    rwa [idle]

end Words

theorem bind_eq_ok {α β : Type} {read : Except Fault α} {next : α → Except Fault β} {b : β}
    (found : read >>= next = .ok b) : ∃ a, read = .ok a ∧ next a = .ok b := by
  cases read with
  | error f => cases found
  | ok a => exact ⟨a, rfl, found⟩

section Heads

variable {bytes rest : List UInt8} {word : Nat} {order : ByteOrder} {h : Header}

/-- The bytes begin with a header of this type word: a byte order, the word, and a reference system if it has the flag. -/
def Heads (bytes : List UInt8) (word : Nat) : Prop :=
  ∃ (order : ByteOrder) (front srid rest : List UInt8), bytes = order.byte :: (front ++ (srid ++ rest)) ∧
    front.length = 4 ∧ order.natOf front = word ∧ srid.length = if hasFlag word flagSrid then 4 else 0

theorem takeBytes_eq_ok {count : Nat} {front : List UInt8} (taken : takeBytes count bytes = .ok (front, rest)) :
    bytes = front ++ rest ∧ front.length = count := by
  induction count generalizing bytes front with
  | zero =>
    cases taken
    exact ⟨rfl, rfl⟩
  | succ count ih =>
    cases bytes with
    | nil => cases taken
    | cons b bytes =>
      rw [takeBytes] at taken
      obtain ⟨⟨others, behind⟩, found, same⟩ := bind_eq_ok taken
      cases same
      obtain ⟨rfl, rfl⟩ := ih found
      exact ⟨rfl, rfl⟩

theorem takeByteOrder_byte (order : ByteOrder) (rest : List UInt8) :
    takeByteOrder (order.byte :: rest) = .ok (order, rest) := by
  cases order <;> rfl

theorem takeByteOrder_eq_ok (taken : takeByteOrder bytes = .ok (order, rest)) : bytes = order.byte :: rest := by
  cases bytes with
  | nil => cases taken
  | cons b bytes =>
    rw [takeByteOrder] at taken
    split at taken
    case isTrue zero =>
      cases taken
      rw [zero]
      rfl
    case isFalse =>
      split at taken
      case isTrue one =>
        cases taken
        rw [one]
        rfl
      case isFalse => cases taken

theorem takeWord_append (order : ByteOrder) {front : List UInt8} (width : front.length = 4) (rest : List UInt8) :
    takeWord order (front ++ rest) = .ok (order.natOf front, rest) := by
  rw [takeWord, takeBytes_append width]
  rfl

theorem takeWord_eq_ok (taken : takeWord order bytes = .ok (word, rest)) :
    ∃ front, bytes = front ++ rest ∧ front.length = 4 ∧ order.natOf front = word := by
  obtain ⟨⟨front, behind⟩, found, same⟩ := bind_eq_ok taken
  cases same
  obtain ⟨rfl, width⟩ := takeBytes_eq_ok found
  exact ⟨front, rfl, width, rfl⟩

theorem Heads.takeHeader_eq (heads : Heads bytes word) : ∃ order rest, takeHeader bytes = do
    let told ← splitTypeWord word
    return (⟨order, told.1, told.2⟩, rest) := by
  obtain ⟨order, front, srid, rest, rfl, width, rfl, referenced⟩ := heads
  refine ⟨order, rest, ?_⟩
  rw [takeHeader, takeByteOrder_byte]
  simp only [Bind.bind, Except.bind, takeWord_append order width]
  cases flagged : hasFlag (order.natOf front) flagSrid with
  | true =>
    rw [flagged, if_pos rfl] at referenced
    rw [if_pos rfl, takeWord_append order referenced]
  | false =>
    rw [flagged, if_neg Bool.false_ne_true, List.length_eq_zero_iff] at referenced
    rw [if_neg Bool.false_ne_true, referenced]
    rfl

theorem heads_of_takeHeader (taken : takeHeader bytes = .ok (h, rest)) :
    ∃ word, Heads bytes word ∧ splitTypeWord word = .ok (h.code, h.extra) := by
  obtain ⟨⟨order, worded⟩, first, afterOrder⟩ := bind_eq_ok taken
  obtain rfl := takeByteOrder_eq_ok first
  obtain ⟨⟨word, referenced⟩, second, afterWord⟩ := bind_eq_ok afterOrder
  obtain ⟨front, rfl, width, value⟩ := takeWord_eq_ok second
  dsimp only at afterWord
  cases flagged : hasFlag word flagSrid with
  | true =>
    rw [flagged, if_pos rfl] at afterWord
    obtain ⟨⟨reference, behind⟩, third, afterReference⟩ := bind_eq_ok afterWord
    obtain ⟨srid, rfl, width', -⟩ := takeWord_eq_ok third
    obtain ⟨told, split, same⟩ := bind_eq_ok afterReference
    cases same
    exact ⟨word, ⟨order, front, srid, behind, rfl, width, value, by rw [flagged, width']; rfl⟩, split⟩
  | false =>
    rw [flagged, if_neg Bool.false_ne_true] at afterWord
    obtain ⟨⟨reference, behind⟩, third, afterReference⟩ := bind_eq_ok afterWord
    cases third
    obtain ⟨told, split, same⟩ := bind_eq_ok afterReference
    cases same
    exact ⟨word, ⟨order, front, [], referenced, rfl, width, value, by rw [flagged]; rfl⟩, split⟩

end Heads

section Levels

variable {bytes rest : List UInt8} {word depth : Nat} {g : Geometry}

theorem takeGeometry_eq_ok (taken : takeGeometry (depth + 1) bytes = .ok (g, rest)) :
    ∃ h behind shape, takeHeader bytes = .ok (h, behind) ∧ Shape.ofCode? h.code = some shape ∧
      takeBody depth h shape behind = .ok (g, rest) := by
  rw [takeGeometry_succ] at taken
  obtain ⟨⟨h, behind⟩, headed, taken⟩ := bind_eq_ok taken
  dsimp only at taken
  cases shaped : Shape.ofCode? h.code with
  | none =>
    rw [shaped] at taken
    cases taken
  | some shape =>
    rw [shaped] at taken
    exact ⟨h, behind, shape, headed, shaped, taken⟩

theorem isKnown_of_taken (taken : takeGeometry (depth + 1) bytes = .ok (g, rest)) :
    ∃ word, Heads bytes word ∧ IsKnown (word % idleBit) := by
  obtain ⟨h, behind, shape, headed, shaped, -⟩ := takeGeometry_eq_ok taken
  obtain ⟨word, heads, split⟩ := heads_of_takeHeader headed
  refine ⟨word, heads, isKnown_iff.mpr ?_⟩
  rcases splitTypeWord_cases word with ⟨few, extra, told⟩ | ⟨-, refused⟩
  · rw [told] at split
    have code : reportedCode word = h.code := congrArg Prod.fst (Except.ok.inj split)
    rw [← code, reportedCode, if_pos few] at shaped
    exact ⟨few, shape, shaped⟩
  · rw [refused] at split
    cases split

theorem Heads.refused (heads : Heads bytes word) (unknown : ¬ IsKnown (word % idleBit)) :
    takeGeometry (depth + 1) bytes = .error (.unknownType (reportedCode word)) := by
  obtain ⟨order, rest, headed⟩ := heads.takeHeader_eq
  rw [takeGeometry_succ, headed]
  rcases splitTypeWord_cases word with ⟨few, extra, told⟩ | ⟨-, refused⟩
  · rw [told]
    have unshaped : Shape.ofCode? (reportedCode word) = none := by
      rw [reportedCode, if_pos few]
      exact Option.eq_none_iff_forall_ne_some.mpr fun shape shaped => unknown (isKnown_iff.mpr ⟨few, shape, shaped⟩)
    simp only [Bind.bind, Except.bind, pure, Except.pure, unshaped]
  · rw [refused]
    rfl

end Levels

section Members

def Shape.holds : Shape → Geometry → Bool
  | .multiPoint, .point _ => true
  | .multiLineString, .lineString _ => true
  | .multiPolygon, .polygon _ => true
  | .geometryCollection, _ => true
  | _, _ => false

def Shape.isContainer : Shape → Bool
  | .point | .lineString | .polygon => false
  | .multiPoint | .multiLineString | .multiPolygon | .geometryCollection => true

/-- One of so many geometries that are read one after the other begins at `start`; those before it are read and fit in. -/
inductive Among (take : Taking Geometry) (fits : Geometry → Bool) : Nat → List UInt8 → List UInt8 → Prop
  | here {count : Nat} {bytes : List UInt8} : Among take fits (count + 1) bytes bytes
  | later {count : Nat} {bytes rest start : List UInt8} {g : Geometry} (taken : take bytes = .ok (g, rest)) (fit : fits g)
      (among : Among take fits count rest start) : Among take fits (count + 1) bytes start

/-- The reader of the geometry that begins the bytes comes to `start` with so many levels left, where it reads the geometry
itself or one that it holds. -/
inductive Reaches : Nat → List UInt8 → Nat → List UInt8 → Prop
  | self {levels : Nat} {bytes : List UInt8} : Reaches levels bytes levels bytes
  | member {depth count left : Nat} {bytes rest items member start : List UInt8} {h : Header} {shape : Shape}
      (headed : takeHeader bytes = .ok (h, rest)) (shaped : Shape.ofCode? h.code = some shape)
      (container : shape.isContainer) (counted : takeCount h.order rest = .ok (count, items))
      (among : Among (takeGeometry depth) shape.holds count items member)
      (onward : Reaches depth member left start) : Reaches (depth + 1) bytes left start

structure Keeps {α : Type} (shape : Shape) (accept : Geometry → Except Fault α) (build : List α → Geometry)
    (form : α → Geometry) : Prop where
  body : ∀ depth h, takeBody depth h shape = (takeMembers h (takeGeometry depth) accept).map build
  accepts : ∀ g, shape.holds g → ∃ a, accept g = .ok a
  accepted : ∀ g a, accept g = .ok a → shape.holds g ∧ g = form a
  held : ∀ items, (build items).members = items.map form

theorem Shape.keeps {shape : Shape} (container : shape.isContainer) : ∃ (α : Type) (accept : Geometry → Except Fault α)
    (build : List α → Geometry) (form : α → Geometry), Keeps shape accept build form := by
  cases shape with
  | point | lineString | polygon => cases container
  | multiPoint =>
    refine ⟨_, asPoint, .multiPoint, .point, fun _ _ => rfl, fun g fits => ?_, fun g a accepted => ?_, fun _ => rfl⟩
    · cases g <;> first | exact ⟨_, rfl⟩ | cases fits
    · cases g <;> cases accepted
      exact ⟨rfl, rfl⟩
  | multiLineString =>
    refine ⟨_, asLineString, .multiLineString, .lineString, fun _ _ => rfl, fun g fits => ?_, fun g a accepted => ?_,
      fun _ => rfl⟩
    · cases g <;> first | exact ⟨_, rfl⟩ | cases fits
    · cases g <;> cases accepted
      exact ⟨rfl, rfl⟩
  | multiPolygon =>
    refine ⟨_, asPolygon, .multiPolygon, .polygon, fun _ _ => rfl, fun g fits => ?_, fun g a accepted => ?_,
      fun _ => rfl⟩
    · cases g <;> first | exact ⟨_, rfl⟩ | cases fits
    · cases g <;> cases accepted
      exact ⟨rfl, rfl⟩
  | geometryCollection =>
    exact ⟨_, fun g => .ok g, .geometryCollection, fun g => g, fun _ _ => rfl, fun g _ => ⟨g, rfl⟩,
      fun g a accepted => ⟨rfl, Except.ok.inj accepted⟩, fun items => (List.map_id' items).symm⟩

section Siblings

variable {α : Type} {take : Taking Geometry} {fits : Geometry → Bool} {accept : Geometry → Except Fault α}
  {form : α → Geometry} {count : Nat} {bytes rest start : List UInt8}

theorem Among.error (among : Among take fits count bytes start) (accepts : ∀ g, fits g → ∃ a, accept g = .ok a)
    {f : Fault} (refused : take start = .error f) : takeMany (accepting take accept) count bytes = .error f := by
  induction among with
  | here =>
    rw [takeMany, accepting, refused]
    rfl
  | later taken fit _ ih =>
    obtain ⟨a, accepted⟩ := accepts _ fit
    rw [takeMany, accepting, taken]
    simp only [Bind.bind, Except.bind, accepted, pure, Except.pure, ih refused]

theorem among_of_takeMany (accepted : ∀ g a, accept g = .ok a → fits g ∧ g = form a) {items : List α}
    (taken : takeMany (accepting take accept) count bytes = .ok (items, rest)) :
    ∀ a ∈ items, ∃ start behind, Among take fits count bytes start ∧ take start = .ok (form a, behind) := by
  induction count generalizing bytes items with
  | zero =>
    cases taken
    exact nofun
  | succ count ih =>
    rw [takeMany] at taken
    obtain ⟨⟨first, between⟩, firstly, onward⟩ := bind_eq_ok taken
    obtain ⟨⟨others, behind⟩, found, same⟩ := bind_eq_ok onward
    cases same
    obtain ⟨⟨g, passed⟩, took, onward⟩ := bind_eq_ok firstly
    obtain ⟨a, fitting, same⟩ := bind_eq_ok onward
    cases same
    obtain ⟨fit, rfl⟩ := accepted g first fitting
    intro item member
    rcases List.mem_cons.mp member with rfl | inside
    · exact ⟨bytes, between, .here, took⟩
    · obtain ⟨start, behind, among, read⟩ := ih found item inside
      exact ⟨start, behind, .later took fit among, read⟩

end Siblings

section Reached

variable {bytes rest start : List UInt8} {levels left depth : Nat} {g : Geometry} {h : Header} {shape : Shape}

theorem Reaches.error (reaches : Reaches levels bytes left start) {f : Fault}
    (refused : takeGeometry left start = .error f) : takeGeometry levels bytes = .error f := by
  induction reaches with
  | self => exact refused
  | member headed shaped container counted among _ ih =>
    obtain ⟨α, accept, build, form, keeps⟩ := Shape.keeps container
    have members := among.error keeps.accepts (ih refused)
    rw [takeGeometry_succ, headed]
    simp only [Bind.bind, Except.bind, shaped, keeps.body, Taking.map, takeMembers, counted, members]

theorem Reaches.ok (reaches : Reaches levels bytes left start) (taken : takeGeometry levels bytes = .ok (g, rest)) :
    ∃ inner behind, takeGeometry left start = .ok (inner, behind) := by
  cases found : takeGeometry left start with
  | error f => cases taken.symm.trans (reaches.error found)
  | ok read => exact ⟨read.1, read.2, rfl⟩

theorem members_of_leaf (leaf : shape.isContainer = false) (taken : takeBody depth h shape bytes = .ok (g, rest)) :
    g.members = [] := by
  cases shape with
  | point =>
    obtain ⟨⟨c, behind⟩, -, onward⟩ := bind_eq_ok taken
    dsimp only at onward
    split at onward
    · cases onward
    · cases onward
      rfl
  | lineString | polygon =>
    obtain ⟨⟨inner, behind⟩, -, same⟩ := bind_eq_ok taken
    cases same
    rfl
  | multiPoint | multiLineString | multiPolygon | geometryCollection => cases leaf

theorem reaches_of_headers (taken : takeGeometry levels bytes = .ok (g, rest)) : ∀ header ∈ g.headers,
    ∃ left start behind, Reaches levels bytes left start ∧ takeGeometry left start = .ok (header.2, behind) := by
  induction levels generalizing bytes rest g with
  | zero => cases taken
  | succ depth ih =>
    refine forall_headers ⟨depth + 1, bytes, rest, .self, taken⟩ fun member inside header deep => ?_
    obtain ⟨h, body, shape, headed, shaped, bodied⟩ := takeGeometry_eq_ok taken
    cases container : shape.isContainer with
    | false =>
      rw [members_of_leaf container bodied] at inside
      cases inside
    | true =>
      obtain ⟨α, accept, build, form, keeps⟩ := Shape.keeps container
      rw [keeps.body] at bodied
      obtain ⟨⟨items, behind⟩, listed, same⟩ := bind_eq_ok bodied
      cases same
      obtain ⟨⟨count, first⟩, counted, many⟩ := bind_eq_ok listed
      rw [keeps.held] at inside
      obtain ⟨a, held, rfl⟩ := List.mem_map.mp inside
      obtain ⟨start, between, among, read⟩ := among_of_takeMany keeps.accepted many a held
      obtain ⟨left, place, behind, onward, found⟩ := ih read header deep
      exact ⟨left, place, behind, .member headed shaped container counted among onward, found⟩

end Reached

end Members

section Whole

variable (bytes : List UInt8)

/--
Of accepted bytes every header is known: its type word, without the four highest bits, is the code of a shape and up to
three thousands, and so it is without the flags alone unless the idle bit is set. A header that is come to and is not
known has the bytes refused by it.
-/
theorem headers_are_known_but_for_idle_bit :
    (∀ g, Decode.readWkb bytes = .ok g →
      (∀ header ∈ g.headers, ∃ left start behind,
        Reaches (maxDepth + 1) bytes left start ∧ takeGeometry left start = .ok (header.2, behind)) ∧
      ∀ left start, Reaches (maxDepth + 1) bytes left start → (∃ word, Heads start word) ∧
        ∀ word, Heads start word →
          IsKnown (word % idleBit) ∧ (IsKnown (unflagged word) ↔ hasFlag word idleBit = false)) ∧
    ∀ left start word, Reaches (maxDepth + 1) bytes (left + 1) start → Heads start word → ¬ IsKnown (word % idleBit) →
      Decode.readWkb bytes = .error (.wkb (.unknownType (reportedCode word))) := by
  constructor
  · intro g accepted
    have taken := readWkb_ok_iff.mp accepted
    refine ⟨reaches_of_headers taken, fun left start reaches => ?_⟩
    obtain ⟨inner, behind, read⟩ := reaches.ok taken
    cases left with
    | zero => cases read
    | succ depth =>
      obtain ⟨word, heads, -⟩ := isKnown_of_taken read
      refine ⟨⟨word, heads⟩, fun word heads => ?_⟩
      have known : IsKnown (word % idleBit) := Classical.byContradiction fun unknown => by
        cases read.symm.trans (heads.refused unknown)
      exact ⟨known, isKnown_unflagged_iff.trans (and_iff_right known)⟩
  · intro left start word reaches heads unknown
    rw [Decode.readWkb, read, reaches.error (heads.refused unknown)]
    rfl

end Whole

section Buoy

/-- A point at the origin with the idle bit in its type word. -/
def buoy : List UInt8 := [1, 1, 0, 0, 16] ++ List.replicate 16 0

theorem heads_buoy : Heads buoy 0x10000001 :=
  ⟨.littleEndian, [1, 0, 0, 16], [], List.replicate 16 0, rfl, rfl, rfl, rfl⟩

theorem idle_word_unknown : ¬ IsKnown (unflagged 0x10000001) :=
  fun known => absurd (isKnown_unflagged_iff.mp known).2 (by decide)

/-- The bit is no flag and has no part in a code, and yet the point is read. -/
theorem buoy_is_read_under_unknown_word : Heads buoy 0x10000001 ∧ ¬ IsKnown (unflagged 0x10000001) ∧
    Decode.readWkb buoy = .ok (.point ⟨.zero, .zero⟩) :=
  ⟨heads_buoy, idle_word_unknown, rfl⟩

def collected (member : List UInt8) : List UInt8 := [1, 7, 0, 0, 0, 1, 0, 0, 0] ++ member

theorem reaches_collected {member : List UInt8} (held : 1 ≤ member.length) :
    Reaches (maxDepth + 1) (collected member) maxDepth member :=
  have headed : takeHeader (collected member) = .ok (⟨.littleEndian, 7, 0⟩, [1, 0, 0, 0] ++ member) := rfl
  have shaped : Shape.ofCode? 7 = some .geometryCollection := rfl
  have counted : takeCount .littleEndian ([1, 0, 0, 0] ++ member) = .ok (1, member) :=
    takeCount_bytesOf .littleEndian (by decide) held
  .member headed shaped rfl counted .here .self

def wreck : List UInt8 := [1, 8, 0, 0, 0]

theorem heads_wreck : Heads wreck 8 := ⟨.littleEndian, [8, 0, 0, 0], [], [], rfl, rfl, rfl, rfl⟩

theorem wreck_unknown : ¬ IsKnown (8 % idleBit) := by
  intro known
  obtain ⟨-, shape, shaped⟩ := isKnown_iff.mp known
  cases shaped

/-- A collection may hold the buoy, and not the wreck. -/
theorem collected_buoy_is_read_and_wreck_refused :
    (Decode.readWkb (collected buoy) = .ok (.geometryCollection [.point ⟨.zero, .zero⟩]) ∧
      Reaches (maxDepth + 1) (collected buoy) maxDepth buoy ∧ Heads buoy 0x10000001 ∧
      IsKnown (0x10000001 % idleBit) ∧ ¬ IsKnown (unflagged 0x10000001)) ∧
    Reaches (maxDepth + 1) (collected wreck) maxDepth wreck ∧ Heads wreck 8 ∧ ¬ IsKnown (8 % idleBit) ∧
    Decode.readWkb (collected wreck) = .error (.wkb (.unknownType 8)) := by
  have read : Decode.readWkb (collected buoy) = .ok (.geometryCollection [.point ⟨.zero, .zero⟩]) := by rfl
  have reaches : Reaches (maxDepth + 1) (collected buoy) maxDepth buoy := reaches_collected (by decide)
  have reaches' : Reaches (maxDepth + 1) (collected wreck) maxDepth wreck := reaches_collected (by decide)
  obtain ⟨-, words⟩ := (headers_are_known_but_for_idle_bit (collected buoy)).1 _ read
  obtain ⟨known, idle⟩ := (words maxDepth buoy reaches).2 0x10000001 heads_buoy
  have unknown : ¬ IsKnown (unflagged 0x10000001) := fun unflagged => absurd (idle.mp unflagged) (by decide)
  have refused := (headers_are_known_but_for_idle_bit (collected wreck)).2 31 wreck 8 reaches' heads_wreck
    wreck_unknown
  exact ⟨⟨read, reaches, heads_buoy, known, unknown⟩, reaches', heads_wreck, wreck_unknown, refused⟩

end Buoy

end FeatureLayers.Wkb
