import FeatureLayers.Wkb.Reader

namespace FeatureLayers.Wkb

def ByteOrder.bytesOf (order : ByteOrder) (count n : Nat) : List UInt8 :=
  match order with
  | .bigEndian => (bytesOfNat count n).reverse
  | .littleEndian => bytesOfNat count n

section Words

theorem bytesOfNat_length (count n : Nat) : (bytesOfNat count n).length = count := by
  induction count generalizing n with
  | zero => rfl
  | succ count ih => rw [bytesOfNat, List.length_cons, ih]

theorem natOfBytes_bytesOfNat (count n : Nat) : natOfBytes (bytesOfNat count n) = n % Nat.pow 256 count := by
  induction count generalizing n with
  | zero => exact (Nat.mod_one n).symm
  | succ count ih =>
    have byte : (UInt8.ofNat n).toNat = n % 256 := UInt8.toNat_ofNat'
    have power : Nat.pow 256 (count + 1) = 256 * Nat.pow 256 count := Nat.pow_succ'
    rw [bytesOfNat, natOfBytes, ih, byte, power, Nat.mod_mul]

variable (order : ByteOrder)

theorem ByteOrder.bytesOf_length (count n : Nat) : (order.bytesOf count n).length = count := by
  cases order with
  | bigEndian => exact List.length_reverse.trans (bytesOfNat_length count n)
  | littleEndian => exact bytesOfNat_length count n

theorem ByteOrder.natOf_bytesOf {count n : Nat} (fits : n < Nat.pow 256 count) :
    order.natOf (order.bytesOf count n) = n := by
  have value : natOfBytes (bytesOfNat count n) = n := by
    rw [natOfBytes_bytesOfNat]
    exact Nat.mod_eq_of_lt fits
  cases order with
  | bigEndian => rw [natOf, bytesOf, List.reverse_reverse, value]
  | littleEndian => exact value

theorem takeBytes_append {front : List UInt8} {n : Nat} (width : front.length = n) (rest : List UInt8) :
    takeBytes n (front ++ rest) = .ok (front, rest) := by
  subst width
  induction front with
  | nil => rfl
  | cons b front ih =>
    rw [List.length_cons, List.cons_append, takeBytes, ih]
    rfl

theorem takeWord_bytesOf {n : Nat} (fits : n < Nat.pow 2 32) (rest : List UInt8) :
    takeWord order (order.bytesOf 4 n ++ rest) = .ok (n, rest) := by
  have value : order.natOf (order.bytesOf 4 n) = n := order.natOf_bytesOf fits
  rw [takeWord, takeBytes_append (order.bytesOf_length 4 n)]
  simp only [Bind.bind, Except.bind, value]
  rfl

theorem takeCount_bytesOf {n : Nat} {rest : List UInt8} (fits : n < Nat.pow 2 32) (enough : n ≤ rest.length) :
    takeCount order (order.bytesOf 4 n ++ rest) = .ok (n, rest) := by
  rw [takeCount, takeWord_bytesOf order fits]
  simp only [Bind.bind, Except.bind, if_neg (Nat.not_lt.mpr enough)]
  rfl

theorem takeDouble_bytesOf (x : Double) (rest : List UInt8) :
    takeDouble order (order.bytesOf 8 x.bits.toNat ++ rest) = .ok (x, rest) := by
  have value : order.natOf (order.bytesOf 8 x.bits.toNat) = x.bits.toNat := order.natOf_bytesOf x.bits.toNat_lt
  rw [takeDouble, takeBytes_append (order.bytesOf_length 8 _)]
  simp only [Bind.bind, Except.bind, value, UInt64.ofNat_toNat]
  rfl

end Words

section Steps

variable {α β : Type}

def Taking.map (f : α → β) (take : Taking α) : Taking β := fun bytes => do
  let (a, rest) ← take bytes
  return (f a, rest)

def takeList (order : ByteOrder) (take : Taking α) : Taking (List α) := fun bytes => do
  let (count, rest) ← takeCount order bytes
  takeMany take count rest

def polygonOf : List (List Coord) → Polygon
  | [] => ⟨[], []⟩
  | exterior :: interiors => Polygon.closing exterior interiors

def takePoint (h : Header) : Taking Geometry := fun bytes => do
  let (c, rest) ← takeCoord h bytes
  if c.x.isNaN && c.y.isNaN then .error .emptyPoint else return (.point c, rest)

def takeBody (depth : Nat) (h : Header) : Shape → Taking Geometry
  | .point => takePoint h
  | .lineString => (takeLine h).map .lineString
  | .polygon => (takePolygon h).map .polygon
  | .multiPoint => (takeMembers h (takeGeometry depth) asPoint).map .multiPoint
  | .multiLineString => (takeMembers h (takeGeometry depth) asLineString).map .multiLineString
  | .multiPolygon => (takeMembers h (takeGeometry depth) asPolygon).map .multiPolygon
  | .geometryCollection => (takeMembers h (takeGeometry depth) (fun g => .ok g)).map .geometryCollection

theorem takeMembers_eq (h : Header) (take : Taking Geometry) (accept : Geometry → Except Fault α) :
    takeMembers h take accept = takeList h.order (accepting take accept) := rfl

theorem takePolygon_eq (h : Header) : takePolygon h = (takeList h.order (takeLine h)).map polygonOf := by
  funext bytes
  unfold takePolygon Taking.map takeList
  cases takeCount h.order bytes with
  | error fault => rfl
  | ok counted =>
    simp only [Bind.bind, Except.bind]
    cases takeMany (takeLine h) counted.1 counted.2 with
    | error fault => rfl
    | ok read =>
      obtain ⟨rings, rest⟩ := read
      cases rings <;> rfl

theorem takeGeometry_succ (depth : Nat) (bytes : List UInt8) :
    takeGeometry (depth + 1) bytes = (do
      let (h, rest) ← takeHeader bytes
      match Shape.ofCode? h.code with
      | none => .error (.unknownType h.code)
      | some shape => takeBody depth h shape rest) := by
  rw [takeGeometry]
  cases takeHeader bytes with
  | error fault => rfl
  | ok read =>
    simp only [Bind.bind, Except.bind]
    cases Shape.ofCode? read.1.code with
    | none => rfl
    | some shape => cases shape <;> rfl

end Steps

section Written

variable {α β : Type} {take : Taking α} {bytes : List UInt8} {intact intact' : Prop} {a : α}

/--
The bytes are read off the front as this value when they are intact. When they are not, a point is found empty or a
header too deep.
-/
structure Reads (take : Taking α) (bytes : List UInt8) (intact : Prop) (a : α) : Prop where
  ok : intact → ∀ rest, take (bytes ++ rest) = .ok (a, rest)
  fault : ¬ intact → ∀ rest, ∃ fault, take (bytes ++ rest) = .error fault ∧ (fault = .emptyPoint ∨ fault = .tooDeep)

theorem Reads.always (h : ∀ rest, take (bytes ++ rest) = .ok (a, rest)) : Reads take bytes True a :=
  ⟨fun _ => h, fun never => absurd trivial never⟩

theorem Reads.of_iff (reads : Reads take bytes intact a) (same : intact ↔ intact') : Reads take bytes intact' a :=
  propext same ▸ reads

theorem Reads.map (reads : Reads take bytes intact a) (f : α → β) : Reads (take.map f) bytes intact (f a) where
  ok holds rest := by
    rw [Taking.map, reads.ok holds]
    rfl
  fault fails rest := by
    obtain ⟨fault, found, which⟩ := reads.fault fails rest
    refine ⟨fault, ?_, which⟩
    rw [Taking.map, found]
    rfl

theorem Reads.accepting {take : Taking Geometry} {g : Geometry} {accept : Geometry → Except Fault α}
    (reads : Reads take bytes intact g) (accepted : accept g = .ok a) :
    Reads (accepting take accept) bytes intact a where
  ok holds rest := by
    simp only [Wkb.accepting, reads.ok holds, Bind.bind, Except.bind, accepted]
    rfl
  fault fails rest := by
    obtain ⟨fault, found, which⟩ := reads.fault fails rest
    refine ⟨fault, ?_, which⟩
    rw [Wkb.accepting, found]
    rfl

variable {items : List β} {write : β → List UInt8} {sound : β → Prop} {value : β → α}

/-- Pieces that are read one by one are read one after the other, up to the first that is not intact. -/
theorem Reads.many (each : ∀ item ∈ items, Reads take (write item) (sound item) (value item)) :
    Reads (takeMany take items.length) (items.flatMap write) (∀ item ∈ items, sound item) (items.map value) := by
  induction items with
  | nil => exact ⟨fun _ _ => rfl, fun fails => absurd nofun fails⟩
  | cons item items ih =>
    have first := each item List.mem_cons_self
    have others := ih fun other member => each other (List.mem_cons_of_mem _ member)
    refine ⟨fun holds rest => ?_, fun fails rest => ?_⟩
    · have here := first.ok (holds item List.mem_cons_self) (items.flatMap write ++ rest)
      have behind := others.ok (fun other member => holds other (List.mem_cons_of_mem _ member)) rest
      rw [List.flatMap_cons, List.append_assoc, List.length_cons, takeMany, here]
      simp only [Bind.bind, Except.bind, behind]
      rfl
    · rw [List.flatMap_cons, List.append_assoc, List.length_cons, takeMany]
      -- What comes behind the first piece that is not intact is not looked at.
      by_cases here : sound item
      · obtain ⟨fault, found, which⟩ := others.fault (fun holds => fails (List.forall_mem_cons.mpr ⟨here, holds⟩)) rest
        refine ⟨fault, ?_, which⟩
        rw [first.ok here]
        simp only [Bind.bind, Except.bind, found]
      · obtain ⟨fault, found, which⟩ := first.fault here (items.flatMap write ++ rest)
        refine ⟨fault, ?_, which⟩
        rw [found]
        rfl

theorem length_le_flatMap (filled : ∀ item ∈ items, 0 < (write item).length) :
    items.length ≤ (items.flatMap write).length := by
  induction items with
  | nil => exact Nat.le_refl _
  | cons item items ih =>
    have first := filled item List.mem_cons_self
    have others := ih fun other member => filled other (List.mem_cons_of_mem _ member)
    rw [List.flatMap_cons, List.length_append, List.length_cons]
    omega

theorem Reads.list (order : ByteOrder) (fits : items.length < Nat.pow 2 32)
    (filled : ∀ item ∈ items, 0 < (write item).length)
    (each : ∀ item ∈ items, Reads take (write item) (sound item) (value item)) :
    Reads (takeList order take) (order.bytesOf 4 items.length ++ items.flatMap write) (∀ item ∈ items, sound item)
      (items.map value) := by
  have counted (rest : List UInt8) : takeCount order (order.bytesOf 4 items.length ++ items.flatMap write ++ rest) =
      .ok (items.length, items.flatMap write ++ rest) := by
    have enough := length_le_flatMap filled
    rw [List.append_assoc]
    exact takeCount_bytesOf order fits (by rw [List.length_append]; omega)
  have elements := Reads.many each
  constructor
  · intro holds rest
    simp only [takeList, counted, Bind.bind, Except.bind, elements.ok holds]
  · intro fails rest
    simp only [takeList, counted, Bind.bind, Except.bind]
    exact elements.fault fails rest

theorem Shape.ofCode?_code (shape : Shape) : ofCode? shape.code = some shape := by
  cases shape <;> rfl

theorem Reads.headed {front : List UInt8} {h : Header} {shape : Shape} {n : Nat} {sound : Nat → Prop} {g : Geometry}
    (opens : ∀ rest, takeHeader (front ++ rest) = .ok (h, rest)) (shaped : h.code = shape.code)
    (body : ∀ depth, Reads (takeBody depth h shape) bytes (sound depth) g) :
    Reads (takeGeometry n) (front ++ bytes) (0 < n ∧ sound (n - 1)) g := by
  cases n with
  | zero => exact ⟨fun holds => absurd holds.1 (Nat.lt_irrefl 0), fun _ _ => ⟨.tooDeep, rfl, .inr rfl⟩⟩
  | succ depth =>
    have opened : ∀ rest, takeGeometry (depth + 1) (front ++ bytes ++ rest) = takeBody depth h shape (bytes ++ rest) := by
      intro rest
      rw [takeGeometry_succ, List.append_assoc, opens]
      simp only [Bind.bind, Except.bind]
      rw [shaped, Shape.ofCode?_code]
    constructor
    · intro holds rest
      rw [opened]
      exact (body depth).ok holds.2 rest
    · intro fails rest
      rw [opened]
      exact (body depth).fault (fun holds => fails ⟨Nat.succ_pos depth, holds⟩) rest

end Written

end FeatureLayers.Wkb
