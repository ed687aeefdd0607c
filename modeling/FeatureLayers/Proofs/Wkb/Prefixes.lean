import FeatureLayers.Decode.Row
import FeatureLayers.Proofs.Wkb.Taking

namespace FeatureLayers.Wkb

def Fault.isShortage : Fault → Bool
  | .endOfData | .countTooLarge _ _ => true
  | _ => false

section Steps

variable {α β : Type}

/-- More bytes leave what was taken as it is, and also what was found wrong unless it was a shortage. -/
structure Steady (take : Taking α) : Prop where
  ok {bytes : List UInt8} {a : α} {rest : List UInt8} (taken : take bytes = .ok (a, rest)) (more : List UInt8) :
    take (bytes ++ more) = .ok (a, rest ++ more)
  fault {bytes : List UInt8} {fault : Fault} (found : take bytes = .error fault) (lasting : fault.isShortage = false)
    (more : List UInt8) : take (bytes ++ more) = .error fault

theorem Steady.pure (a : α) : Steady fun rest => .ok (a, rest) where
  ok taken more := by
    cases taken
    rfl
  fault found := by cases found

theorem Steady.refuse (f : Fault) : Steady (α := α) fun _ => .error f where
  ok taken := by cases taken
  fault found _ _ := found

theorem Steady.bind {take : Taking α} {next : α × List UInt8 → Except Fault (β × List UInt8)} (first : Steady take)
    (second : ∀ a, Steady fun rest => next (a, rest)) : Steady fun bytes => take bytes >>= next where
  ok {bytes b rest} taken more := by
    cases found : take bytes with
    | error f =>
      rw [found] at taken
      cases taken
    | ok read =>
      rw [found] at taken
      rw [first.ok found more]
      exact (second read.1).ok taken more
  fault {bytes f} refused lasting more := by
    cases found : take bytes with
    | error f' =>
      rw [found] at refused
      obtain rfl : f' = f := Except.error.inj refused
      rw [first.fault found lasting more]
      rfl
    | ok read =>
      rw [found] at refused
      rw [first.ok found more]
      exact (second read.1).fault refused lasting more

theorem Steady.map {take : Taking α} (steady : Steady take) (f : α → β) : Steady (take.map f) :=
  steady.bind fun a => .pure (f a)

theorem Steady.ite {take other : Taking α} (condition : Prop) [Decidable condition] (first : Steady take)
    (second : Steady other) : Steady fun rest => if condition then take rest else other rest := by
  by_cases holds : condition
  · simp only [if_pos holds]
    exact first
  · simp only [if_neg holds]
    exact second

theorem Steady.byte {take : Taking α} (empty : take [] = .error .endOfData)
    (each : ∀ b, Steady fun rest => take (b :: rest)) : Steady take where
  ok {bytes _ _} taken := by
    cases bytes with
    | nil =>
      rw [empty] at taken
      cases taken
    | cons b bytes => exact (each b).ok taken
  fault {bytes _} found lasting := by
    cases bytes with
    | nil =>
      rw [empty] at found
      cases found
      cases lasting
    | cons b bytes => exact (each b).fault found lasting

theorem steady_takeBytes (count : Nat) : Steady (takeBytes count) := by
  induction count with
  | zero => exact Steady.pure []
  | succ count ih => exact Steady.byte rfl fun b => ih.bind fun others => Steady.pure (b :: others)

theorem steady_takeByteOrder : Steady takeByteOrder :=
  Steady.byte rfl fun b => Steady.ite (b = 0) (Steady.pure ByteOrder.bigEndian)
    (Steady.ite (b = 1) (Steady.pure ByteOrder.littleEndian) (Steady.refuse (.byteOrder b)))

variable (order : ByteOrder)

theorem steady_takeWord : Steady (takeWord order) := (steady_takeBytes 4).bind fun word => .pure (order.natOf word)

theorem steady_takeDouble : Steady (takeDouble order) :=
  (steady_takeBytes 8).bind fun word => Steady.pure (⟨UInt64.ofNat (order.natOf word)⟩ : Double)

/-- A count that the bytes left allow is allowed by more of them; only one found too large may come to be allowed. -/
theorem steady_takeCount : Steady (takeCount order) := by
  refine (steady_takeWord order).bind fun count => ?_
  constructor
  · intro bytes a rest taken more
    have enough : ¬ bytes.length < count := fun short => by
      dsimp only at taken
      rw [if_pos short] at taken
      cases taken
    dsimp only at taken ⊢
    rw [if_neg enough] at taken
    cases taken
    rw [if_neg (by rw [List.length_append]; omega)]
    rfl
  · intro bytes f found lasting more
    dsimp only at found
    split at found
    · cases found
      cases lasting
    · cases found

theorem steady_takeMany {take : Taking α} (steady : Steady take) (count : Nat) : Steady (takeMany take count) := by
  induction count with
  | zero => exact Steady.pure []
  | succ count ih => exact steady.bind fun first => ih.bind fun others => .pure (first :: others)

theorem steady_takeList {take : Taking α} (steady : Steady take) : Steady (takeList order take) :=
  (steady_takeCount order).bind fun count => steady_takeMany steady count

end Steps

section Pieces

variable (h : Header)

theorem steady_takeHeader : Steady takeHeader := by
  refine steady_takeByteOrder.bind fun order => (steady_takeWord order).bind fun word => ?_
  have told : Steady fun rest => do
      let told ← splitTypeWord word
      return (Header.mk order told.1 told.2, rest) := by
    cases splitTypeWord word with
    | error f => exact Steady.refuse f
    | ok told => exact Steady.pure (Header.mk order told.1 told.2)
  exact Steady.ite _ ((steady_takeWord order).bind fun _ => told) told

theorem steady_takeCoord : Steady (takeCoord h) :=
  (steady_takeDouble h.order).bind fun x => (steady_takeDouble h.order).bind fun y =>
    (steady_takeMany (steady_takeDouble h.order) h.extra).bind fun _ => Steady.pure (⟨x, y⟩ : Coord)

theorem steady_takeLine : Steady (takeLine h) := steady_takeList h.order (steady_takeCoord h)

theorem steady_takePolygon : Steady (takePolygon h) := by
  rw [takePolygon_eq]
  exact (steady_takeList h.order (steady_takeLine h)).map polygonOf

theorem steady_takePoint : Steady (takePoint h) :=
  (steady_takeCoord h).bind fun c => Steady.ite _ (Steady.refuse .emptyPoint) (Steady.pure (Geometry.point c))

theorem steady_takeMembers {α : Type} {take : Taking Geometry} (steady : Steady take)
    (accept : Geometry → Except Fault α) : Steady (takeMembers h take accept) := by
  refine steady_takeList h.order (steady.bind fun g => ?_)
  dsimp only
  cases accept g with
  | error f => exact Steady.refuse f
  | ok a => exact Steady.pure a

theorem steady_takeGeometry (levels : Nat) : Steady (takeGeometry levels) := by
  induction levels with
  | zero => exact Steady.refuse .tooDeep
  | succ depth ih =>
    have body (h : Header) (shape : Shape) : Steady (takeBody depth h shape) := by
      cases shape with
      | point => exact steady_takePoint h
      | lineString => exact (steady_takeLine h).map _
      | polygon => exact (steady_takePolygon h).map _
      | multiPoint | multiLineString | multiPolygon | geometryCollection => exact (steady_takeMembers h ih _).map _
    rw [funext (takeGeometry_succ depth)]
    refine steady_takeHeader.bind fun h => ?_
    dsimp only
    cases Shape.ofCode? h.code with
    | none => exact Steady.refuse (.unknownType h.code)
    | some shape => exact body h shape

end Pieces

section Whole

variable {bytes : List UInt8} {g : Geometry}

theorem readWkb_ok_iff : Decode.readWkb bytes = .ok g ↔ takeGeometry (maxDepth + 1) bytes = .ok (g, []) := by
  unfold Decode.readWkb read
  cases takeGeometry (maxDepth + 1) bytes with
  | error f => exact ⟨nofun, nofun⟩
  | ok read =>
    obtain ⟨found, rest⟩ := read
    cases rest with
    | nil => exact ⟨fun h => by cases h; rfl, fun h => by cases h; rfl⟩
    | cons b rest => exact ⟨nofun, nofun⟩

theorem readWkb_append (accepted : Decode.readWkb bytes = .ok g) {more : List UInt8} (longer : more ≠ []) :
    Decode.readWkb (bytes ++ more) = .error (.wkb (.trailing more.length)) := by
  have taken := (steady_takeGeometry (maxDepth + 1)).ok (readWkb_ok_iff.mp accepted) more
  have left : more.isEmpty = false := List.isEmpty_eq_false_iff.mpr longer
  rw [Decode.readWkb, read, taken]
  simp only [Bind.bind, Except.bind, List.nil_append, left]
  rfl

theorem readWkb_front {front more : List UInt8} (accepted : Decode.readWkb (front ++ more) = .ok g)
    (shorter : more ≠ []) : ∃ fault, fault.isShortage ∧ Decode.readWkb front = .error (.wkb fault) := by
  have steady := steady_takeGeometry (maxDepth + 1)
  have whole := readWkb_ok_iff.mp accepted
  cases found : takeGeometry (maxDepth + 1) front with
  | ok taken =>
    -- What was taken would leave bytes over also of the accepted ones.
    have left := whole.symm.trans (steady.ok found more)
    have none : [] = taken.2 ++ more := congrArg Prod.snd (Except.ok.inj left)
    exact absurd (List.append_eq_nil_iff.mp none.symm).2 shorter
  | error fault =>
    have refused : Decode.readWkb front = .error (.wkb fault) := by
      rw [Decode.readWkb, read, found]
      rfl
    cases short : fault.isShortage with
    | true => exact ⟨fault, short, refused⟩
    | false => cases whole.symm.trans (steady.fault found short more)

/--
No accepted bytes begin other accepted bytes. What is cut short is refused for want of bytes, and what is too long is
refused with the surplus counted.
-/
theorem accepted_bytes_begin_no_others (accepted : Decode.readWkb bytes = .ok g) :
    (∀ front, front <+: bytes → front ≠ bytes →
      ∃ fault, fault.isShortage ∧ Decode.readWkb front = .error (.wkb fault)) ∧
    (∀ longer, bytes <+: longer → longer ≠ bytes →
      Decode.readWkb longer = .error (.wkb (.trailing (longer.length - bytes.length)))) ∧
    ∀ other g', Decode.readWkb other = .ok g' → bytes <+: other ∨ other <+: bytes → other = bytes := by
  have short (front : List UInt8) (begins : front <+: bytes) (proper : front ≠ bytes) :
      ∃ fault, fault.isShortage ∧ Decode.readWkb front = .error (.wkb fault) := by
    obtain ⟨more, rfl⟩ := begins
    exact readWkb_front accepted fun none => proper (by rw [none, List.append_nil])
  have long (longer : List UInt8) (goes : bytes <+: longer) (proper : longer ≠ bytes) :
      Decode.readWkb longer = .error (.wkb (.trailing (longer.length - bytes.length))) := by
    obtain ⟨more, rfl⟩ := goes
    rw [readWkb_append accepted fun none => proper (by rw [none, List.append_nil]), List.length_append,
      Nat.add_sub_cancel_left]
  refine ⟨short, long, fun other g' read comparable => Classical.byContradiction fun proper => ?_⟩
  rcases comparable with goes | begins
  · cases read.symm.trans (long other goes proper)
  · obtain ⟨fault, -, refused⟩ := short other begins proper
    cases read.symm.trans refused

section Cairn

/-- A pile of two stones, the first one big-endian and with a height. -/
def cairn : List UInt8 :=
  [1, 4, 0, 0, 0, 2, 0, 0, 0] ++
    [0, 0, 0, 3, 233] ++ [63, 240, 0, 0, 0, 0, 0, 0] ++ [64, 0, 0, 0, 0, 0, 0, 0] ++ [64, 8, 0, 0, 0, 0, 0, 0] ++
    [1, 1, 0, 0, 0] ++ [0, 0, 0, 0, 0, 0, 240, 63] ++ [0, 0, 0, 0, 0, 0, 0, 0]

def stones : Geometry := .multiPoint [⟨⟨0x3ff0000000000000⟩, .two⟩, ⟨⟨0x3ff0000000000000⟩, .zero⟩]

theorem half_a_cairn_is_refused :
    Decode.readWkb cairn = .ok stones ∧
    (∃ fault, fault.isShortage ∧ Decode.readWkb (cairn.take 38) = .error (.wkb fault)) ∧
    Decode.readWkb (cairn ++ cairn) = .error (.wkb (.trailing cairn.length)) := by
  have accepted : Decode.readWkb cairn = .ok stones := by rfl
  obtain ⟨short, long, -⟩ := accepted_bytes_begin_no_others accepted
  exact ⟨accepted, short _ ⟨cairn.drop 38, List.take_append_drop 38 cairn⟩ (by decide),
    long _ ⟨cairn, rfl⟩ (by decide)⟩

end Cairn

end Whole

end FeatureLayers.Wkb
