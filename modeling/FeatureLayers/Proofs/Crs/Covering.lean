import FeatureLayers.Crs.Transform
import FeatureLayers.Proofs.Numeric.Monotone

namespace FeatureLayers

namespace Double

/-- The number lies between the two, whichever of them is smaller. -/
def Between (a b x : Double) : Prop := a.le x = true ∧ x.le b = true ∨ b.le x = true ∧ x.le a = true

variable {f : Double → Double} {a b x low high : Double}

theorem Between.left (number : a.isNaN = false) (number' : b.isNaN = false) : Between a b a := by
  rcases le_total number number' with less | more
  · exact .inl ⟨le_refl number, less⟩
  · exact .inr ⟨more, le_refl number⟩

theorem Between.right (number : a.isNaN = false) (number' : b.isNaN = false) : Between a b b := by
  rcases le_total number number' with less | more
  · exact .inl ⟨less, le_refl number'⟩
  · exact .inr ⟨le_refl number', more⟩

theorem Between.half_add (moderate : a.Moderate) (moderate' : b.Moderate) : Between a b (a.add b).half := by
  have left := le_refl (isNaN_of_isFinite moderate.finite)
  have right := le_refl (isNaN_of_isFinite moderate'.finite)
  rcases le_total (isNaN_of_isFinite moderate.finite) (isNaN_of_isFinite moderate'.finite) with less | more
  · exact .inl (half_add_between moderate moderate' left less less right)
  · exact .inr (half_add_between moderate' moderate more left right more)

theorem Between.image (between : Between a b x) (monotonic : Monotonic f) (low : a.isFinite = true)
    (high : b.isFinite = true) : Between (f a) (f b) (f x) := by
  rcases between with ⟨above, below⟩ | ⟨above, below⟩
  · exact monotonic.between low high above below
  · exact (monotonic.between high low above below).symm

theorem Between.inside (between : Between a b x) (least : low.le a = true) (least' : low.le b = true)
    (most : a.le high = true) (most' : b.le high = true) : low.le x = true ∧ x.le high = true := by
  rcases between with ⟨above, below⟩ | ⟨above, below⟩
  · exact ⟨le_trans least above, le_trans below most'⟩
  · exact ⟨le_trans least' above, le_trans below most⟩

end Double

namespace BoundingBox

def Contains (b : BoundingBox) (c : Coord) : Prop :=
  (b.xmin.le c.x = true ∧ c.x.le b.xmax = true) ∧ b.ymin.le c.y = true ∧ c.y.le b.ymax = true

def Within (b other : BoundingBox) : Prop :=
  (other.xmin.le b.xmin = true ∧ b.xmax.le other.xmax = true) ∧
    other.ymin.le b.ymin = true ∧ b.ymax.le other.ymax = true

structure Numeric (b : BoundingBox) : Prop where
  xmin : b.xmin.isNaN = false
  ymin : b.ymin.isNaN = false
  xmax : b.xmax.isNaN = false
  ymax : b.ymax.isNaN = false

structure Moderate (b : BoundingBox) : Prop where
  xmin : b.xmin.Moderate
  ymin : b.ymin.Moderate
  xmax : b.xmax.Moderate
  ymax : b.ymax.Moderate

instance (b : BoundingBox) : Decidable b.Moderate :=
  decidable_of_iff (b.xmin.Moderate ∧ b.ymin.Moderate ∧ b.xmax.Moderate ∧ b.ymax.Moderate)
    ⟨fun ⟨xmin, ymin, xmax, ymax⟩ => ⟨xmin, ymin, xmax, ymax⟩, fun ⟨xmin, ymin, xmax, ymax⟩ => ⟨xmin, ymin, xmax, ymax⟩⟩

def corners (b : BoundingBox) : List Coord :=
  [⟨b.xmin, b.ymin⟩, ⟨b.xmax, b.ymin⟩, ⟨b.xmax, b.ymax⟩, ⟨b.xmin, b.ymax⟩]

def Spans (b : BoundingBox) (c : Coord) : Prop := b.xmin.Between b.xmax c.x ∧ b.ymin.Between b.ymax c.y

variable {a b d : BoundingBox} {c : Coord}

theorem Contains.spans (contained : b.Contains c) : b.Spans c := ⟨.inl contained.1, .inl contained.2⟩

theorem Within.refl (numeric : b.Numeric) : b.Within b :=
  ⟨⟨Double.le_refl numeric.xmin, Double.le_refl numeric.xmax⟩, Double.le_refl numeric.ymin, Double.le_refl numeric.ymax⟩

theorem ofCoord_eq (c : Coord) : ofCoord c = ⟨c.x, c.y, c.x, c.y⟩ := by
  have least (x : Double) : x.min x = x := (Double.min_cases x x).elim id id
  have most (x : Double) : x.max x = x := (Double.max_cases x x).elim id id
  simp only [ofCoord, normalized, least, most]

theorem ofCoord_within_iff : (ofCoord c).Within d ↔ d.Contains c := by
  rw [ofCoord_eq]
  exact Iff.rfl

theorem Numeric.union (left : a.Numeric) (right : b.Numeric) : (a.union b).Numeric :=
  ⟨Double.isNaN_min left.xmin right.xmin, Double.isNaN_min left.ymin right.ymin, Double.isNaN_max left.xmax right.xmax,
    Double.isNaN_max left.ymax right.ymax⟩

theorem union_within_iff (left : a.Numeric) (right : b.Numeric) : (a.union b).Within d ↔ a.Within d ∧ b.Within d := by
  simp only [Within, union, Double.le_min_iff left.xmin right.xmin, Double.le_min_iff left.ymin right.ymin,
    Double.max_le_iff left.xmax right.xmax, Double.max_le_iff left.ymax right.ymax]
  grind

end BoundingBox

namespace Crs

/-- The inverse takes each ordinate on its own, and monotonically. -/
def Transform.MapsBackByAxis (t : Transform) : Prop :=
  ∃ f g : Double → Double, Double.Monotonic f ∧ Double.Monotonic g ∧
    ∀ c : Coord, c.x.isFinite = true → c.y.isFinite = true → t.inverse c = ⟨f c.x, g c.y⟩

section Hull

open BoundingBox

variable {b d : BoundingBox} {t : Transform} {coords : List Coord}

theorem numeric_ofCoord {c : Coord} (x : c.x.isNaN = false) (y : c.y.isNaN = false) : (ofCoord c).Numeric := by
  rw [ofCoord_eq]
  exact ⟨x, y, x, y⟩

theorem foldl_union {box : BoundingBox} (numeric : box.Numeric)
    (numbers : ∀ c ∈ coords, c.x.isNaN = false ∧ c.y.isNaN = false) :
    let hull := coords.foldl (fun box d => box.union (.ofCoord d)) box
    hull.Numeric ∧ (hull.Within d ↔ box.Within d ∧ ∀ c ∈ coords, d.Contains c) := by
  induction coords generalizing box with
  | nil => simpa using numeric
  | cons c coords ih =>
    obtain ⟨x, y⟩ := numbers c List.mem_cons_self
    have point := numeric_ofCoord x y
    obtain ⟨hull, within⟩ := ih (numeric.union point) fun c member => numbers c (List.mem_cons_of_mem _ member)
    refine ⟨hull, ?_⟩
    rw [List.foldl_cons, within, union_within_iff numeric point, ofCoord_within_iff]
    simp [and_assoc]

theorem boxToSource_within_iff
    (numbers : ∀ c ∈ boxSamples b, (t.inverse c).x.isNaN = false ∧ (t.inverse c).y.isNaN = false) :
    (boxToSource b t).Numeric ∧
      ((boxToSource b t).Within d ↔ ∀ c ∈ boxSamples b, d.Contains (t.inverse c)) := by
  obtain ⟨first, rest, samples⟩ : ∃ first rest, boxSamples b = first :: rest := ⟨_, _, rfl⟩
  rw [samples] at numbers
  obtain ⟨x, y⟩ := numbers first List.mem_cons_self
  have images : ∀ c ∈ rest.map t.inverse, c.x.isNaN = false ∧ c.y.isNaN = false := by
    simpa using fun c member => numbers c (List.mem_cons_of_mem _ member)
  obtain ⟨numeric, within⟩ := foldl_union (d := d) (numeric_ofCoord x y) images
  unfold boxToSource
  rw [samples]
  refine ⟨numeric, within.trans ?_⟩
  rw [ofCoord_within_iff]
  simp

theorem samples_span (moderate : b.Moderate) : ∀ c ∈ boxSamples b, b.Spans c := by
  have xmin := Double.isNaN_of_isFinite moderate.xmin.finite
  have xmax := Double.isNaN_of_isFinite moderate.xmax.finite
  have ymin := Double.isNaN_of_isFinite moderate.ymin.finite
  have ymax := Double.isNaN_of_isFinite moderate.ymax.finite
  have west := Double.Between.left xmin xmax
  have east := Double.Between.right xmin xmax
  have south := Double.Between.left ymin ymax
  have north := Double.Between.right ymin ymax
  have middle := Double.Between.half_add moderate.xmin moderate.xmax
  have centre := Double.Between.half_add moderate.ymin moderate.ymax
  simp [boxSamples, Spans, west, east, south, north, middle, centre]

theorem spans_finite (moderate : b.Moderate) {c : Coord} (spans : b.Spans c) :
    c.x.isFinite = true ∧ c.y.isFinite = true := by
  have finite {a b x : Double} (low : a.isFinite = true) (high : b.isFinite = true) (between : a.Between b x) :
      x.isFinite = true := by
    rcases between with ⟨above, below⟩ | ⟨above, below⟩
    · exact Double.isFinite_of_le low high above below
    · exact Double.isFinite_of_le high low above below
  exact ⟨finite moderate.xmin.finite moderate.xmax.finite spans.1, finite moderate.ymin.finite moderate.ymax.finite spans.2⟩

/-- A box around the origins of the corners is one around those of all that lies between them. -/
theorem contains_of_corners (moderate : b.Moderate) (axial : t.MapsBackByAxis)
    (corners : ∀ c ∈ b.corners, d.Contains (t.inverse c)) {c : Coord} (spans : b.Spans c) :
    d.Contains (t.inverse c) := by
  obtain ⟨f, g, monotonic, monotonic', splits⟩ := axial
  obtain ⟨x, y⟩ := spans_finite moderate spans
  have lower := corners ⟨b.xmin, b.ymin⟩ (by simp [BoundingBox.corners])
  have upper := corners ⟨b.xmax, b.ymax⟩ (by simp [BoundingBox.corners])
  rw [splits _ moderate.xmin.finite moderate.ymin.finite] at lower
  rw [splits _ moderate.xmax.finite moderate.ymax.finite] at upper
  rw [splits c x y]
  exact ⟨(spans.1.image monotonic moderate.xmin.finite moderate.xmax.finite).inside lower.1.1 upper.1.1 lower.1.2
      upper.1.2,
    (spans.2.image monotonic' moderate.ymin.finite moderate.ymax.finite).inside lower.2.1 upper.2.1 lower.2.2 upper.2.2⟩

/-- The rectangle that is carried back contains whatever comes from it, and is the smallest box around the origins of its
corners. -/
theorem boxToSource_covers (moderate : b.Moderate) (axial : t.MapsBackByAxis) :
    (∀ c, b.Contains c → (boxToSource b t).Contains (t.inverse c)) ∧
    (∀ c ∈ b.corners, (boxToSource b t).Contains (t.inverse c)) ∧
    ∀ d : BoundingBox, (∀ c ∈ b.corners, d.Contains (t.inverse c)) → (boxToSource b t).Within d := by
  have spans := samples_span moderate
  have numbers : ∀ c ∈ boxSamples b, (t.inverse c).x.isNaN = false ∧ (t.inverse c).y.isNaN = false := by
    obtain ⟨f, g, monotonic, monotonic', splits⟩ := axial
    intro c member
    obtain ⟨x, y⟩ := spans_finite moderate (spans c member)
    rw [splits c x y]
    exact ⟨monotonic.number x, monotonic'.number y⟩
  have within (d : BoundingBox) := boxToSource_within_iff (d := d) numbers
  have around := (within _).2.mp (.refl (within (boxToSource b t)).1)
  have corners : ∀ c ∈ b.corners, (boxToSource b t).Contains (t.inverse c) := by
    intro c member
    exact around c (List.mem_append_left _ member)
  refine ⟨fun c contained => contains_of_corners moderate axial corners contained.spans, corners, fun d others => ?_⟩
  exact (within d).2.mpr fun c member => contains_of_corners moderate axial others (spans c member)

end Hull

section Affine

variable {scale dx dy : Double}

theorem affine_mapsBackByAxis (source target : Int) (finite : scale.isFinite = true) (apart : scale.isZero = false)
    (east : dx.isFinite = true) (north : dy.isFinite = true) :
    (Transform.affine source target scale dx dy).MapsBackByAxis := by
  have axis {shift : Double} (fixed : shift.isFinite = true) : Double.Monotonic fun v => (v.sub shift).div scale := by
    have quotient {u v : Double} (less : u.le v = true) := Double.div_le_div finite apart less
    cases sign : scale.negative with
    | false =>
      refine .inl fun x y left right less => ?_
      simpa [sign] using quotient (Double.sub_increasing fixed x y left right less)
    | true =>
      refine .inr fun x y left right less => ?_
      simpa [sign] using quotient (Double.sub_increasing fixed x y left right less)
  exact ⟨_, _, axis east, axis north, fun _ _ _ => rfl⟩

def turnedSheet : Transform := .affine 31287 4326 (.ofInt (-2)) (.ofInt 10) .zero

def sheet : BoundingBox := ⟨.ofInt 10, .ofInt 0, .ofInt 20, .ofInt 4⟩

theorem turned_sheet_is_covered :
    sheet.Moderate ∧ turnedSheet.MapsBackByAxis ∧
    (boxToSource sheet turnedSheet).xmin = .ofInt (-5) ∧
    (∀ c, sheet.Contains c → (boxToSource sheet turnedSheet).Contains (turnedSheet.inverse c)) ∧
    (∀ c ∈ sheet.corners, (boxToSource sheet turnedSheet).Contains (turnedSheet.inverse c)) ∧
    ∀ d : BoundingBox, (∀ c ∈ sheet.corners, d.Contains (turnedSheet.inverse c)) →
      (boxToSource sheet turnedSheet).Within d := by
  have moderate : sheet.Moderate := by decide +kernel
  have axial : turnedSheet.MapsBackByAxis :=
    affine_mapsBackByAxis 31287 4326 (by decide +kernel) (by decide +kernel) (by decide +kernel) (by decide +kernel)
  exact ⟨moderate, axial, by decide +kernel, boxToSource_covers moderate axial⟩

end Affine

end Crs

end FeatureLayers
