import FeatureLayers.Json.Reading
import FeatureLayers.Proofs.Numeric.Digits
import FeatureLayers.Proofs.Numeric.Shortest

namespace FeatureLayers

namespace Json

def Stops (rest : List Char) : Prop := ∀ c ∈ rest.head?, isDigit c = false ∧ c ≠ '.' ∧ c ≠ 'e' ∧ c ≠ 'E'

theorem stops_nil : Stops [] := nofun

theorem Stops.noDigit {rest : List Char} (stops : Stops rest) : NoDigit rest := fun c first => (stops c first).1

theorem stops_cons {c : Char} (rest : List Char) (other : isDigit c = false ∧ c ≠ '.' ∧ c ≠ 'e' ∧ c ≠ 'E') :
    Stops (c :: rest) := by
  rintro _ ⟨⟩
  exact other

namespace Literal

def exponentChars : Option (Bool × List Char) → List Char
  | none => []
  | some (negative, digits) => 'e' :: (if negative then '-' else '+') :: digits

def partChars (part : List Char) : List Char := if part.isEmpty then [] else '.' :: part

def chars (literal : Literal) : List Char :=
  (if literal.negative then ['-'] else []) ++
    (literal.whole ++ (partChars literal.part ++ exponentChars literal.exponent))

structure Whole (digits : List Char) : Prop where
  all : ∀ c ∈ digits, c.isDigit
  nonempty : digits ≠ []
  noZero : 1 < digits.length → digits.head? ≠ some '0'

theorem whole_digitChars (n : Nat) : Whole (digitChars n) :=
  ⟨digitChars_digits n, Nat.toDigits_ne_nil, digitChars_noZero n⟩

theorem whole_zero : Whole ['0'] := whole_digitChars 0

structure WellFormed (literal : Literal) : Prop where
  whole : Whole literal.whole
  part : ∀ c ∈ literal.part, c.isDigit
  exponent : ∀ e ∈ literal.exponent, e.2 ≠ [] ∧ ∀ c ∈ e.2, c.isDigit

variable {literal : Literal} {rest : List Char}

theorem takeExponent_chars {exponent : Option (Bool × List Char)}
    (digits : ∀ e ∈ exponent, e.2 ≠ [] ∧ ∀ c ∈ e.2, c.isDigit) (stops : Stops rest) :
    takeExponent (exponentChars exponent ++ rest) = some (exponent, rest) := by
  cases exponent with
  | none =>
    cases rest with
    | nil => rfl
    | cons c rest =>
      obtain ⟨-, -, small, capital⟩ := stops c rfl
      simp only [exponentChars, List.nil_append, takeExponent, small, capital, or_self, if_false]
  | some e =>
    obtain ⟨negative, run⟩ := e
    obtain ⟨nonempty, all⟩ := digits _ rfl
    have taken := takeWhile_digits all stops.noDigit
    have left := dropWhile_digits all stops.noDigit
    cases negative <;>
      simp [exponentChars, takeExponent, taken, left, nonempty]

theorem noDigit_exponentChars (exponent : Option (Bool × List Char)) (stops : Stops rest) :
    NoDigit (exponentChars exponent ++ rest) := by
  cases exponent with
  | none => exact stops.noDigit
  | some e => exact noDigit_cons _ (by decide)

theorem noDigit_partChars (part : List Char) (exponent : Option (Bool × List Char)) (stops : Stops rest) :
    NoDigit (partChars part ++ (exponentChars exponent ++ rest)) := by
  cases part with
  | nil => exact noDigit_exponentChars exponent stops
  | cons c part => exact noDigit_cons _ (by decide)

def takePart (text : List Char) : Option (List Char × List Char) :=
  match text with
  | '.' :: tail =>
    if (tail.takeWhile isDigit).isEmpty then none else some (tail.takeWhile isDigit, tail.dropWhile isDigit)
  | _ => some ([], text)

def takeMagnitude (negative : Bool) (text : List Char) : Option (Literal × List Char) :=
  let whole := text.takeWhile isDigit
  if whole.isEmpty || (1 < whole.length && whole.head? = some '0') then none
  else do
    let (part, rest) ← takePart (text.dropWhile isDigit)
    let (exponent, rest) ← takeExponent rest
    some (⟨negative, whole, part, exponent⟩, rest)

theorem takeLiteral_eq (text : List Char) : takeLiteral text =
    match text with
    | '-' :: rest => takeMagnitude true rest
    | _ => takeMagnitude false text := by
  unfold takeLiteral takeMagnitude takePart
  grind

theorem takePart_chars {part : List Char} (digits : ∀ c ∈ part, c.isDigit) (exponent : Option (Bool × List Char))
    (stops : Stops rest) :
    takePart (partChars part ++ (exponentChars exponent ++ rest)) = some (part, exponentChars exponent ++ rest) := by
  cases part with
  | nil =>
    change takePart (exponentChars exponent ++ rest) = _
    unfold takePart
    split
    · rename_i tail point
      cases exponent with
      | none =>
        obtain ⟨-, other, -⟩ := stops '.' (by rw [show rest = '.' :: tail from point]; rfl)
        exact absurd rfl other
      | some e => exact absurd (List.cons.inj point).1 (by decide)
    · rfl
  | cons c part =>
    have taken := takeWhile_digits digits (noDigit_exponentChars exponent stops)
    have left := dropWhile_digits digits (noDigit_exponentChars exponent stops)
    simp only [partChars, List.isEmpty_cons, Bool.false_eq_true, if_false, List.cons_append, takePart]
    rw [← List.cons_append, taken, left]
    rfl

theorem takeMagnitude_chars (formed : literal.WellFormed) (stops : Stops rest) :
    takeMagnitude literal.negative
      (literal.whole ++ (partChars literal.part ++ (exponentChars literal.exponent ++ rest))) =
        some (literal, rest) := by
  have ends := noDigit_partChars literal.part literal.exponent stops
  have proper : ¬(literal.whole.isEmpty || (1 < literal.whole.length && literal.whole.head? = some '0')) := by
    have noZero := formed.whole.noZero
    have nonempty := formed.whole.nonempty
    grind
  simp only [takeMagnitude, takeWhile_digits formed.whole.all ends, dropWhile_digits formed.whole.all ends]
  rw [if_neg proper, takePart_chars formed.part literal.exponent stops]
  simp only [Option.bind_eq_bind, Option.bind_some, takeExponent_chars formed.exponent stops]

theorem takeLiteral_chars (formed : literal.WellFormed) (stops : Stops rest) :
    takeLiteral (literal.chars ++ rest) = some (literal, rest) := by
  have magnitude := takeMagnitude_chars formed stops
  rw [takeLiteral_eq]
  cases sign : literal.negative with
  | true =>
    rw [sign] at magnitude
    simp only [chars, sign, if_true, List.cons_append, List.nil_append, List.append_assoc]
    exact magnitude
  | false =>
    obtain ⟨c, others, first⟩ := List.exists_cons_of_ne_nil formed.whole.nonempty
    have digit : c.isDigit := formed.whole.all c (by rw [first]; exact List.mem_cons_self)
    rw [sign] at magnitude
    simp only [chars, sign, Bool.false_eq_true, if_false, List.nil_append, List.append_assoc]
    split
    · rename_i tail signed
      rw [first] at signed
      rw [(List.cons.inj signed).1] at digit
      exact absurd digit (by decide)
    · exact magnitude

def ofInt (n : Int) : Literal := ⟨n < 0, digitChars n.natAbs, [], none⟩

theorem ofInt_chars (n : Int) : (ofInt n).chars = intChars n := by
  unfold ofInt chars intChars
  rcases Int.lt_or_le n 0 with negative | natural
  · simp [negative, partChars, exponentChars]
  · simp [Int.not_lt_of_ge natural, partChars, exponentChars]

theorem ofInt_wellFormed (n : Int) : (ofInt n).WellFormed :=
  ⟨whole_digitChars _, nofun, nofun⟩

end Literal

end Json

open Json (Literal)

namespace Decimal

/-- A decimal as a document writes it: in positional form, unless its point stands far from its digits. -/
def literal (negative : Bool) (digits : List Char) (power : Int) : Literal :=
  let point : Int := digits.length + power
  if 16 < point || point ≤ -5 then
    ⟨negative, digits.take 1, digits.drop 1, some (point - 1 < 0, digitChars (point - 1).natAbs)⟩
  else if 0 ≤ power then ⟨negative, digits ++ zeros power.toNat, ['0'], none⟩
  else if point ≤ 0 then ⟨negative, ['0'], zeros (-point).toNat ++ digits, none⟩
  else ⟨negative, digits.take point.toNat, digits.drop point.toNat, none⟩

variable {digits : List Char}

theorem exponentialChars_eq (digits : List Char) (nonempty : digits ≠ []) (exponent : Int) :
    Double.exponentialChars digits exponent =
      digits.take 1 ++ (Literal.partChars (digits.drop 1) ++
        Literal.exponentChars (some (exponent < 0, digitChars exponent.natAbs))) := by
  unfold Double.exponentialChars
  match digits, nonempty with
  | [d], _ => simp [Literal.partChars, Literal.exponentChars]
  | d :: e :: rest, _ => simp [Literal.partChars, Literal.exponentChars]

theorem literal_chars (negative : Bool) (nonempty : digits ≠ []) (power : Int) :
    (literal negative digits power).chars =
      (if negative then ['-'] else []) ++
        (if 16 < digits.length + power || digits.length + power ≤ -5 then
          Double.exponentialChars digits (digits.length + power - 1)
        else if 0 ≤ power then positional digits (digits.length + power) ++ ".0".toList
        else positional digits (digits.length + power)) := by
  have count : 0 < digits.length := List.length_pos_iff.mpr nonempty
  unfold literal
  dsimp only
  split
  · rw [exponentialChars_eq digits nonempty]
    rfl
  · split
    · have after : ¬(digits.length + power : Int) ≤ 0 := by omega
      have all : digits.length ≤ (digits.length + power).toNat := by omega
      have left : (digits.length + power).toNat - digits.length = power.toNat := by omega
      rw [positional, if_neg after, if_pos all, left]
      rfl
    · split
      · rename_i before
        rw [positional, if_pos before]
        simp [Literal.chars, Literal.partChars, Literal.exponentChars, nonempty]
      · rename_i after
        have within : ¬digits.length ≤ (digits.length + power).toNat := by omega
        rw [positional, if_neg after, if_neg within]
        simp [Literal.chars, Literal.partChars, Literal.exponentChars, within]

theorem literal_wellFormed (negative : Bool) {d : Char} (apart : d ≠ '0') {rest : List Char}
    (all : ∀ c ∈ d :: rest, c.isDigit) (power : Int) : (literal negative (d :: rest) power).WellFormed := by
  have filled (n : Nat) : Literal.Whole (d :: rest ++ zeros n) :=
    ⟨fun c among => (List.mem_append.mp among).elim (all c) (zeros_digits n c), List.cons_ne_nil _ _,
      fun _ head => apart (Option.some.inj head)⟩
  have begun (n : Nat) : Literal.Whole ((d :: rest).take (n + 1)) :=
    ⟨fun c among => all c (List.mem_of_mem_take among), List.cons_ne_nil _ _, fun _ head => apart (Option.some.inj head)⟩
  have left (n : Nat) : ∀ c ∈ (d :: rest).drop n, c.isDigit := fun c among => all c (List.mem_of_mem_drop among)
  unfold literal
  dsimp only
  split
  · refine ⟨begun 0, left 1, ?_⟩
    rintro _ ⟨⟩
    exact ⟨Nat.toDigits_ne_nil, digitChars_digits _⟩
  · split
    · exact ⟨filled _, Literal.whole_zero.all, nofun⟩
    · split
      · exact ⟨Literal.whole_zero, fun c among => (List.mem_append.mp among).elim (zeros_digits _ c) (all c), nofun⟩
      · generalize hn : ((d :: rest).length + power).toNat = n
        obtain ⟨n, rfl⟩ : ∃ m, n = m + 1 := ⟨n - 1, by omega⟩
        exact ⟨begun n, left _, nofun⟩

end Decimal

namespace Double

def literal (x : Double) : Literal :=
  if x.isZero then ⟨x.negative, ['0'], ['0'], none⟩
  else Decimal.literal x.negative (digitChars (x.shortest .toEven).digits) (x.shortest .toEven).power

variable {x : Double}

theorem literal_chars (finite : x.isFinite) : x.literal.chars = x.jsonChars := by
  unfold literal jsonChars
  rw [finite, Bool.not_true, if_neg Bool.false_ne_true]
  split
  · rfl
  · exact Decimal.literal_chars _ Nat.toDigits_ne_nil _

theorem literal_wellFormed (finite : x.isFinite) : x.literal.WellFormed := by
  unfold literal
  split
  · exact ⟨Literal.whole_zero, Literal.whole_zero.all, nofun⟩
  · rename_i apart
    have magnitude : x.magnitude ≠ 0 := by simpa [isZero] using apart
    have head := digitChars_head (shortest_pos finite magnitude .toEven)
    have all := digitChars_digits (x.shortest .toEven).digits
    obtain ⟨d, rest, written⟩ := List.exists_cons_of_ne_nil
      (Nat.toDigits_ne_nil (n := (x.shortest .toEven).digits) (b := 10))
    rw [digitChars, written] at head all ⊢
    exact Decimal.literal_wellFormed _ (fun zero => head (congrArg some zero)) all _

end Double

end FeatureLayers
