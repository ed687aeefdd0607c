import FeatureLayers.Proofs.Numeric.Digits
import FeatureLayers.Proofs.Query.Composed
import FeatureLayers.Proofs.Query.Token

namespace FeatureLayers.Query

open Token

def Plain (text : String) : Prop := ∀ c ∈ text.toList, isQuote c = false

instance (text : String) : Decidable (Plain text) := List.decidableBAll _ text.toList

theorem plain_append {front back : String} : Plain (front ++ back) ↔ Plain front ∧ Plain back := by
  simp only [Plain, String.toList_append, List.forall_mem_append]

section Numbers

theorem isQuote_digit {c : Char} (digit : c.isDigit) : isQuote c = false := by
  rw [isQuote, Bool.or_eq_false_iff, decide_eq_false_iff_not, decide_eq_false_iff_not]
  constructor <;> rintro rfl <;> exact absurd digit (by decide)

theorem digitChars_plain (n : Nat) : ∀ c ∈ digitChars n, isQuote c = false :=
  fun c member => isQuote_digit (digitChars_digits n c member)

theorem intText_plain (n : Int) : Plain (intText n) := by
  intro c member
  rw [intText, String.toList_ofList, intChars] at member
  split at member
  · rcases List.mem_cons.mp member with rfl | digit
    · rfl
    · exact digitChars_plain _ c digit
  · exact digitChars_plain _ c member

theorem zeros_plain (n : Nat) : ∀ c ∈ zeros n, isQuote c = false := by
  intro c member
  rw [List.eq_of_mem_replicate member]
  rfl

theorem positional_plain {digits : List Char} (plain : ∀ c ∈ digits, isQuote c = false) (point : Int) :
    ∀ c ∈ Decimal.positional digits point, isQuote c = false := by
  intro c member
  unfold Decimal.positional at member
  split at member
  · simp only [List.cons_append, List.mem_cons, List.mem_append] at member
    rcases member with rfl | rfl | zero | digit
    · rfl
    · rfl
    · exact zeros_plain _ c zero
    · exact plain c digit
  · split at member
    · rcases List.mem_append.mp member with digit | zero
      · exact plain c digit
      · exact zeros_plain _ c zero
    · rcases List.mem_append.mp member with digit | digit
      · exact plain c (List.mem_of_mem_take digit)
      · rcases List.mem_cons.mp digit with rfl | digit
        · rfl
        · exact plain c (List.mem_of_mem_drop digit)

theorem toText_plain (x : Double) : Plain x.toText := by
  intro c member
  have sign : ∀ c ∈ x.signChars, isQuote c = false := by
    unfold Double.signChars
    split
    · intro c minus
      rw [List.mem_singleton.mp minus]
      rfl
    · exact nofun
  rw [Double.toText, String.toList_ofList, Double.positionalChars] at member
  split at member
  · exact (by decide : Plain "NaN") c member
  · split at member
    · rcases List.mem_append.mp member with here | here
      · exact sign c here
      · exact (by decide : Plain "inf") c here
    · split at member
      · rcases List.mem_append.mp member with here | here
        · exact sign c here
        · rw [List.mem_singleton.mp here]
          rfl
      · rcases List.mem_append.mp member with here | here
        · exact sign c here
        · exact positional_plain (digitChars_plain _) _ c here

theorem toWkt_plain (box : BoundingBox) : Plain box.toWkt := by
  have west := toText_plain box.xmin
  have south := toText_plain box.ymin
  have east := toText_plain box.xmax
  have north := toText_plain box.ymax
  have start : Plain "POLYGON((" := by decide
  have blank : Plain " " := by decide
  have comma : Plain ", " := by decide
  have close : Plain "))" := by decide
  unfold BoundingBox.toWkt
  simp only [plain_append, west, south, east, north, start, blank, comma, close, and_self]

end Numbers

namespace Token

def write : Token → List Char
  | .sign c => [c]
  | .quoted quote text => quote :: Text.expand quote [quote, quote] text ++ [quote]

def signs (text : String) : List Token := text.toList.map .sign

def named (name : String) : Token := .quoted '"' name.toList

def literal (text : String) : Token := .quoted '\'' text.toList

end Token

def Apart (rest : List Char) : Prop := ∀ c, rest.head? = some c → isQuote c = false

/-- A text that makes up these tokens, whatever stands behind it. -/
structure Splits (text : String) (parts : List Token) : Prop where
  written : text.toList = parts.flatMap write
  scanned : ∀ rest, Apart rest → scan .outside (text.toList ++ rest) = parts ++ scan .outside rest

theorem Apart.nil : Apart [] := nofun

theorem Apart.append {text rest : List Char} (before : Apart text) (behind : Apart rest) : Apart (text ++ rest) := by
  cases text with
  | nil => exact behind
  | cons c text => exact before

theorem Plain.apart {text : String} (plain : Plain text) : Apart text.toList :=
  fun c first => plain c (List.mem_of_head? first)

namespace Splits

variable {front back text name : String} {parts frontParts backParts : List Token}

theorem tokens_eq (splits : Splits text parts) : tokens text = parts := by
  have whole := splits.scanned [] .nil
  rw [List.append_nil] at whole
  exact whole.trans (List.append_nil parts)

theorem nil : Splits "" [] := ⟨rfl, fun _ _ => rfl⟩

theorem append (first : Splits front frontParts) (second : Splits back backParts) (apart : Apart back.toList) :
    Splits (front ++ back) (frontParts ++ backParts) := by
  constructor
  · rw [String.toList_append, List.flatMap_append, first.written, second.written]
  · intro rest behind
    have onward := first.scanned (back.toList ++ rest) (apart.append behind)
    rw [String.toList_append, List.append_assoc, onward, second.scanned rest behind, List.append_assoc]

theorem plain_append (plain : Plain front) (second : Splits back backParts) :
    Splits (front ++ back) (signs front ++ backParts) := by
  constructor
  · have each : (signs front).flatMap write = front.toList := by
      rw [signs, List.flatMap_map]
      exact List.flatMap_singleton' front.toList
    rw [String.toList_append, List.flatMap_append, each, second.written]
  · intro rest behind
    rw [String.toList_append, List.append_assoc, scan_signs plain, second.scanned rest behind, List.append_assoc]
    rfl

theorem append_plain {middle : String} (first : Splits front frontParts) (plain : Plain middle) (filled : middle ≠ "")
    (second : Splits back backParts) : Splits (front ++ (middle ++ back)) (frontParts ++ (signs middle ++ backParts)) := by
  refine first.append (plain_append plain second) ?_
  intro c start
  obtain ⟨d, rest, split⟩ : ∃ d rest, middle.toList = d :: rest :=
    List.exists_cons_of_ne_nil fun empty => filled (String.toList_eq_nil_iff.mp empty)
  rw [String.toList_append, split] at start
  cases start
  exact plain c (split ▸ List.mem_cons_self)

theorem plain (plain : Plain text) : Splits text (signs text) := by
  have alone := plain_append plain nil
  rwa [String.append_empty, List.append_nil] at alone

theorem append_signs (first : Splits front frontParts) (plain : Plain back) :
    Splits (front ++ back) (frontParts ++ signs back) := first.append (.plain plain) plain.apart

theorem quoteName (name : String) : Splits (quoteName name) [named name] := by
  constructor
  · rw [FeatureLayers.quoteName, String.toList_ofList]
    exact (List.append_nil _).symm
  · intro rest behind
    refine scan_quoteName (fun quote => ?_) name
    exact absurd (behind '"' quote) (by decide)

theorem quoteLiteral (text : String) : Splits (quoteLiteral text) [Token.literal text] := by
  constructor
  · rw [FeatureLayers.quoteLiteral, String.toList_ofList]
    exact (List.append_nil _).symm
  · intro rest behind
    have ended : rest.head? ≠ some '\'' := fun quote => absurd (behind '\'' quote) (by decide)
    rw [FeatureLayers.quoteLiteral, String.toList_ofList, List.append_assoc]
    exact scan_quoted rfl ended text.toList

theorem literal (plain : Plain text) : Splits ("'" ++ text ++ "'") [literal text] := by
  have single : Text.expand '\'' ['\'', '\''] text.toList = text.toList := by
    have same : ∀ c ∈ text.toList, (if c = '\'' then ['\'', '\''] else [c]) = [c] := by
      intro c member
      refine if_neg fun quote => ?_
      exact absurd (plain c member) (by rw [quote]; decide)
    rw [Text.expand, List.flatMap_congr same]
    exact List.flatMap_singleton' text.toList
  have whole : ("'" ++ text ++ "'").toList = '\'' :: Text.expand '\'' ['\'', '\''] text.toList ++ ['\''] := by
    rw [single, String.toList_append, String.toList_append]
    rfl
  constructor
  · rw [whole]
    exact (List.append_nil _).symm
  · intro rest behind
    have ended : rest.head? ≠ some '\'' := fun quote => absurd (behind '\'' quote) (by decide)
    rw [whole, List.append_assoc]
    exact scan_quoted rfl ended text.toList

theorem intercalate {α : Type} {separator : String} (plain : Plain separator) (filled : separator ≠ "") {text : α → String}
    {parts : α → List Token} {items : List α} (each : ∀ item ∈ items, Splits (text item) (parts item)) :
    Splits (separator.intercalate (items.map text)) ((signs separator).intercalate (items.map parts)) := by
  induction items with
  | nil => exact nil
  | cons item items ih =>
    have first := each item List.mem_cons_self
    have others := ih fun other member => each other (List.mem_cons_of_mem _ member)
    cases items with
    | nil =>
      rw [List.map_singleton, List.map_singleton, List.intercalate_singleton]
      exact first
    | cons next items =>
      rw [List.map_cons, List.map_cons, List.map_cons, List.map_cons, String.intercalate_cons_cons,
        List.intercalate_cons_cons, String.append_assoc, List.append_assoc]
      exact first.append_plain plain filled others

end Splits

end FeatureLayers.Query
