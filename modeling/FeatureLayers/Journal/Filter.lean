import FeatureLayers.Journal
import FeatureLayers.Numeric.Reading
import FeatureLayers.Text.Blank

namespace FeatureLayers.Journal

def levelRanks : List (String × Nat) := [("off", 0), ("error", 1), ("warn", 2), ("info", 3), ("debug", 4), ("trace", 5)]

def rankOf? (text : List Char) : Option Nat :=
  match (nat64? text).filter (· ≤ 5) with
  | some rank => some rank
  | none => if text.isEmpty then some 1 else levelRanks.lookup (Text.lowerText (String.ofList text))

structure Directive where
  target : Option (List Char)
  rank : Nat
  isForSpans : Bool
deriving DecidableEq, Repr, Inhabited

def everything : Nat := 5

def startsDirective (c : Char) : Bool :=
  c.isAlphanum || c = '-' || c = ':' || c = '_' || (128 ≤ c.toNat && !Text.isBlank c)

def rankBehind? (text : List Char) : Option Nat := if text.isEmpty then some everything else rankOf? text

def spanLevel? (text : List Char) : Option Nat :=
  match text.dropWhile (· != ']') with
  | [']'] => some everything
  | ']' :: '=' :: level => rankBehind? level
  | _ => none

namespace Directive

/-- One directive. A target alone lets everything through, and blanks in front of it are part of it. -/
def ofChars? (text : List Char) : Option Directive :=
  match Text.trim text with
  | [] => none
  | '[' :: span => (spanLevel? span).map fun rank => ⟨none, rank, true⟩
  | first :: _ =>
    if !startsDirective first then none
    else
      let target := text.takeWhile fun c => c != '=' && c != '['
      match text.dropWhile fun c => c != '=' && c != '[' with
      | [] => match rankOf? text with
        | some rank => some ⟨none, rank, false⟩
        | none => some ⟨some text, everything, false⟩
      | '=' :: level => (rankBehind? level).map fun rank => ⟨some target, rank, false⟩
      | _ :: span => (spanLevel? span).map fun rank => ⟨some target, rank, true⟩

def targetLength (d : Directive) : Nat := d.target.elim 0 fun target => target.length + 1

def concerns (d : Directive) (topic : Topic) : Bool :=
  !d.isForSpans && d.target.all fun target => Text.startsWith target topic.path.toList

end Directive

abbrev Filter := List Directive

namespace Filter

def errorsOnly : Filter := [⟨none, 1, false⟩]

def ofChars? (text : List Char) : Option Filter := do
  let directives ← ((Text.splitOnChar ',' text).filter (!·.isEmpty)).mapM Directive.ofChars?
  return if directives.isEmpty then errorsOnly else directives

def infoAndAbove : Filter := [⟨none, 3, false⟩]

/-- The filter of a text; one that is malformed counts as `info`. The database driver never says less than a warning. -/
def ofText (text : String) : Filter :=
  (ofChars? text.toList).getD infoAndAbove ++ [⟨some "duckdb".toList, 2, false⟩]

/-- The directive that decides: the longest target, and the last of them. -/
def decisive? (f : Filter) (topic : Topic) : Option Directive :=
  (f.filter (·.concerns topic)).foldl (fun best? d =>
    match best? with
    | some best => if best.targetLength ≤ d.targetLength then some d else some best
    | none => some d) none

def admits (f : Filter) (entry : Entry) : Bool := (f.decisive? entry.topic).any fun d => entry.level.rank ≤ d.rank

end Filter

end FeatureLayers.Journal
