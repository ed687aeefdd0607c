import FeatureLayers.Source.Basic

namespace FeatureLayers.Query

inductive Token
  | sign (c : Char)
  | quoted (quote : Char) (text : List Char)
deriving DecidableEq, Repr

namespace Token

def isQuote (c : Char) : Bool := c = '"' || c = '\''

/-- Where the reader stands; what was read between quotes is kept last character first. -/
inductive State
  | outside
  | inside (quote : Char) (read : List Char)
  | closing (quote : Char) (read : List Char)

def opening (c : Char) : List Token × State := if isQuote c then ([], .inside c []) else ([.sign c], .outside)

def step : State → Char → List Token × State
  | .outside, c => opening c
  | .inside quote read, c => ([], if c = quote then .closing quote read else .inside quote (c :: read))
  | .closing quote read, c =>
    if c = quote then ([], .inside quote (c :: read))
    else (.quoted quote read.reverse :: (opening c).1, (opening c).2)

def finish : State → List Token
  | .closing quote read => [.quoted quote read.reverse]
  | .outside | .inside _ _ => []

def scan (state : State) : List Char → List Token
  | [] => finish state
  | c :: rest => (step state c).1 ++ scan (step state c).2 rest

theorem scan_signs {text : List Char} (plain : ∀ c ∈ text, isQuote c = false) (rest : List Char) :
    scan .outside (text ++ rest) = text.map .sign ++ scan .outside rest := by
  induction text with
  | nil => rfl
  | cons c text ih =>
    have others := ih fun d member => plain d (List.mem_cons_of_mem _ member)
    have first : step .outside c = ([.sign c], .outside) := by
      simp [step, opening, plain c List.mem_cons_self]
    rw [List.cons_append, scan, first, others]
    rfl

theorem scan_inside {quote : Char} (read text rest : List Char) :
    scan (.inside quote read) (Text.expand quote [quote, quote] text ++ quote :: rest) =
      scan (.closing quote (text.reverse ++ read)) rest := by
  induction text generalizing read with
  | nil => simp [Text.expand, scan, step]
  | cons c text ih =>
    have onward := ih (c :: read)
    rw [List.reverse_cons, List.append_assoc, List.singleton_append, ← onward]
    by_cases same : c = quote
    · subst same
      simp [Text.expand, scan, step]
    · simp [Text.expand, scan, step, same]

theorem scan_closing {quote : Char} {rest : List Char} (ended : rest.head? ≠ some quote) (read : List Char) :
    scan (.closing quote read) rest = .quoted quote read.reverse :: scan .outside rest := by
  cases rest with
  | nil => rfl
  | cons c rest =>
    have other : c ≠ quote := fun same => ended (congrArg some same)
    simp [scan, step, other]

theorem scan_quoted {quote : Char} (mark : isQuote quote) {rest : List Char} (ended : rest.head? ≠ some quote)
    (text : List Char) : scan .outside (quote :: Text.expand quote [quote, quote] text ++ quote :: rest) =
      .quoted quote text :: scan .outside rest := by
  have opens : step .outside quote = ([], .inside quote []) := by
    simp [step, opening, mark]
  rw [List.cons_append, scan, opens, List.nil_append, scan_inside, scan_closing ended, List.append_nil,
    List.reverse_reverse]

theorem scan_quoteName {rest : List Char} (ended : rest.head? ≠ some '"') (name : String) :
    scan .outside ((quoteName name).toList ++ rest) = .quoted '"' name.toList :: scan .outside rest := by
  rw [quoteName, String.toList_ofList, List.append_assoc]
  exact scan_quoted rfl ended name.toList

def literals (tokens : List Token) : List String :=
  tokens.filterMap fun
    | .quoted '\'' text => some (String.ofList text)
    | _ => none

/-- The literals of the first list that follows an `IN`. -/
def inList? : List Token → Option (List String)
  | [] => none
  | token :: rest =>
    if ("IN (".toList.map sign).isPrefixOf (token :: rest) then some (literals (rest.takeWhile (· ≠ sign ')')))
    else inList? rest

theorem inList?_append {front : List Token} (other : sign 'I' ∉ front) (rest : List Token) :
    inList? (front ++ rest) = inList? rest := by
  induction front with
  | nil => rfl
  | cons token front ih =>
    have apart : sign 'I' ≠ token := fun same => other (same ▸ List.mem_cons_self)
    have others : sign 'I' ∉ front := fun member => other (List.mem_cons_of_mem _ member)
    have start : "IN (".toList.map sign = sign 'I' :: ['N', ' ', '('].map sign := by decide
    have unlike : (sign 'I' == token) = false := beq_eq_false_iff_ne.mpr apart
    rw [List.cons_append, inList?, start, List.isPrefixOf, unlike, Bool.false_and, if_neg Bool.false_ne_true, ih others]

end Token

def tokens (text : String) : List Token := Token.scan .outside text.toList

end FeatureLayers.Query
