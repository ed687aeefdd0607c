namespace FeatureLayers.Text

def isBlank (c : Char) : Bool :=
  let n := c.toNat
  (0x9 ≤ n && n ≤ 0xd) || n = 0x20 || n = 0x85 || n = 0xa0 || n = 0x1680 || (0x2000 ≤ n && n ≤ 0x200a) ||
    n = 0x2028 || n = 0x2029 || n = 0x202f || n = 0x205f || n = 0x3000

def trimStart (text : List Char) : List Char := text.dropWhile isBlank

def dropEndWhile (test : Char → Bool) (text : List Char) : List Char :=
  (text.reverse.dropWhile test).reverse

def trimEnd (text : List Char) : List Char := dropEndWhile isBlank text

def trim (text : List Char) : List Char := trimEnd (trimStart text)

def trimText (text : String) : String := String.ofList (trim text.toList)

def startsWith (lead text : List Char) : Bool := lead.isPrefixOf text

def holds (pattern : List Char) : List Char → Bool
  | [] => pattern.isEmpty
  | c :: rest => startsWith pattern (c :: rest) || holds pattern rest

def holdsText (pattern text : String) : Bool := holds pattern.toList text.toList

def expand (c : Char) (run : List Char) (text : List Char) : List Char :=
  text.flatMap fun d => if d = c then run else [d]

def upperText (text : String) : String := String.ofList (text.toList.map Char.toUpper)

def lowerText (text : String) : String := String.ofList (text.toList.map Char.toLower)

def splitOnChar (separator : Char) : List Char → List (List Char)
  | [] => [[]]
  | c :: rest =>
    if c = separator then [] :: splitOnChar separator rest
    else match splitOnChar separator rest with
      | [] => [[c]]
      | piece :: pieces => (c :: piece) :: pieces

section Trimming

variable {lead body tail : List Char}

theorem dropWhile_blanks (blank : ∀ c ∈ lead, isBlank c) (solid : ∀ c ∈ body.head?, isBlank c = false) :
    (lead ++ body).dropWhile isBlank = body := by
  rw [List.dropWhile_append_of_pos blank]
  cases body with
  | nil => rfl
  | cons c body => exact List.dropWhile_cons_of_neg (by simp [solid c rfl])

theorem trimEnd_blanks (blank : ∀ c ∈ tail, isBlank c) (solid : ∀ c ∈ body.getLast?, isBlank c = false) :
    trimEnd (body ++ tail) = body := by
  have reversed : (tail.reverse ++ body.reverse).dropWhile isBlank = body.reverse := by
    refine dropWhile_blanks (fun c among => blank c (List.mem_reverse.mp among)) ?_
    rwa [List.head?_reverse]
  rw [trimEnd, dropEndWhile, List.reverse_append, reversed, List.reverse_reverse]

theorem trim_blanks (before : ∀ c ∈ lead, isBlank c) (after : ∀ c ∈ tail, isBlank c)
    (first : ∀ c ∈ body.head?, isBlank c = false) (last : ∀ c ∈ body.getLast?, isBlank c = false) :
    trim (lead ++ body ++ tail) = body := by
  cases body with
  | nil =>
    have all : ∀ c ∈ lead ++ tail, isBlank c := fun c among => (List.mem_append.mp among).elim (before c) (after c)
    rw [List.append_nil, trim, trimStart, ← List.append_nil (lead ++ tail), dropWhile_blanks all first]
    rfl
  | cons c body =>
    rw [trim, trimStart, List.append_assoc, dropWhile_blanks before (by simpa using first c), trimEnd_blanks after last]

theorem trim_solid (before : ∀ c ∈ lead, isBlank c) (after : ∀ c ∈ tail, isBlank c)
    (solid : ∀ c ∈ body, isBlank c = false) : trim (lead ++ body ++ tail) = body := by
  apply trim_blanks before after
  · intro c first
    exact solid c (List.mem_of_mem_head? first)
  · intro c last
    exact solid c (List.mem_of_mem_getLast? last)

end Trimming

end FeatureLayers.Text
