import FeatureLayers.Proofs.Json.Literals
import FeatureLayers.Proofs.Json.Strings

namespace FeatureLayers.Json

mutual

def tokens : Json → List Token
  | .null => [.null]
  | .bool b => [.bool b]
  | .int n => [.number (.ofInt n)]
  | .double x => [if x.isFinite then .number x.literal else .null]
  | .string s => [.string s]
  | .array items => .openArray :: itemTokens true items
  | .object members => .openObject :: memberTokens true members

def itemTokens (first : Bool) : List Json → List Token
  | [] => [.closeArray]
  | item :: rest => (if first then [] else [.comma]) ++ (tokens item ++ itemTokens false rest)

def memberTokens (first : Bool) : List (String × Json) → List Token
  | [] => [.closeObject]
  | (name, value) :: rest =>
    (if first then [] else [.comma]) ++ .string name :: .colon :: (tokens value ++ memberTokens false rest)

end

mutual

def node : Json → Node
  | .null => .null
  | .bool b => .bool b
  | .int n => .number (.ofInt n)
  | .double x => if x.isFinite then .number x.literal else .null
  | .string s => .string s
  | .array items => .array (itemNodes items)
  | .object members => .object (memberNodes members)

def itemNodes : List Json → List Node
  | [] => []
  | item :: rest => node item :: itemNodes rest

def memberNodes : List (String × Json) → List (Option String × Node)
  | [] => []
  | (name, value) :: rest => (some name, node value) :: memberNodes rest

end

/-- The text is cut into these tokens, whatever value or mark follows it. -/
structure Lexes (chars : List Char) (tokens : List Token) : Prop where
  short : tokens.length ≤ chars.length
  read : ∀ rest, Stops rest → ∀ fuel,
    tokens? (fuel + tokens.length) (chars ++ rest) = (tokens? fuel rest).map (tokens ++ ·)

namespace Lexes

variable {c : Char} {token : Token} {chars others : List Char} {tokens later : List Token}

theorem tokens?_cons {rest : List Char} (solid : isSpace c = false)
    (taken : takeToken (c :: chars) = some (token, rest)) (fuel : Nat) :
    tokens? (fuel + 1) (c :: chars) = (tokens? fuel rest).map (token :: ·) := by
  have kept : (c :: chars).dropWhile isSpace = c :: chars := List.dropWhile_cons_of_neg (by simp [solid])
  simp [tokens?, kept, taken]

theorem of_token (solid : isSpace c = false)
    (taken : ∀ rest, Stops rest → takeToken (c :: chars ++ rest) = some (token, rest)) : Lexes (c :: chars) [token] :=
  ⟨Nat.succ_le_succ (Nat.zero_le _), fun rest stops fuel => tokens?_cons solid (taken rest stops) fuel⟩

theorem mark (solid : isSpace c = false) (taken : ∀ rest, takeToken (c :: rest) = some (token, rest))
    (behind : Lexes chars tokens) : Lexes (c :: chars) (token :: tokens) where
  short := Nat.succ_le_succ behind.short
  read rest stops fuel := by
    rw [List.length_cons, ← Nat.add_assoc, List.cons_append, tokens?_cons solid (taken _), behind.read rest stops,
      Option.map_map]
    rfl

theorem append (first : Lexes chars tokens) (second : Lexes others later) (apart : ∀ rest, Stops (others ++ rest)) :
    Lexes (chars ++ others) (tokens ++ later) where
  short := by
    have := first.short
    have := second.short
    rw [List.length_append, List.length_append]
    omega
  read rest stops fuel := by
    have reordered : fuel + (tokens ++ later).length = fuel + later.length + tokens.length := by
      rw [List.length_append]
      omega
    rw [reordered, List.append_assoc, first.read _ (apart rest), second.read rest stops, Option.map_map]
    simp [Function.comp_def]

end Lexes

theorem takeToken_number {c : Char} (leads : c = '-' ∨ c.isDigit) (text : List Char) :
    takeToken (c :: text) = (takeLiteral (c :: text)).map fun (literal, rest) => (.number literal, rest) := by
  unfold takeToken
  split <;> first | rfl | (rename_i same; cases same <;> exact absurd leads (by decide))

theorem not_isSpace_of_leads {c : Char} (leads : c = '-' ∨ c.isDigit) : isSpace c = false := by
  rcases leads with rfl | digit
  · rfl
  · simp only [isSpace, Bool.or_eq_false_iff, decide_eq_false_iff_not]
    refine ⟨⟨⟨?_, ?_⟩, ?_⟩, ?_⟩ <;> rintro rfl <;> exact absurd digit (by decide)

theorem lexes_literal {literal : Literal} (formed : literal.WellFormed) : Lexes literal.chars [.number literal] := by
  obtain ⟨c, others, written, leads⟩ : ∃ c others, literal.chars = c :: others ∧ (c = '-' ∨ c.isDigit) := by
    obtain ⟨d, rest, first⟩ := List.exists_cons_of_ne_nil formed.whole.nonempty
    have digit : d.isDigit := formed.whole.all d (by rw [first]; exact List.mem_cons_self)
    cases sign : literal.negative with
    | true => exact ⟨'-', _, by rw [Literal.chars, sign]; rfl, .inl rfl⟩
    | false => exact ⟨d, _, by rw [Literal.chars, sign, first]; rfl, .inr digit⟩
  rw [written]
  apply Lexes.of_token (not_isSpace_of_leads leads)
  intro rest stops
  have taken := Literal.takeLiteral_chars formed stops
  rw [written] at taken
  rw [List.cons_append, takeToken_number leads, ← List.cons_append, taken]
  rfl

theorem stops_compactItems (items : List Json) (rest : List Char) : Stops (compactItems false items ++ rest) := by
  cases items with
  | nil => exact stops_cons _ (by decide)
  | cons item items => exact stops_cons _ (by decide)

theorem stops_compactMembers (members : List (String × Json)) (rest : List Char) :
    Stops (compactMembers false members ++ rest) := by
  cases members with
  | nil => exact stops_cons _ (by decide)
  | cons member members => exact stops_cons _ (by decide)

theorem lexes_quoted (text : String) : Lexes (quoted text) [.string text] :=
  Lexes.of_token rfl fun rest _ => takeToken_quoted text rest

theorem lexes_double (x : Double) : Lexes x.jsonChars [if x.isFinite then .number x.literal else .null] := by
  split
  · rename_i finite
    rw [← Double.literal_chars finite]
    exact lexes_literal (Double.literal_wellFormed finite)
  · rename_i infinite
    have written : x.jsonChars = "null".toList := by simp [Double.jsonChars, infinite]
    rw [written]
    exact Lexes.of_token rfl fun _ _ => rfl

theorem lexes_mark_comma {chars : List Char} {tokens : List Token} (first : Bool) (behind : Lexes chars tokens) :
    Lexes ((if first then [] else [',']) ++ chars) ((if first then [] else [.comma]) ++ tokens) := by
  cases first with
  | true => exact behind
  | false => exact Lexes.mark rfl (fun _ => rfl) behind

mutual

theorem lexes_compactChars : ∀ document : Json, Lexes document.compactChars document.tokens
  | .null => Lexes.of_token rfl fun _ _ => rfl
  | .bool true => Lexes.of_token rfl fun _ _ => rfl
  | .bool false => Lexes.of_token rfl fun _ _ => rfl
  | .int n => by
    have written := lexes_literal (Literal.ofInt_wellFormed n)
    rwa [Literal.ofInt_chars] at written
  | .double x => lexes_double x
  | .string s => lexes_quoted s
  | .array items => Lexes.mark rfl (fun _ => rfl) (lexes_compactItems true items)
  | .object members => Lexes.mark rfl (fun _ => rfl) (lexes_compactMembers true members)

theorem lexes_compactItems (first : Bool) : ∀ items : List Json,
    Lexes (compactItems first items) (itemTokens first items)
  | [] => Lexes.of_token rfl fun _ _ => rfl
  | item :: rest => by
    rw [compactItems, itemTokens, List.append_assoc]
    exact lexes_mark_comma first
      ((lexes_compactChars item).append (lexes_compactItems false rest) (stops_compactItems rest))

theorem lexes_compactMembers (first : Bool) : ∀ members : List (String × Json),
    Lexes (compactMembers first members) (memberTokens first members)
  | [] => Lexes.of_token rfl fun _ _ => rfl
  | (name, value) :: rest => by
    have valued := (lexes_compactChars value).append (lexes_compactMembers false rest) (stops_compactMembers rest)
    have marked : Lexes (':' :: (compactChars value ++ compactMembers false rest)) _ :=
      Lexes.mark rfl (fun _ => rfl) valued
    have named := (lexes_quoted name).append marked fun _ => stops_cons _ (by decide)
    have written := lexes_mark_comma first named
    simpa only [compactMembers, memberTokens, List.append_assoc, List.cons_append, List.nil_append] using written

end

theorem tokens?_compactChars (document : Json) :
    tokens? (document.compactChars.length + 1) document.compactChars = some document.tokens := by
  have lexes := lexes_compactChars document
  obtain ⟨fuel, enough⟩ : ∃ fuel, document.compactChars.length + 1 = fuel + document.tokens.length :=
    ⟨document.compactChars.length + 1 - document.tokens.length, by have := lexes.short; omega⟩
  have read := lexes.read [] stops_nil fuel
  have done : tokens? fuel [] = some [] := by
    cases fuel <;> rfl
  rw [List.append_nil, done, Option.map_some, List.append_nil] at read
  rwa [enough]

theorem tokens_opens (document : Json) :
    ∃ token rest, document.tokens = token :: rest ∧ token ≠ .closeArray ∧ token ≠ .closeObject := by
  cases document with
  | double x =>
    refine ⟨_, [], rfl, ?_⟩
    split <;> exact ⟨nofun, nofun⟩
  | _ => exact ⟨_, _, rfl, nofun, nofun⟩

theorem tokens_length_pos (document : Json) : 0 < document.tokens.length := by
  obtain ⟨token, rest, opens, -⟩ := tokens_opens document
  rw [opens]
  exact Nat.succ_pos _

theorem takeNode_array {tokens : List Token} (opens : tokens.head? ≠ some .closeArray) (fuel : Nat) :
    takeNode (fuel + 1) (.openArray :: tokens) = (takeItems fuel tokens).map fun (items, rest) => (.array items, rest) := by
  cases tokens with
  | nil => rfl
  | cons token tokens => cases token <;> first | rfl | exact absurd rfl opens

theorem takeNode_object {tokens : List Token} (opens : tokens.head? ≠ some .closeObject) (fuel : Nat) :
    takeNode (fuel + 1) (.openObject :: tokens) =
      (takeMembers fuel tokens).map fun (members, rest) => (.object members, rest) := by
  cases tokens with
  | nil => rfl
  | cons token tokens => cases token <;> first | rfl | exact absurd rfl opens

-- The fuel is the count of tokens: a bracket costs one, and so does each item, which has a token at least.
mutual

theorem takeNode_tokens : ∀ (document : Json) (fuel : Nat), document.tokens.length ≤ fuel → ∀ rest,
    takeNode fuel (document.tokens ++ rest) = some (document.node, rest)
  | document, 0, short, _ => absurd (tokens_length_pos document) (Nat.not_lt_of_le short)
  | .null, _ + 1, _, _ => rfl
  | .bool _, _ + 1, _, _ => rfl
  | .int _, _ + 1, _, _ => rfl
  | .double x, _ + 1, _, _ => by
    simp only [tokens, node]
    split <;> rfl
  | .string _, _ + 1, _, _ => rfl
  | .array [], _ + 1, _, _ => rfl
  | .array (item :: items), fuel + 1, short, rest => by
    have taken := takeItems_tokens item items fuel (Nat.le_of_succ_le_succ short) rest
    obtain ⟨token, others, first, opens, -⟩ := tokens_opens item
    have opened : (itemTokens true (item :: items) ++ rest).head? ≠ some .closeArray := by
      simpa [itemTokens, first] using opens
    rw [tokens, List.cons_append, takeNode_array opened, taken]
    rfl
  | .object [], _ + 1, _, _ => rfl
  | .object ((name, value) :: members), fuel + 1, short, rest => by
    have taken := takeMembers_tokens name value members fuel (Nat.le_of_succ_le_succ short) rest
    have opened : (memberTokens true ((name, value) :: members) ++ rest).head? ≠ some .closeObject := by
      simp [memberTokens]
    rw [tokens, List.cons_append, takeNode_object opened, taken]
    rfl

theorem takeItems_tokens : ∀ (item : Json) (items : List Json) (fuel : Nat),
    (itemTokens true (item :: items)).length ≤ fuel → ∀ rest,
    takeItems fuel (itemTokens true (item :: items) ++ rest) = some (itemNodes (item :: items), rest)
  | item, items, 0, short, _ => by
    have nonempty := tokens_length_pos item
    simp only [itemTokens, if_true, List.nil_append, List.length_append] at short
    omega
  | item, [], fuel + 1, short, rest => by
    have taken := takeNode_tokens item fuel (by simpa [itemTokens] using short) (.closeArray :: rest)
    simp [itemTokens, takeItems, taken, itemNodes]
  | item, next :: items, fuel + 1, short, rest => by
    have length : (itemTokens true (item :: next :: items)).length =
        item.tokens.length + (itemTokens true (next :: items)).length + 1 := by
      simp [itemTokens]
      omega
    have taken := takeNode_tokens item fuel (by omega) (.comma :: (itemTokens true (next :: items) ++ rest))
    have others := takeItems_tokens next items fuel (by have := tokens_length_pos item; omega) rest
    have written : itemTokens true (item :: next :: items) ++ rest =
        item.tokens ++ .comma :: (itemTokens true (next :: items) ++ rest) := by
      simp [itemTokens]
    rw [written, takeItems, taken]
    simp only [Option.bind_eq_bind, Option.bind_some, others]
    rfl

theorem takeMembers_tokens : ∀ (name : String) (value : Json) (members : List (String × Json)) (fuel : Nat),
    (memberTokens true ((name, value) :: members)).length ≤ fuel → ∀ rest,
    takeMembers fuel (memberTokens true ((name, value) :: members) ++ rest) =
      some (memberNodes ((name, value) :: members), rest)
  | name, value, members, 0, short, _ => by simp [memberTokens] at short
  | name, value, [], fuel + 1, short, rest => by
    have taken := takeNode_tokens value fuel (by simp [memberTokens] at short; omega) (.closeObject :: rest)
    simp [memberTokens, takeMembers, taken, memberNodes]
  | name, value, (nextName, nextValue) :: members, fuel + 1, short, rest => by
    have length : (memberTokens true ((name, value) :: (nextName, nextValue) :: members)).length =
        value.tokens.length + (memberTokens true ((nextName, nextValue) :: members)).length + 3 := by
      simp [memberTokens]
      omega
    have taken := takeNode_tokens value fuel (by omega)
      (.comma :: (memberTokens true ((nextName, nextValue) :: members) ++ rest))
    have others := takeMembers_tokens nextName nextValue members fuel (by omega) rest
    have written : memberTokens true ((name, value) :: (nextName, nextValue) :: members) ++ rest =
        .string name :: .colon ::
          (value.tokens ++ .comma :: (memberTokens true ((nextName, nextValue) :: members) ++ rest)) := by
      simp [memberTokens]
    rw [written, takeMembers, taken]
    simp only [Option.bind_eq_bind, Option.bind_some, others]
    rfl

end

theorem parse?_compact (document : Json) : parse? document.compact = some document.node := by
  have taken := takeNode_tokens document _ (Nat.le_succ _) []
  rw [List.append_nil] at taken
  unfold parse?
  simp only [compact, String.toList_ofList, tokens?_compactChars, Option.bind_eq_bind, Option.bind_some, taken]

theorem itemNodes_eq_map (items : List Json) : itemNodes items = items.map node := by
  induction items with
  | nil => rfl
  | cons item items ih => rw [itemNodes, List.map_cons, ih]

end FeatureLayers.Json
