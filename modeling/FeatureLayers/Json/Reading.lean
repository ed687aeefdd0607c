import FeatureLayers.Numeric.Reading

namespace FeatureLayers.Json

structure Literal where
  negative : Bool
  whole : List Char
  part : List Char
  exponent : Option (Bool × List Char)
deriving DecidableEq, Repr

inductive Token
  | openObject
  | closeObject
  | openArray
  | closeArray
  | comma
  | colon
  | null
  | bool (value : Bool)
  | number (literal : Literal)
  | string (value : Option String)
deriving DecidableEq, Repr

inductive Node
  | null
  | bool (value : Bool)
  | number (literal : Literal)
  | string (value : Option String)
  | array (items : List Node)
  | object (members : List (Option String × Node))
deriving Repr, Inhabited

def isSpace (c : Char) : Bool := c = ' ' || c = '\n' || c = '\t' || c = '\r'

def hex4? : List Char → Option (Nat × List Char)
  | a :: b :: c :: d :: rest => (natOfDigits? 16 [a, b, c, d]).map (·, rest)
  | _ => none

inductive Unit
  | char (c : Char)
  | code (unit : Nat)
deriving DecidableEq, Repr

def takeUnits : Nat → List Char → Option (List Unit × List Char)
  | 0, _ => none
  | _ + 1, [] => none
  | _ + 1, '"' :: rest => some ([], rest)
  | fuel + 1, '\\' :: 'u' :: rest => do
    let (unit, rest) ← hex4? rest
    let (units, rest) ← takeUnits fuel rest
    some (.code unit :: units, rest)
  | fuel + 1, '\\' :: c :: rest => do
    let escaped ← match c with
      | '"' => some '"'
      | '\\' => some '\\'
      | '/' => some '/'
      | 'b' => some (Char.ofNat 8)
      | 'f' => some (Char.ofNat 12)
      | 'n' => some '\n'
      | 'r' => some '\r'
      | 't' => some '\t'
      | _ => none
    let (units, rest) ← takeUnits fuel rest
    some (.char escaped :: units, rest)
  | fuel + 1, c :: rest => do
    if c.toNat < 32 then none
    let (units, rest) ← takeUnits fuel rest
    some (.char c :: units, rest)

def isHighSurrogate (unit : Nat) : Bool := 0xd800 ≤ unit && unit < 0xdc00

def isLowSurrogate (unit : Nat) : Bool := 0xdc00 ≤ unit && unit < 0xe000

/-- The text of the written characters; `none` when a surrogate has no partner. -/
def unitsText? : List Unit → Option (List Char)
  | [] => some []
  | .char c :: rest => (unitsText? rest).map (c :: ·)
  | .code high :: .code low :: rest =>
    if isHighSurrogate high then
      if isLowSurrogate low then
        (unitsText? rest).map (Char.ofNat (0x10000 + (high - 0xd800) * 0x400 + (low - 0xdc00)) :: ·)
      else none
    else if isLowSurrogate high then none
    else (unitsText? (.code low :: rest)).map (Char.ofNat high :: ·)
  | .code unit :: rest =>
    if isHighSurrogate unit || isLowSurrogate unit then none
    else (unitsText? rest).map (Char.ofNat unit :: ·)

def takeExponent : List Char → Option (Option (Bool × List Char) × List Char)
  | c :: rest =>
    if c = 'e' ∨ c = 'E' then
      let (negative, rest) := match rest with
        | '-' :: tail => (true, tail)
        | '+' :: tail => (false, tail)
        | _ => (false, rest)
      let digits := rest.takeWhile isDigit
      if digits.isEmpty then none else some (some (negative, digits), rest.dropWhile isDigit)
    else some (none, c :: rest)
  | [] => some (none, [])

def takeLiteral (text : List Char) : Option (Literal × List Char) := do
  let (negative, text) := match text with
    | '-' :: rest => (true, rest)
    | _ => (false, text)
  let whole := text.takeWhile isDigit
  let rest := text.dropWhile isDigit
  if whole.isEmpty || (1 < whole.length && whole.head? = some '0') then none
  let (part, rest) ← match rest with
    | '.' :: tail =>
      let part := tail.takeWhile isDigit
      if part.isEmpty then none else some (part, tail.dropWhile isDigit)
    | _ => some ([], rest)
  let (exponent, rest) ← takeExponent rest
  some (⟨negative, whole, part, exponent⟩, rest)

def dropWord? (word text : List Char) : Option (List Char) :=
  if word.isPrefixOf text then some (text.drop word.length) else none

def takeToken (text : List Char) : Option (Token × List Char) :=
  match text with
  | [] => none
  | '\x7b' :: rest => some (.openObject, rest)
  | '\x7d' :: rest => some (.closeObject, rest)
  | '[' :: rest => some (.openArray, rest)
  | ']' :: rest => some (.closeArray, rest)
  | ',' :: rest => some (.comma, rest)
  | ':' :: rest => some (.colon, rest)
  | '"' :: rest => (takeUnits (rest.length + 1) rest).map fun (units, rest) =>
      (.string ((unitsText? units).map String.ofList), rest)
  | 'n' :: _ => (dropWord? "null".toList text).map (.null, ·)
  | 't' :: _ => (dropWord? "true".toList text).map (.bool true, ·)
  | 'f' :: _ => (dropWord? "false".toList text).map (.bool false, ·)
  | _ => (takeLiteral text).map fun (literal, rest) => (.number literal, rest)

def tokens? : Nat → List Char → Option (List Token)
  | 0, text => if text.isEmpty then some [] else none
  | fuel + 1, text =>
    match text.dropWhile isSpace with
    | [] => some []
    | text => do
      let (token, rest) ← takeToken text
      (tokens? fuel rest).map (token :: ·)

mutual

def takeNode : Nat → List Token → Option (Node × List Token)
  | 0, _ => none
  | fuel + 1, tokens => match tokens with
    | .null :: rest => some (.null, rest)
    | .bool b :: rest => some (.bool b, rest)
    | .number n :: rest => some (.number n, rest)
    | .string s :: rest => some (.string s, rest)
    | .openArray :: .closeArray :: rest => some (.array [], rest)
    | .openArray :: rest => (takeItems fuel rest).map fun (items, rest) => (.array items, rest)
    | .openObject :: .closeObject :: rest => some (.object [], rest)
    | .openObject :: rest => (takeMembers fuel rest).map fun (members, rest) => (.object members, rest)
    | _ => none

def takeItems : Nat → List Token → Option (List Node × List Token)
  | 0, _ => none
  | fuel + 1, tokens => do
    let (item, tokens) ← takeNode fuel tokens
    match tokens with
    | .closeArray :: rest => some ([item], rest)
    | .comma :: rest =>
      let (items, rest) ← takeItems fuel rest
      some (item :: items, rest)
    | _ => none

def takeMembers : Nat → List Token → Option (List (Option String × Node) × List Token)
  | 0, _ => none
  | fuel + 1, tokens => match tokens with
    | .string name :: .colon :: rest => do
      let (value, tokens) ← takeNode fuel rest
      match tokens with
      | .closeObject :: rest => some ([(name, value)], rest)
      | .comma :: rest =>
        let (members, rest) ← takeMembers fuel rest
        some ((name, value) :: members, rest)
      | _ => none
    | _ => none

end

def parse? (text : String) : Option Node := do
  let chars := text.toList
  let tokens ← tokens? (chars.length + 1) chars
  match takeNode (tokens.length + 1) tokens with
  | some (node, []) => some node
  | _ => none

inductive NumberValue
  | nat (n : Nat)
  | negative (n : Int)
  | double (x : Double)
deriving DecidableEq, Repr

def accumulate (significand : Nat) : List Char → Nat × List Char
  | [] => (significand, [])
  | c :: rest =>
    let next := significand * 10 + (digitValue? c).getD 0
    if next < Nat.pow 2 64 then accumulate next rest else (significand, c :: rest)

def powerOfTen (n : Nat) : Double := Double.ofNat (Nat.pow 10 n)

/--
The significand scaled by one rounded multiplication or division, with steps of `10 ^ 308` for what lies below the
smallest power. A number that grows out of range is refused.
-/
def scale? : Nat → Double → Int → Option Double
  | 0, x, _ => some x
  | fuel + 1, x, exponent =>
    if exponent.natAbs ≤ 308 then
      if 0 ≤ exponent then
        let y := x.mul (powerOfTen exponent.natAbs)
        if y.isInfinite then none else some y
      else some (x.div (powerOfTen exponent.natAbs))
    else if x.isZero then some x
    else if 0 ≤ exponent then none
    else scale? fuel (x.div (powerOfTen 308)) (exponent + 308)

/--
Whole numbers of 64 bits stay exact. All other numbers keep the digits that fit in 64 bits and are scaled once, so the
last bit may differ from the nearest number.
-/
def Literal.value? (literal : Literal) : Option NumberValue :=
  let (whole, leftWhole) := accumulate 0 literal.whole
  if leftWhole.isEmpty && literal.part.isEmpty && literal.exponent.isNone then
    if !literal.negative then some (.nat whole)
    else if whole = 0 || Nat.pow 2 63 < whole then some (.double (Double.ofNat whole).neg)
    else some (.negative (-(whole : Int)))
  else
    let (significand, leftPart) := accumulate whole literal.part
    let start : Int := leftWhole.length - (literal.part.length - leftPart.length : Nat)
    let magnitude? : Option Double := match literal.exponent with
      | none => scale? 8 (Double.ofNat significand) start
      | some (negative, digits) =>
        let exponent := (digitsValue? 10 digits).getD 0
        if Nat.pow 2 31 ≤ exponent then (if significand != 0 && !negative then none else some Double.zero)
        else scale? 8 (Double.ofNat significand) (if negative then start - exponent else start + exponent)
    magnitude?.map fun x => .double (if literal.negative then x.neg else x)

def Node.nesting : Node → Nat
  | .array items => nestingItems items + 1
  | .object members => nestingMembers members + 1
  | _ => 0
where
  nestingItems : List Node → Nat
    | [] => 0
    | item :: rest => Nat.max item.nesting (nestingItems rest)
  nestingMembers : List (Option String × Node) → Nat
    | [] => 0
    | (_, value) :: rest => Nat.max value.nesting (nestingMembers rest)

end FeatureLayers.Json
