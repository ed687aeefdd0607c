import FeatureLayers.CommandLine.Grammar

namespace FeatureLayers.CommandLine

abbrev Given := List (String × List Argument)

namespace Given

def values (g : Given) (name : String) : List Argument := (g.lookup name).getD []

def has (g : Given) (name : String) : Bool := (g.lookup name).isSome

def text? (g : Given) (name : String) : Option String :=
  match g.values name with
  | .text value :: _ => some value
  | _ => none

def int? (g : Given) (name : String) : Option Int :=
  match g.values name with
  | .int value :: _ => some value
  | _ => none

def texts (g : Given) (name : String) : List String :=
  (g.values name).filterMap fun
    | .text value => some value
    | .int _ => none

def ints (g : Given) (name : String) : List Int :=
  (g.values name).filterMap fun
    | .int value => some value
    | .text _ => none

def append (name : String) (values : List Argument) : Given → Given
  | [] => [(name, values)]
  | (other, old) :: rest => if other = name then (other, old ++ values) :: rest else (other, old) :: append name values rest

end Given

structure Reading where
  given : Given
  pending : Option (OptionRule × List String)
  hasEnded : Bool
deriving Repr, Inhabited

namespace Reading

def start : Reading := ⟨[], none, false⟩

def give (o : OptionRule) (words : List String) (r : Reading) : Except Halt Reading := do
  let once (values : List Argument) : Reading := { r with given := r.given ++ [(o.name, values)] }
  match o.takes with
  | .help => throw .helpWanted
  | .version => throw .versionWanted
  | .nothing => if r.given.has o.name then throw (.repeatedOption o.name) else return once []
  | .one kind =>
    if words.isEmpty then throw (.missingValue o.name)
    else if r.given.has o.name then throw (.repeatedOption o.name)
    else return once (← words.mapM (o.value? kind))
  | .many kind =>
    if words.isEmpty then throw (.missingValue o.name)
    else
      let parts := words.flatMap fun word => (Text.splitOnChar ',' word.toList).map String.ofList
      return { r with given := r.given.append o.name (← parts.mapM (o.value? kind)) }

def settle (r : Reading) : Except Halt Reading :=
  match r.pending with
  | some (o, words) => ({ r with pending := none }).give o words
  | none => .ok r

def awaitsValue (r : Reading) : Bool := r.pending.any (·.2.isEmpty)

def takeOption (o : OptionRule) (attached : Option String) (r : Reading) : Except Halt Reading := do
  match o.takes, attached with
  | .one _, none | .many _, none => return { (← r.settle) with pending := some (o, []) }
  | .one _, some value | .many _, some value => (← r.settle).give o [value]
  | _, some value => throw (.unwantedValue o.name value)
  | _, none => (← r.settle).give o []

/-- A cluster of short options; the rest of the cluster is the value of the first one that takes a value. -/
def takeCluster (g : Grammar) (r : Reading) : List Char → Except Halt Reading
  | [] => .ok r
  | c :: rest => match g.short? c with
    | none => .error (.unknownArgument (String.ofList ['-', c]))
    | some o => match o.takes, rest with
      | .one _, [] | .many _, [] => r.takeOption o none
      | .one _, '=' :: value | .many _, '=' :: value => r.takeOption o (some (String.ofList value))
      | .one _, value | .many _, value => r.takeOption o (some (String.ofList value))
      | _, rest => do takeCluster g (← r.takeOption o none) rest

def takeLong (g : Grammar) (body : List Char) (r : Reading) : Except Halt Reading :=
  let name := String.ofList (body.takeWhile (· != '='))
  match g.long? name with
  | none => .error (.unknownArgument ("--" ++ name))
  | some o => match body.dropWhile (· != '=') with
    | [] => r.takeOption o none
    | _ :: value => r.takeOption o (some (String.ofList value))

def refusal (g : Grammar) (word : String) (r : Reading) : Halt :=
  if g.commands.isEmpty || (r.hasEnded && g.commands.contains word) then .unknownArgument word else .unknownCommand word

def takePlain (g : Grammar) (word : String) (r : Reading) : Except Halt Reading :=
  match r.pending with
  | some (o, []) => if r.hasEnded then .error (r.refusal g word) else .ok { r with pending := some (o, [word]) }
  | _ => .error (r.refusal g word)

def takeWord (g : Grammar) (word : String) (r : Reading) : Except Halt Reading :=
  if r.hasEnded then r.takePlain g word
  else match word.toList with
    | ['-', '-'] => .ok { r with hasEnded := true }
    | '-' :: '-' :: body => r.takeLong g body
    | '-' :: c :: rest => r.takeCluster g (c :: rest)
    | _ => r.takePlain g word

abbrev Rest := Option (String × List String)

def takeWords (g : Grammar) (r : Reading) : List String → Except Halt (Reading × Rest)
  | [] => .ok (r, none)
  | word :: rest =>
    if !r.hasEnded && !r.awaitsValue && g.commands.contains word then .ok (r, some (word, rest))
    else do takeWords g (← r.takeWord g word) rest

end Reading

namespace Grammar

def conflict? (g : Grammar) (given : Given) : Option (String × String) :=
  g.conflicts.findSome? fun (name, others) => if given.has name then (others.find? given.has).map (name, ·) else none

/-- Conflicts are found before missing options. -/
def check (g : Grammar) (given : Given) : Except Halt Unit :=
  match g.conflict? given, g.required.find? (!given.has ·) with
  | some (name, other), _ => .error (.conflict name other)
  | none, some name => .error (.missingOption name)
  | none, none => .ok ()

def readAll (g : Grammar) (words : List String) : Except Halt Given := do
  let (r, _) ← Reading.start.takeWords g words
  let r ← r.settle
  g.check r.given
  return r.given

end Grammar

def helpCommand : String := "help"

/-- Help may name a command; there is none below a command. -/
def helpFor (commands : List String) : List String → Halt
  | [] => .helpWanted
  | [word] => if commands.contains word then .helpWanted else .unknownCommand word
  | word :: next :: _ => if commands.contains word then .unknownCommand next else .unknownCommand word

structure Parsed where
  front : Given
  command : String
  behind : Given
deriving Repr, Inhabited

/-- Faults behind the command are found first. -/
def parse (root : Grammar) (grammarOf : String → Grammar) (words : List String) : Except Halt Parsed := do
  let (r, rest) ← Reading.start.takeWords root words
  match rest with
  | some (command, rest) =>
    if command = helpCommand then throw (helpFor root.commands rest)
    else
      let behind ← (grammarOf command).readAll rest
      let r ← r.settle
      return ⟨r.given, command, behind⟩
  | none =>
    let r ← r.settle
    throw (if r.given.isEmpty then .nothingGiven else .missingCommand)

end FeatureLayers.CommandLine
