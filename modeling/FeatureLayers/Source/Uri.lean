import FeatureLayers.Source.Descriptor
import FeatureLayers.Numeric.Reading

namespace FeatureLayers.Uri

inductive Fault
  | missingConnection (uri : String)
  | missingSource
  | unterminatedQuote (key : String)
  | malformedPair (found : String)
  | invalidValue (key value : String)
deriving DecidableEq, Repr

def Fault.message : Fault → String
  | .missingConnection uri => "invalid URI, missing `connection_name`: " ++ uri
  | .missingSource => "invalid URI, need either `table_name` or `sql_query`"
  | .unterminatedQuote key => "unterminated quote in value of `" ++ key ++ "`"
  | .malformedPair found => "expected `key=value`, found `" ++ found ++ "`"
  | .invalidValue key value => "invalid value for `" ++ key ++ "`: " ++ value

structure Pair where
  key : List Char
  value : List Char
deriving DecidableEq, Repr

/-- Where the reader stands; what was read so far is kept last character first. -/
inductive State
  | gap
  | key (read : List Char)
  | value (key : List Char)
  | bare (key read : List Char)
  | quoted (key : List Char) (quote : Char) (read : List Char)
  | escaped (key : List Char) (quote : Char) (read : List Char)
deriving DecidableEq, Repr

def step (state : State) (c : Char) : Except Fault (State × Option Pair) :=
  match state with
  | .gap =>
    if Text.isBlank c then .ok (.gap, none)
    else if c = '=' then .error (.malformedPair "")
    else .ok (.key [c], none)
  | .key read =>
    if c = '=' then .ok (.value read.reverse, none)
    else if Text.isBlank c then .error (.malformedPair (String.ofList read.reverse))
    else .ok (.key (c :: read), none)
  | .value key =>
    if c = '"' ∨ c = '\'' then .ok (.quoted key c [], none)
    else if Text.isBlank c then .ok (.gap, some ⟨key, []⟩)
    else .ok (.bare key [c], none)
  | .bare key read =>
    if Text.isBlank c then .ok (.gap, some ⟨key, read.reverse⟩) else .ok (.bare key (c :: read), none)
  | .quoted key quote read =>
    if c = '\\' then .ok (.escaped key quote read, none)
    else if c = quote then .ok (.gap, some ⟨key, read.reverse⟩)
    else .ok (.quoted key quote (c :: read), none)
  | .escaped key quote read => .ok (.quoted key quote (c :: read), none)

def finish : State → Except Fault (List Pair)
  | .gap => .ok []
  | .key read => .error (.malformedPair (String.ofList read.reverse))
  | .value key => .ok [⟨key, []⟩]
  | .bare key read => .ok [⟨key, read.reverse⟩]
  | .quoted key _ _ | .escaped key _ _ => .error (.unterminatedQuote (String.ofList key))

def pairsFrom (state : State) : List Char → Except Fault (List Pair)
  | [] => finish state
  | c :: rest => do
    let (next, pair?) ← step state c
    let pairs ← pairsFrom next rest
    return pair?.toList ++ pairs

def pairs (uri : List Char) : Except Fault (List Pair) := pairsFrom .gap uri

/-- The value of the last pair with this key; an empty value counts as absent. -/
def lookup? (pairs : List Pair) (key : String) : Option String :=
  (pairs.reverse.find? (·.key = key.toList)).bind fun pair =>
    if pair.value.isEmpty then none else some (String.ofList pair.value)

def readOptional {α : Type} (pairs : List Pair) (key : String) (read : String → Option α) : Except Fault (Option α) :=
  match lookup? pairs key with
  | none => .ok none
  | some raw => match read raw with
    | some a => .ok (some a)
    | none => .error (.invalidValue key raw)

def sourceOf (pairs : List Pair) : Except Fault Source :=
  match (lookup? pairs "sql_query").or (lookup? pairs "sql"), lookup? pairs "table_name" with
  | some sql, _ => .ok (.query sql)
  | none, some name => .ok (.table (lookup? pairs "schema_name") name)
  | none, none => .error .missingSource

def parse (uri : String) : Except Fault Descriptor := do
  let pairs ← pairs uri.toList
  let connection ← match lookup? pairs "connection_name" with
    | some connection => pure connection
    | none => .error (.missingConnection uri)
  let source ← sourceOf pairs
  let srid ← readOptional pairs "srid" fun raw => int32? raw.toList
  let geometryKind ← readOptional pairs "geometry_type" GeometryKind.ofName?
  let encoding ← readOptional pairs "geo_column_type" Encoding.ofStoredName?
  return {
    connection
    source
    geometryColumn := (lookup? pairs "geom_column").or (lookup? pairs "geo_column")
    geometryKind
    encoding
    srid
    primaryKey := lookup? pairs "primary_key"
  }

def escapeChar (c : Char) : List Char := if c = '\\' ∨ c = '"' then ['\\', c] else [c]

def quotedValue (value : String) : List Char := '"' :: value.toList.flatMap escapeChar ++ ['"']

def pairText (pair : String × String) : String :=
  pair.1 ++ "=" ++ String.ofList (quotedValue pair.2)

def sourcePairs : Source → List (String × String)
  | .table schema name => (schema.map ("schema_name", ·)).toList ++ [("table_name", name)]
  | .query sql => [("sql_query", sql)]

def descriptorPairs (d : Descriptor) : List (String × String) :=
  ("connection_name", d.connection) :: sourcePairs d.source ++
    (d.srid.map fun srid => ("srid", intText srid)).toList ++
    (d.geometryColumn.map ("geom_column", ·)).toList ++
    (d.geometryKind.map fun kind => ("geometry_type", kind.name)).toList ++
    (d.encoding.map fun encoding => ("geo_column_type", encoding.name)).toList ++
    (d.primaryKey.map ("primary_key", ·)).toList

def write (d : Descriptor) : String := " ".intercalate ((descriptorPairs d).map pairText)

end FeatureLayers.Uri
