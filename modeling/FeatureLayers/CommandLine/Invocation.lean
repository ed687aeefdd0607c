import FeatureLayers.CommandLine.Reading
import FeatureLayers.Failure
import FeatureLayers.Feature

namespace FeatureLayers.CommandLine

structure SourceArguments where
  uri : Option String
  connection : Option String
  schema : Option String
  table : Option String
  query : Option String
  geometryColumn : Option String
  primaryKey : Option String
  subset : Option String
deriving DecidableEq, Repr, Inhabited

structure ScanArguments where
  source : SourceArguments
  box : Option String
  filter : Option String
  ids : List Int
  fields : List String
  noGeometry : Bool
  srid : Option Int
  limit : Option Nat
deriving DecidableEq, Repr, Inhabited

structure PreviewArguments where
  connection : String
  query : String
  limit : Option Nat
  layers : Option String
deriving DecidableEq, Repr, Inhabited

inductive Command
  | resolve (source : SourceArguments)
  | info (source : SourceArguments)
  | sql (scan : ScanArguments)
  | scan (scan : ScanArguments)
  | preview (preview : PreviewArguments)
deriving DecidableEq, Repr, Inhabited

structure Invocation where
  config : String
  command : Command
deriving DecidableEq, Repr, Inhabited

def one (name : String) (kind : ValueKind) : OptionRule := ⟨name, none, .one kind⟩

def helpRule : OptionRule := ⟨"help", some 'h', .help⟩

def versionRule : OptionRule := ⟨"version", some 'V', .version⟩

def configRule : OptionRule := ⟨"config", some 'c', .one .path⟩

def defaultConfig : String := "config.yaml"

def sourceRules : List OptionRule :=
  ["uri", "connection", "schema", "table", "query", "geometry-column", "primary-key", "subset"].map (one · .text)

def scanRules : List OptionRule :=
  [one "bbox" .text, one "filter" .text, ⟨"ids", none, .many .int64⟩, ⟨"fields", none, .many .text⟩,
    ⟨"no-geometry", none, .nothing⟩, one "srid" .int32, one "limit" .nat64]

def previewRules : List OptionRule :=
  [one "connection" .text, one "query" .text, one "limit" .nat64, one "layers" .text]

def commonRules : List OptionRule := [configRule, helpRule]

def rootGrammar : Grammar :=
  ⟨versionRule :: commonRules, ["resolve", "sql", "scan", "preview", "info", helpCommand], [], []⟩

def sourceConflicts : List (String × List String) := [("uri", ["table", "query"])]

def grammarOf : String → Grammar
  | "preview" => ⟨previewRules ++ commonRules, [], [], ["connection", "query"]⟩
  | "scan" | "sql" => ⟨sourceRules ++ scanRules ++ commonRules, [], sourceConflicts, []⟩
  | _ => ⟨sourceRules ++ commonRules, [], sourceConflicts, []⟩

def sourceArguments (g : Given) : SourceArguments where
  uri := g.text? "uri"
  connection := g.text? "connection"
  schema := g.text? "schema"
  table := g.text? "table"
  query := g.text? "query"
  geometryColumn := g.text? "geometry-column"
  primaryKey := g.text? "primary-key"
  subset := g.text? "subset"

def scanArguments (g : Given) : ScanArguments where
  source := sourceArguments g
  box := g.text? "bbox"
  filter := g.text? "filter"
  ids := g.ints "ids"
  fields := g.texts "fields"
  noGeometry := g.has "no-geometry"
  srid := g.int? "srid"
  limit := (g.int? "limit").map Int.toNat

def previewArguments (g : Given) : PreviewArguments where
  connection := (g.text? "connection").getD ""
  query := (g.text? "query").getD ""
  limit := (g.int? "limit").map Int.toNat
  layers := g.text? "layers"

def commandOf (name : String) (g : Given) : Command :=
  match name with
  | "preview" => .preview (previewArguments g)
  | "sql" => .sql (scanArguments g)
  | "scan" => .scan (scanArguments g)
  | "info" => .info (sourceArguments g)
  | _ => .resolve (sourceArguments g)

/-- What a command line asks for. A configuration file named behind the command goes before one named in front of it. -/
def Invocation.ofWords (words : List String) : Except Halt Invocation := do
  let p ← parse rootGrammar grammarOf words
  return ⟨((p.behind.text? "config").or (p.front.text? "config")).getD defaultConfig, commandOf p.command p.behind⟩

namespace SourceArguments

def source? (a : SourceArguments) : Option Source :=
  match a.table, a.query with
  | some name, none => some (.table a.schema name)
  | none, some sql => some (.query sql)
  | _, _ => none

def baseDescriptor (a : SourceArguments) : Except Failure Descriptor :=
  match a.uri, a.connection, a.source? with
  | some uri, _, _ => (Uri.parse uri).mapError Failure.ofUri
  | none, none, _ => .error (.ofMessage "either --uri or --connection is required")
  | none, some _, none => .error (.ofMessage "exactly one of --table or --query is required")
  | none, some connection, some source => .ok (.ofSource connection source)

/-- A geometry column and a primary key that are given go before those of a persisted form. -/
def descriptor (a : SourceArguments) : Except Failure Descriptor :=
  a.baseDescriptor.map fun d =>
    { d with geometryColumn := a.geometryColumn.or d.geometryColumn, primaryKey := a.primaryKey.or d.primaryKey }

end SourceArguments

def doubleFault (text : List Char) : String :=
  if text.isEmpty then "cannot parse float from empty string" else "invalid float literal"

def doublesOf : List (List Char) → Except String (List Double)
  | [] => .ok []
  | part :: rest =>
    let text := Text.trim part
    match Double.ofChars? text with
    | some x => (doublesOf rest).map (x :: ·)
    | none => .error (doubleFault text)

def boxOf (text : String) : Except Failure BoundingBox :=
  match doublesOf (Text.splitOnChar ',' text.toList) with
  | .error fault => .error ((Failure.ofMessage fault).whileDoing ("invalid bbox '" ++ text ++ "'"))
  | .ok [xmin, ymin, xmax, ymax] => .ok (.normalized xmin ymin xmax ymax)
  | .ok _ => .error (.ofMessage ("bbox needs four numbers, got '" ++ text ++ "'"))

namespace ScanArguments

/-- An empty list of ids or of fields asks for all. -/
def request (a : ScanArguments) : Except Failure Request := do
  let filterRect ← a.box.mapM boxOf
  return {
    filterRect
    expression := a.filter
    featureIds := if a.ids.isEmpty then none else some a.ids
    attributes := if a.fields.isEmpty then none else some a.fields
    noGeometry := a.noGeometry
    destinationSrid := a.srid
  }

end ScanArguments

end FeatureLayers.CommandLine
