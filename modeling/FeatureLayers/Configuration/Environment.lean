import FeatureLayers.Configuration.Reading

namespace FeatureLayers

abbrev Environment := Entries String

inductive FileContent
  | absent
  | directory
  | text (contents : String)
deriving DecidableEq, Repr, Inhabited

namespace Configuration

def batchSizeVariable : String := "GEOFLAKE_BATCH_SIZE"

def geometryRowCapVariable : String := "GEOFLAKE_GEOMETRY_ROW_CAP"

def cellRowCapVariable : String := "GEOFLAKE_CELL_ROW_CAP"

def previewLimitVariable : String := "GEOFLAKE_PREVIEW_LIMIT"

def cellMarkerVariable : String := "GEOFLAKE_CELL_MARKER"

/-- A number in a variable; one that does not read counts as not set. -/
def number? (environment : Environment) (name : String) : Option Nat :=
  (environment.get? name).bind fun text => FeatureLayers.nat64? text.toList

def overriddenSettings (environment : Environment) (s : Settings) : Settings where
  batchSize := (number? environment batchSizeVariable).getD s.batchSize
  geometryRowCap := (number? environment geometryRowCapVariable).getD s.geometryRowCap
  cellRowCap := (number? environment cellRowCapVariable).getD s.cellRowCap
  previewLimit := (number? environment previewLimitVariable).getD s.previewLimit
  cellMarker := (environment.get? cellMarkerVariable).getD s.cellMarker

def levelVariable : String := "RUST_LOG"

def formatVariable : String := "LOG_FORMAT"

def outputVariable : String := "LOG_OUTPUT"

def directoryVariable : String := "LOG_DIR"

def overriddenLogging (environment : Environment) (l : LogSettings) : LogSettings where
  level := (environment.get? levelVariable).getD l.level
  format := (environment.get? formatVariable).getD l.format
  output := (environment.get? outputVariable).getD l.output
  directory := (environment.get? directoryVariable).getD l.directory

def overridden (environment : Environment) (c : Configuration) : Configuration :=
  { c with engine := overriddenSettings environment c.engine, logging := overriddenLogging environment c.logging }

def exportLogging (l : LogSettings) (environment : Environment) : Environment :=
  (((environment.put levelVariable l.level).put formatVariable l.format).put outputVariable l.output).put
    directoryVariable l.directory

def ofFile (file : FileContent) (environment : Environment) : Except Error Configuration :=
  match file with
  | .absent => .error (.unreadable "No such file or directory (os error 2)")
  | .directory => .error (.unreadable "Is a directory (os error 21)")
  | .text contents => match ofText? contents with
    | some c => .ok (c.overridden environment)
    | none => .error .malformed

def ofFileOrStandard (file : FileContent) (environment : Environment) : Except Error Configuration :=
  match file with
  | .absent => .ok (standard.overridden environment)
  | _ => ofFile file environment

def passwordKey : String := "password"

def passwordChar (c : Char) : Char := if c.isAlphanum then c.toUpper else '_'

def passwordVariable (connection : String) : String :=
  "GEOFLAKE_" ++ String.ofList (connection.toList.map passwordChar) ++ "_PASSWORD"

def connection (environment : Environment) (name : String) (c : Configuration) : Except Error Parameters :=
  match c.connections.get? name with
  | none => .error (.unknownConnection name)
  | some parameters =>
    let parameters := parameters.erase passwordKey
    match environment.get? (passwordVariable name) with
    | some password => .ok (parameters.put passwordKey password)
    | none => .ok parameters

def variableNames (c : Configuration) : List String :=
  [batchSizeVariable, geometryRowCapVariable, cellRowCapVariable, previewLimitVariable, cellMarkerVariable,
    levelVariable, formatVariable, outputVariable, directoryVariable] ++
    c.connections.map fun (name, _) => passwordVariable name

end Configuration

end FeatureLayers
