import FeatureLayers.Document.Layer
import FeatureLayers.Entries

namespace FeatureLayers

structure LogSettings where
  level : String
  format : String
  output : String
  directory : String
deriving DecidableEq, Repr, Inhabited

namespace LogSettings

def standard : LogSettings := ⟨"info", "compact", "stdout", "./logs"⟩

def toJson (l : LogSettings) : Json :=
  .object [("level", .string l.level), ("format", .string l.format), ("output", .string l.output),
    ("directory", .string l.directory)]

end LogSettings

abbrev Parameters := Entries String

def Parameters.toJson (p : Parameters) : Json := .object (p.map fun (name, value) => (name, .string value))

def Parameters.context (p : Parameters) : Warehouse.Context := ⟨p.get? "database", p.get? "schema"⟩

structure Configuration where
  engine : Settings
  logging : LogSettings
  connections : Entries Parameters
deriving DecidableEq, Repr, Inhabited

namespace Configuration

def standard : Configuration := ⟨.standard, .standard, []⟩

def toJson (c : Configuration) : Json :=
  .object [("engine", c.engine.toJson), ("logging", c.logging.toJson),
    ("connections", .object (c.connections.map fun (name, parameters) => (name, parameters.toJson)))]

inductive Error
  | unreadable (reason : String)
  | malformed
  | unknownConnection (name : String)
deriving DecidableEq, Repr

namespace Error

def notUnderstood : String := "not a configuration"

def chain : Error → List String
  | .unreadable reason => ["Failed to read config file: " ++ reason, reason]
  | .malformed => ["Failed to parse YAML: " ++ notUnderstood, notUnderstood]
  | .unknownConnection name => ["Unknown connection: " ++ name]

end Error

end Configuration

end FeatureLayers
