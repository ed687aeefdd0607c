namespace FeatureLayers.Journal

inductive Level
  | error
  | warn
  | info
  | debug
  | trace
deriving DecidableEq, Repr, Inhabited

namespace Level

def rank : Level → Nat
  | .error => 1
  | .warn => 2
  | .info => 3
  | .debug => 4
  | .trace => 5

def name : Level → String
  | .error => "ERROR"
  | .warn => "WARN"
  | .info => "INFO"
  | .debug => "DEBUG"
  | .trace => "TRACE"

end Level

inductive Topic
  | command
  | logging
  | connection
  | composition
  | scan
  | source
  | resolution
  | sampling
  | preview
deriving DecidableEq, Repr, Inhabited

def Topic.path : Topic → String
  | .command => "geoflake"
  | .logging => "geoflake::logging"
  | .connection => "geoflake::session"
  | .composition => "geoflake_engine::compose"
  | .scan => "geoflake_engine::iter"
  | .source => "geoflake_engine::source"
  | .resolution => "geoflake_engine::resolve"
  | .sampling => "geoflake_engine::sample"
  | .preview => "geoflake_engine::preview"

structure Entry where
  level : Level
  topic : Topic
  message : String
deriving DecidableEq, Repr, Inhabited

end FeatureLayers.Journal
