import FeatureLayers.Configuration.Basic
import FeatureLayers.Journal.Filter

namespace FeatureLayers.Journal

inductive Format
  | pretty
  | json
  | compact
deriving DecidableEq, Repr, Inhabited

def Format.ofName (name : String) : Format :=
  if name = "json" then .json else if name = "pretty" then .pretty else .compact

inductive Output
  | console
  | file
  | both
deriving DecidableEq, Repr, Inhabited

namespace Output

def ofName (name : String) : Output := if name = "file" then .file else if name = "both" then .both else .console

def toConsole (o : Output) : Bool := o != .file

def toFile (o : Output) : Bool := o != .console

end Output

structure Log where
  format : Format
  output : Output
  directory : String
  entries : List Entry
deriving Repr, Inhabited

namespace Log

def ofEntries (settings : LogSettings) (entries : List Entry) : Log where
  format := .ofName settings.format
  output := .ofName settings.output
  directory := settings.directory
  entries := entries.filter (Filter.ofText settings.level).admits

def consoleEntries (l : Log) : List Entry := if l.output.toConsole then l.entries else []

def fileEntries? (l : Log) : Option (List Entry) := if l.output.toFile then some l.entries else none

def count (level : Level) (entries : List Entry) : Nat := entries.countP (·.level = level)

end Log

end FeatureLayers.Journal
