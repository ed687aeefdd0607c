import FeatureLayers.Configuration.Basic
import FeatureLayers.Yaml.Node

namespace FeatureLayers

namespace Yaml.Node

/-- The known members of a record: a mapping, a sequence of a first part of its members, or nothing at all. -/
def record? (names : List String) : Node → Option (List (String × Node))
  | .mapping members => do
    let members ← members.mapM fun (key, value) => key.text?.map (·, value)
    let known := members.filter fun member => names.contains member.1
    if (known.map Prod.fst).Nodup then some known else none
  | .sequence items => if items.length ≤ names.length then some (names.zip items) else none
  | node => if node.isEmpty then some [] else none

/-- The members of a mapping; of equal keys the last one counts. -/
def entries? {α : Type} (read : Node → Option α) : Node → Option (Entries α)
  | .mapping members => do
    let pairs ← members.mapM fun (key, value) => do return (← key.text?, ← read value)
    return Entries.ofPairs pairs
  | node => if node.isEmpty then some [] else none

def member {α : Type} (members : List (String × Node)) (name : String) (default : α) (read : Node → Option α) :
    Option α :=
  match members.lookup name with
  | some value => read value
  | none => some default

/-- Decimal numbers have no needless zero in front; other bases are announced by one and a letter. -/
def natOfText? (text : List Char) : Option Nat :=
  let bare := match text with
    | '+' :: rest => rest
    | _ => text
  let value? := match bare with
    | '0' :: 'x' :: digits => natOfDigits? 16 digits
    | '0' :: 'o' :: digits => natOfDigits? 8 digits
    | '0' :: 'b' :: digits => natOfDigits? 2 digits
    | '0' :: _ :: _ => none
    | digits => natOfDigits? 10 digits
  value?.filter (· < Nat.pow 2 64)

def nat64? : Node → Option Nat
  | .scalar style tag text =>
    if style = .plain ∨ (style = .literal ∧ tag = some (coreTag ++ "int")) then natOfText? text.toList else none
  | _ => none

end Yaml.Node

namespace Configuration

open Yaml (Node)
open Yaml.Node (member)

def settings? (node : Node) : Option Settings := do
  let members ← node.record? Settings.memberNames
  return {
    batchSize := ← member members "batch_size" Settings.standard.batchSize Node.nat64?
    geometryRowCap := ← member members "geometry_row_cap" Settings.standard.geometryRowCap Node.nat64?
    cellRowCap := ← member members "cell_row_cap" Settings.standard.cellRowCap Node.nat64?
    previewLimit := ← member members "preview_limit" Settings.standard.previewLimit Node.nat64?
    cellMarker := ← member members "cell_marker" Settings.standard.cellMarker Node.text?
  }

def logSettings? (node : Node) : Option LogSettings := do
  let members ← node.record? ["level", "format", "output", "directory"]
  return {
    level := ← member members "level" LogSettings.standard.level Node.text?
    format := ← member members "format" LogSettings.standard.format Node.text?
    output := ← member members "output" LogSettings.standard.output Node.text?
    directory := ← member members "directory" LogSettings.standard.directory Node.text?
  }

def ofNode? (node : Node) : Option Configuration := do
  let members ← node.record? ["engine", "logging", "connections"]
  return {
    engine := ← member members "engine" Settings.standard settings?
    logging := ← member members "logging" LogSettings.standard logSettings?
    connections := ← member members "connections" [] (Node.entries? (Node.entries? Node.text?))
  }

def ofText? (text : String) : Option Configuration := (Node.ofText? text).bind ofNode?

end Configuration

end FeatureLayers
