import FeatureLayers.Layer.Error
import FeatureLayers.Source.Basic
import FeatureLayers.Warehouse.Session

namespace FeatureLayers.Layer

open Warehouse (Endpoint)

abbrev Action (α : Type) := Warehouse.Action Error α

def ofWarehouse {α : Type} (action : Warehouse.Action Warehouse.Error α) : Action α :=
  ExceptT.adapt Error.warehouse action

def ofExcept {α : Type} (result : Except Error α) : Action α := ExceptT.mk (pure result)

def queryAll (endpoint : Endpoint) (sql : String) : Action (List Row) :=
  ofWarehouse (Warehouse.Action.queryAll (endpoint.command sql))

def describe (endpoint : Endpoint) (fromText : String) : Action (List Column) :=
  ofWarehouse (Warehouse.Action.queryColumns (endpoint.command ("SELECT * FROM " ++ fromText ++ " LIMIT 0")))

def firstCell? (rows : List Row) : Option Value := rows.head?.bind List.head?

/-- The number in the first cell; a missing or negative one counts as zero. -/
def firstCount (rows : List Row) : Nat := (((firstCell? rows).bind Value.asInt?).getD 0).toNat

def countRows (endpoint : Endpoint) (fromText : String) : Action Nat := do
  return firstCount (← queryAll endpoint ("SELECT COUNT(*) FROM " ++ fromText))

def exceedsSize (endpoint : Endpoint) (fromText : String) (limit : Nat) : Action Bool := do
  return limit ≤ (← countRows endpoint fromText)

/-- Whether the warehouse accepts an expression as a filter; one that fails is dropped without an error. -/
def acceptsExpression (endpoint : Endpoint) (fromText expression : String) : Action Bool := do
  if (Text.trim expression.toList).isEmpty then return false
  let probe := "SELECT COUNT(*) FROM " ++ fromText ++ " WHERE " ++ expression ++ " LIMIT 0"
  match ← Warehouse.Action.attempt (queryAll endpoint probe) with
  | .ok _ => return true
  | .error _ =>
    Warehouse.Action.note .debug .composition "Dropping invalid filter expression"
    return false

end FeatureLayers.Layer
