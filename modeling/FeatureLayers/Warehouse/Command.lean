import FeatureLayers.Numeric.Printing

namespace FeatureLayers.Warehouse

structure Context where
  database : Option String
  schema : Option String
deriving DecidableEq, Repr, Inhabited

def Context.unset : Context := ⟨none, none⟩

structure Command where
  connection : String
  sql : String
  context : Context
deriving DecidableEq, Repr, Inhabited

structure Endpoint where
  connection : String
  context : Context
deriving DecidableEq, Repr, Inhabited

def Endpoint.command (e : Endpoint) (sql : String) : Command := ⟨e.connection, sql, e.context⟩

end FeatureLayers.Warehouse
