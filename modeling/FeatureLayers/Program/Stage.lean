import FeatureLayers.Configuration.Environment
import FeatureLayers.Failure
import FeatureLayers.Layer.Access

namespace FeatureLayers.Program

structure Connector where
  connect : Option String → Except Warehouse.Error Unit
  batch : String → Except Warehouse.Error Unit
  answer : Nat → Warehouse.Command → Warehouse.Reply

inductive Opening
  | database (path : Option String)
  | batch (sql : String)
deriving DecidableEq, Repr, Inhabited

structure Stage where
  session : Warehouse.Session
  openings : List Opening
  isConnected : Bool
  printed : Array String

def Stage.start (answer : Nat → Warehouse.Command → Warehouse.Reply) : Stage := ⟨.start answer, [], false, #[]⟩

abbrev Action (α : Type) := ExceptT Failure (StateM Stage) α

namespace Action

def ofExcept {α : Type} (result : Except Failure α) : Action α := ExceptT.mk (pure result)

def ofLayer {α : Type} (action : Layer.Action α) : Action α := ExceptT.mk fun stage =>
  let (result, session) := action.run stage.session
  (result.mapError Failure.ofLayer, { stage with session })

def note (level : Journal.Level) (topic : Journal.Topic) (message : String) : Action PUnit :=
  ofLayer (Warehouse.Action.note level topic message)

def print (text : String) : Action PUnit :=
  ExceptT.lift (modify fun stage => { stage with printed := stage.printed.push text })

def printJson (document : Json) : Action PUnit := print document.sorted.indented

def noteOpening (o : Opening) : Action PUnit :=
  ExceptT.lift (modify fun stage => { stage with openings := stage.openings ++ [o] })

def failingWith (what : String) (result : Except Warehouse.Error Unit) : Action PUnit :=
  match result with
  | .ok () => pure ()
  | .error e => throw ((Failure.ofWarehouse e).whileDoing what)

def supportedKind : String := "duckdb"

def connect (connector : Connector) (name : String) (parameters : Parameters) : Action PUnit := do
  let about := "connection '" ++ name ++ "': "
  let kind := (parameters.get? "kind").getD supportedKind
  if kind != supportedKind then throw (.ofMessage (about ++ "unsupported kind '" ++ kind ++ "'"))
  let path := parameters.get? "path"
  noteOpening (.database path)
  failingWith (about ++ "cannot open " ++ path.getD "in-memory database") (connector.connect path)
  ExceptT.lift (modify fun stage => { stage with isConnected := true })
  match parameters.get? "init_sql" with
  | some sql =>
    noteOpening (.batch sql)
    failingWith (about ++ "init_sql failed") (connector.batch sql)
  | none => pure ()
  note .info .connection "session opened"

end Action

end FeatureLayers.Program
