import FeatureLayers.Program.Run

namespace FeatureLayers.Main

open Program (Connector Outcome)

def noDriver : Warehouse.Error := .unspecified "no database driver is linked"

def connector : Connector where
  connect _ := .error noDriver
  batch _ := .error noDriver
  answer _ _ := .failure noDriver

def readContent (path : String) : IO FileContent := do
  try return .text (← IO.FS.readFile path)
  catch
    | .noFileOrDirectory .. => return .absent
    | _ => return .directory

def readVariables (names : List String) : IO Environment := do
  let pairs ← names.filterMapM fun name => do return (← IO.getEnv name).map (name, ·)
  return Entries.ofPairs pairs

def configPath (words : List String) : String :=
  match CommandLine.Invocation.ofWords words with
  | .ok invocation => invocation.config
  | .error _ => CommandLine.defaultConfig

def wantedNames (config secrets : FileContent) : List String :=
  let configuration := match config with
    | .text contents => (Configuration.ofText? contents).getD .standard
    | .absent | .directory => .standard
  let mentioned := match secrets with
    | .text contents => Dotenv.possibleNames contents
    | .absent | .directory => []
  configuration.variableNames ++ mentioned

def entryText (e : Journal.Entry) : String := e.level.name ++ " " ++ e.topic.path ++ ": " ++ e.message

def writeLog (log : Journal.Log) : IO Unit := do
  for entry in log.consoleEntries do IO.eprintln (entryText entry)
  if let some entries := log.fileEntries? then
    IO.FS.createDirAll log.directory
    let file ← IO.FS.Handle.mk (log.directory ++ "/geoflake.log") .append
    for entry in entries do file.putStrLn (entryText entry)

def writeOutcome (o : Outcome) : IO Unit := do
  IO.print o.output
  if let some log := o.log then writeLog log
  match o.ending with
  | .failed failure => IO.eprintln failure.report
  | .halted reason => if o.exitCode != 0 then IO.eprintln reason.message
  | .finished => pure ()

end FeatureLayers.Main

open FeatureLayers FeatureLayers.Main in
def main (words : List String) : IO UInt32 := do
  let path := configPath words
  let config ← readContent path
  let secrets ← readContent Program.dotenvPath
  let environment ← readVariables (wantedNames config secrets)
  let file (wanted : String) : FileContent :=
    if wanted = path then config else if wanted = Program.dotenvPath then secrets else .absent
  let outcome := Program.run ⟨environment, file, connector⟩ words
  writeOutcome outcome
  return outcome.exitCode.toUInt32
