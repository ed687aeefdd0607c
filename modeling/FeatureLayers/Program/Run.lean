import FeatureLayers.Configuration.Dotenv
import FeatureLayers.Journal.Log
import FeatureLayers.Path
import FeatureLayers.Program.Commands

namespace FeatureLayers.Program

open CommandLine (Halt Invocation)

structure Surroundings where
  environment : Environment
  file : String → FileContent
  connector : Connector

inductive Ending
  | halted (reason : Halt)
  | failed (failure : Failure)
  | finished
deriving DecidableEq, Repr

structure Outcome where
  ending : Ending
  stage : Stage
  log : Option Journal.Log

namespace Outcome

def exitCode (o : Outcome) : Nat :=
  match o.ending with
  | .halted .helpWanted | .halted .versionWanted | .finished => 0
  | .failed _ => 1
  | .halted _ => 2

def output (o : Outcome) : String := String.join (o.stage.printed.toList.map (· ++ "\n"))

def report? (o : Outcome) : Option String :=
  match o.ending with
  | .failed failure => some failure.report
  | .halted _ | .finished => none

end Outcome

def name : String := "geoflake"

def version : String := "0.1.0"

def usage : String := "Usage: " ++ name ++ " [OPTIONS] <COMMAND>"

def answerOf : Halt → Array String
  | .helpWanted => #[usage]
  | .versionWanted => #[name ++ " " ++ version]
  | _ => #[]

def dotenvPath : String := ".env"

def Surroundings.allVariables (s : Surroundings) : Environment :=
  match s.file dotenvPath with
  | .text contents => Dotenv.apply contents s.environment
  | .absent | .directory => s.environment

def perform (s : Setting) (command : CommandLine.Command) : Outcome :=
  let action : Action PUnit := do
    Action.note .debug .logging "logging initialized"
    s.perform command
  let (result, stage) := action.run (.start s.connector.answer)
  let ending := match result with
    | .ok _ => Ending.finished
    | .error failure => .failed failure
  ⟨ending, stage, some (.ofEntries s.configuration.logging stage.session.journal.toList)⟩

def run (s : Surroundings) (words : List String) : Outcome :=
  let stage := Stage.start s.connector.answer
  match Invocation.ofWords words with
  | .error halt => ⟨.halted halt, { stage with printed := answerOf halt }, none⟩
  | .ok invocation =>
    let environment := s.allVariables
    match Configuration.ofFileOrStandard (s.file invocation.config) environment with
    | .error e => ⟨.failed ((Failure.ofConfiguration e).whileDoing ("loading " ++ invocation.config)), stage, none⟩
    | .ok configuration => perform ⟨s.connector, environment, configuration⟩ invocation.command

end FeatureLayers.Program
