import FeatureLayers.Numeric.Reading
import FeatureLayers.Text.Blank

namespace FeatureLayers.CommandLine

inductive ValueKind
  | text
  | path
  | int32
  | int64
  | nat64
deriving DecidableEq, Repr, Inhabited

inductive Argument
  | text (value : String)
  | int (value : Int)
deriving DecidableEq, Repr, Inhabited

inductive Halt
  | helpWanted
  | versionWanted
  | nothingGiven
  | missingCommand
  | unknownCommand (word : String)
  | unknownArgument (word : String)
  | missingValue (option : String)
  | emptyValue (option : String)
  | invalidValue (option value : String)
  | unwantedValue (option value : String)
  | repeatedOption (option : String)
  | conflict (option other : String)
  | missingOption (option : String)
deriving DecidableEq, Repr

def Halt.message : Halt → String
  | .helpWanted => "help was asked for"
  | .versionWanted => "the version was asked for"
  | .nothingGiven | .missingCommand => "a command is required"
  | .unknownCommand word => "unknown command '" ++ word ++ "'"
  | .unknownArgument word => "unexpected argument '" ++ word ++ "'"
  | .missingValue option | .emptyValue option => "a value is required for '--" ++ option ++ "'"
  | .invalidValue option value => "invalid value '" ++ value ++ "' for '--" ++ option ++ "'"
  | .unwantedValue option value => "unexpected value '" ++ value ++ "' for '--" ++ option ++ "'"
  | .repeatedOption option => "'--" ++ option ++ "' cannot be used several times"
  | .conflict option other => "'--" ++ option ++ "' cannot be used with '--" ++ other ++ "'"
  | .missingOption option => "'--" ++ option ++ "' is required"

inductive Takes
  | nothing
  | one (kind : ValueKind)
  | many (kind : ValueKind)
  | help
  | version
deriving DecidableEq, Repr, Inhabited

structure OptionRule where
  name : String
  short : Option Char
  takes : Takes
deriving DecidableEq, Repr, Inhabited

structure Grammar where
  options : List OptionRule
  commands : List String
  /-- Options and those that they do not stand beside. -/
  conflicts : List (String × List String)
  required : List String
deriving Repr, Inhabited

namespace Grammar

def long? (g : Grammar) (name : String) : Option OptionRule := g.options.find? (·.name = name)

def short? (g : Grammar) (c : Char) : Option OptionRule := g.options.find? (·.short = some c)

end Grammar

namespace OptionRule

def value? (o : OptionRule) (kind : ValueKind) (text : String) : Except Halt Argument :=
  let int (read : Option Int) : Except Halt Argument :=
    match read with
    | some n => .ok (.int n)
    | none => .error (.invalidValue o.name text)
  match kind with
  | .text => .ok (.text text)
  | .path => if text = "" then .error (.emptyValue o.name) else .ok (.text text)
  | .int32 => int (int32? text.toList)
  | .int64 => int (int64? text.toList)
  | .nat64 => int ((nat64? text.toList).map Int.ofNat)

end OptionRule

end FeatureLayers.CommandLine
