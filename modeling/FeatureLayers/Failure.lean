import FeatureLayers.Configuration.Basic
import FeatureLayers.Layer.Error

namespace FeatureLayers

structure Failure where
  message : String
  causes : List String
deriving DecidableEq, Repr, Inhabited

namespace Failure

def ofMessage (message : String) : Failure := ⟨message, []⟩

def whileDoing (what : String) (f : Failure) : Failure := ⟨what, f.message :: f.causes⟩

def ofChain : List String → Failure
  | [] => ofMessage ""
  | message :: causes => ⟨message, causes⟩

def ofConfiguration (e : Configuration.Error) : Failure := ofChain e.chain

def ofLayer (e : Layer.Error) : Failure := ofMessage e.message

def ofWarehouse (e : Warehouse.Error) : Failure := ofMessage e.display

def ofUri (fault : Uri.Fault) : Failure := ofMessage fault.message

def hung (lead : String) (text : String) : String :=
  let margin := String.ofList (List.replicate lead.length ' ')
  lead ++ ("\n" ++ margin).intercalate (text.splitOn "\n")

def numbered (number : Nat) (text : String) : String :=
  let digits := intText number
  hung (String.ofList (List.replicate (5 - digits.length) ' ') ++ digits ++ ": ") text

def causeLines : List String → List String
  | [cause] => [hung "    " cause]
  | causes => causes.zipIdx.map fun (cause, number) => numbered number cause

def report (f : Failure) : String :=
  let causes := if f.causes.isEmpty then "" else "\n\nCaused by:\n" ++ "\n".intercalate (causeLines f.causes)
  "Error: " ++ f.message ++ causes

end Failure

end FeatureLayers
