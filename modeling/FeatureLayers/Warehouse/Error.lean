import FeatureLayers.Numeric.Printing
import FeatureLayers.Text.Blank

namespace FeatureLayers.Warehouse

structure Error where
  code : Int
  message : String
deriving DecidableEq, Repr, Inhabited

namespace Error

def unspecified (message : String) : Error := ⟨0, message⟩

def cursorClosed : Error := unspecified "cursor is closed"

def cellFunctionUnsupported : Int := 100419

/-- Some drivers give the number only at the head of the text. -/
def isCellFunctionUnsupported (e : Error) : Bool :=
  e.code = cellFunctionUnsupported ||
    Text.startsWith (intChars cellFunctionUnsupported ++ [' ']) (Text.trimStart e.message.toList)

def display (e : Error) : String := "warehouse error " ++ intText e.code ++ ": " ++ e.message

end Error

end FeatureLayers.Warehouse
