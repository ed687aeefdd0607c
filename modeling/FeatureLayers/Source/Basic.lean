import FeatureLayers.Text.Blank

namespace FeatureLayers

def quoteName (name : String) : String :=
  String.ofList ('"' :: Text.expand '"' ['"', '"'] name.toList ++ ['"'])

def quoteLiteral (text : String) : String :=
  String.ofList ('\'' :: Text.expand '\'' ['\'', '\''] text.toList ++ ['\''])

def commaList (items : List String) : String := ", ".intercalate items

inductive Source
  | table (schema : Option String) (name : String)
  | query (sql : String)
deriving DecidableEq, Repr, Inhabited

namespace Source

def isQuery : Source → Bool
  | .query _ => true
  | .table _ _ => false

/-- The text of a query without blanks around it and without the semicolons at its end. -/
def queryBody (sql : String) : List Char := Text.dropEndWhile (· = ';') (Text.trim sql.toList)

def fromClause : Source → String
  | .table (some schema) name => quoteName schema ++ "." ++ quoteName name
  | .table none name => quoteName name
  | .query sql => "(" ++ String.ofList (queryBody sql) ++ ")"

def isEmptyQuery : Source → Bool
  | .query sql => (Text.trim (queryBody sql)).isEmpty
  | .table _ _ => false

end Source

end FeatureLayers
