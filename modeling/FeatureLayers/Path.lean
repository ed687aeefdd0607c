import FeatureLayers.Configuration.Environment

namespace FeatureLayers.Path

def parts (path : String) : List String :=
  ((Text.splitOnChar '/' path.toList).map String.ofList).filter fun part => part != "" && part != "."

def isAbsolute (path : String) : Bool := path.toList.head? = some '/'

def lookup (files : List (String × String)) (path : String) : FileContent :=
  let endsOpen := path.toList.getLast? = some '/'
  match parts path with
  | [] => if path = "" then .absent else .directory
  | [".."] => if isAbsolute path then .absent else .directory
  | [name] => match files.lookup name with
    | some contents => if isAbsolute path || endsOpen then .absent else .text contents
    | none => .absent
  | _ => .absent

end FeatureLayers.Path
