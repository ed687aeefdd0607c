import FeatureLayers.Warehouse.Session

namespace FeatureLayers.Warehouse

structure Rule where
  pattern : String
  reply : Reply

namespace Rule

def unknownObject : Int := 2003

def noReply (sql : String) : Error := ⟨unknownObject, "no mock reply registered for: " ++ sql⟩

def applies (r : Rule) (sql : String) : Bool := Text.holdsText r.pattern sql

def answer (rules : List Rule) (command : Command) : Reply :=
  match rules.find? (·.applies command.sql) with
  | some rule => rule.reply
  | none => .failure (noReply command.sql)

end Rule

structure Script where
  rules : List Rule
  /-- Statements that are refused, by the number of statements before them. -/
  refused : List (Nat × Error)

namespace Script

def reply (s : Script) (number : Nat) (command : Command) : Reply :=
  match s.refused.lookup number with
  | some e => .failure e
  | none => Rule.answer s.rules command

def countMatching (s : Script) (pattern : String) (log : List Command) : Nat :=
  log.zipIdx.countP fun (command, number) => Text.holdsText pattern command.sql && (s.refused.lookup number).isNone

end Script

end FeatureLayers.Warehouse
