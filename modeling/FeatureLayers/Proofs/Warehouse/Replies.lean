import FeatureLayers.Proofs.Warehouse.History

namespace FeatureLayers

namespace Warehouse

structure Session.Asked (count : Nat) (s s' : Session) : Prop where
  answer : s'.answer = s.answer
  size : s'.log.size = s.log.size + count

theorem Session.asked_queried (command : Command) (s : Session) : s.Asked 1 (s.queried command) :=
  ⟨s.queried_answer command, by rw [s.queried_log, Array.size_push]⟩

theorem Session.Asked.trans {a b c : Session} {m n : Nat} (first : a.Asked m b) (second : b.Asked n c) :
    a.Asked (m + n) c where
  answer := second.answer.trans first.answer
  size := by rw [second.size, first.size, Nat.add_assoc]

namespace Action

variable {command : Command} {s : Session} {columns : List Column} {rows : List Row} {disturbance : Nat → Disturbance}

theorem execute_run (reply : s.answer s.log.size command = .rows columns rows disturbance) :
    (execute command).run s =
      (.ok (.ofReply columns rows disturbance), { s.logged command with tracker := s.tracker.noteOpened }) := by
  simp only [execute, ExceptT.run_mk, reply]
  rfl

theorem queryColumns_run (reply : s.answer s.log.size command = .rows columns rows disturbance) :
    (queryColumns command).run s =
      (.ok columns, { s.logged command with tracker := s.tracker.noteOpened.noteClosed }) := by
  unfold queryColumns
  rw [run_bind, execute_run reply]
  rfl

end Action

end Warehouse

namespace Layer

open Warehouse (Session)
open Warehouse.Action (queryColumns_run)

variable {endpoint : Warehouse.Endpoint} {s : Session}

theorem describe_run {fromText : String} {columns : List Column} {rows : List Row}
    {disturbance : Nat → Warehouse.Disturbance}
    (reply : s.answer s.log.size (endpoint.command ("SELECT * FROM " ++ fromText ++ " LIMIT 0")) =
      .rows columns rows disturbance) :
    ∃ s', s.Asked 1 s' ∧ s'.cancel = s.cancel ∧ (describe endpoint fromText).run s = (.ok columns, s') := by
  let command := endpoint.command ("SELECT * FROM " ++ fromText ++ " LIMIT 0")
  let described : Session := { s.logged command with tracker := s.tracker.noteOpened.noteClosed }
  refine ⟨described, ⟨rfl, Array.size_push command⟩, rfl, ?_⟩
  rw [describe, ofWarehouse_run, queryColumns_run reply]
  rfl

end Layer

end FeatureLayers
