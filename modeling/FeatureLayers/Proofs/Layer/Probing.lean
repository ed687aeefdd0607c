import FeatureLayers.Proofs.Layer.Resolving

namespace FeatureLayers

namespace Resolver

open Warehouse (Outcome Session)
open Warehouse.Action (queryAll_run run_bind)

inductive Question
  | srid
  | kinds
  | cell
deriving DecidableEq, Repr

/-- A statement about the column at a place of the declared ones or of the candidates. -/
structure Probe where
  question : Question
  place : Nat
  column : String
deriving DecidableEq, Repr

namespace Probe

def text (fromText : String) (p : Probe) : String :=
  let column := quoteName p.column
  match p.question with
  | .srid => "SELECT ANY_VALUE(ST_SRID(" ++ column ++ ")) FROM " ++ fromText ++ " WHERE " ++ column ++ " IS NOT NULL"
  | .kinds => "SELECT DISTINCT ST_ASGEOJSON(" ++ column ++ "):type::string FROM " ++ fromText ++ " WHERE " ++ column ++
      " IS NOT NULL"
  | .cell => "SELECT H3_IS_VALID_CELL(" ++ column ++ ") FROM " ++ fromText ++ " WHERE " ++ column ++
      " IS NOT NULL LIMIT 1"

/-- Cell functions do not fit the data, as told by the number of the error or by one at the head of its text. -/
def Unsupported (e : Warehouse.Error) : Prop :=
  e.code = 100419 ∨ "100419 ".toList <+: e.message.toList.dropWhile Text.isBlank

instance (e : Warehouse.Error) : Decidable (Unsupported e) := inferInstanceAs (Decidable (_ ∨ _))

/-- Only a cell probe may fail, and only for want of data that cell functions fit. -/
def fault? (p : Probe) : Outcome → Option Warehouse.Error
  | .ok _ => none
  | .error e => if p.question = .cell ∧ Unsupported e then none else some e

theorem isCellFunctionUnsupported_iff {e : Warehouse.Error} : e.isCellFunctionUnsupported ↔ Unsupported e := by
  have lead : intChars Warehouse.Error.cellFunctionUnsupported ++ [' '] = "100419 ".toList := by decide +kernel
  rw [Warehouse.Error.isCellFunctionUnsupported, lead, Bool.or_eq_true, decide_eq_true_iff, Text.startsWith,
    List.isPrefixOf_iff_prefix]
  rfl

end Probe

def rowsOf : Outcome → List Row
  | .ok rows => rows
  | .error _ => []

def sridOf : Outcome → Option Int
  | .ok ((value :: _) :: _) => value.asInt?.filter fun n => -2147483648 ≤ n ∧ n ≤ 2147483647
  | _ => none

def kindsOf (outcome : Outcome) : List GeometryKind := GeometryKind.dedup (knownKinds (subtypes (rowsOf outcome)))

def confirms (outcome : Outcome) : Bool := (rowsOf outcome).any fun row => row.head?.bind Value.asBool? = some true

def shownKinds (kinds : List GeometryKind) : List (Option GeometryKind) :=
  if kinds = [] then [none] else kinds.map some

namespace Split

def declaredProbes : (String × Encoding) × Nat → List Probe
  | ((column, .geometry), place) => [⟨.srid, place, column⟩, ⟨.kinds, place, column⟩]
  | ((column, _), place) => [⟨.kinds, place, column⟩]

def probes (found : Split) : List Probe :=
  found.declared.zipIdx.flatMap declaredProbes ++
    found.candidates.zipIdx.map fun (column, place) => ⟨.cell, place, column⟩

def declaredLayers (told : Probe → Outcome) : (String × Encoding) × Nat → List GeometryColumn
  | ((column, encoding), place) =>
    let srid := match encoding with
      | .geometry => sridOf (told ⟨.srid, place, column⟩)
      | .geography | .cellId => some 4326
    (shownKinds (kindsOf (told ⟨.kinds, place, column⟩))).map fun kind => ⟨column, encoding, kind, srid⟩

def layers (found : Split) (told : Probe → Outcome) : List GeometryColumn :=
  found.declared.zipIdx.flatMap (declaredLayers told) ++
    (found.candidates.zipIdx.filter fun (column, place) => confirms (told ⟨.cell, place, column⟩)).map
      fun (column, _) => ⟨column, .cellId, none, some 4326⟩

end Split

theorem sridOf_eq (outcome : Outcome) :
    sridOf outcome = ((Layer.firstCell? (rowsOf outcome)).bind Value.asInt?).filter fitsInt32 := by
  have fits : fitsInt32 = fun n => decide (-2147483648 ≤ n ∧ n ≤ 2147483647) := by
    funext n
    have bound : ((Nat.pow 2 31 : Nat) : Int) = 2147483648 := rfl
    simp only [fitsInt32, bound, ← Bool.decide_and, decide_eq_decide]
    omega
  rw [fits]
  rcases outcome with e | (_ | ⟨_ | ⟨value, row⟩, rows⟩) <;> rfl

theorem confirms_eq (outcome : Outcome) : confirms outcome = (rowsOf outcome).any fun row => isTrue row.head? := by
  have same (row : Row) : decide (row.head?.bind Value.asBool? = some true) = isTrue row.head? := by
    unfold isTrue
    rcases row.head?.bind Value.asBool? with _ | _ | _ <;> rfl
  simp only [confirms, same]

section Asking

variable (r : Resolver) (fromText : String) (told : Probe → Outcome)

/-- The next statements of the session come to what is told of the probes, if they are these. -/
def Hears (probes : List Probe) (s : Session) : Prop :=
  ∀ k p, probes[k]? = some p → (s.answer (s.log.size + k) (r.endpoint.command (p.text fromText))).outcome = told p

/-- The action runs the statements of the probes, and gives the value unless one of them is at fault. -/
def Asks {α : Type} (probes : List Probe) (action : Layer.Action α) (a : α) : Prop :=
  ∀ s, r.Hears fromText told probes s → match probes.findSome? fun p => p.fault? (told p) with
    | some fault => ∃ s', action.run s = (.error (.warehouse fault), s')
    | none => ∃ s', s.Asked probes.length s' ∧ action.run s = (.ok a, s')

end Asking

namespace Asks

variable {r : Resolver} {fromText : String} {told : Probe → Outcome} {α β : Type}

theorem pure (a : α) : r.Asks fromText told [] (pure a) a := fun s _ => ⟨s, ⟨rfl, rfl⟩, rfl⟩

theorem bind {first : Layer.Action α} {next : α → Layer.Action β} {a : α} {b : β} {earlier later : List Probe}
    (asks : r.Asks fromText told earlier first a) (goes : r.Asks fromText told later (next a) b) :
    r.Asks fromText told (earlier ++ later) (first >>= next) b := by
  intro s heard
  have before := asks s fun k p here => heard k p <| by
    rw [List.getElem?_append_left (List.getElem?_eq_some_iff.mp here).1, here]
  rw [List.findSome?_append]
  cases failed : earlier.findSome? fun p => p.fault? (told p) with
  | some fault =>
    rw [failed] at before
    obtain ⟨s', ran⟩ := before
    exact ⟨s', by rw [run_bind, ran]⟩
  | none =>
    rw [failed] at before
    obtain ⟨s₁, asked, ran⟩ := before
    -- The later probes follow the earlier ones, none of which ended the action.
    have after := goes s₁ fun k p here => by
      rw [asked.answer, asked.size, Nat.add_assoc]
      apply heard
      rw [List.getElem?_append_right (Nat.le_add_right _ _), Nat.add_sub_cancel_left, here]
    rw [Option.none_or, run_bind, ran]
    cases wrong : later.findSome? fun p => p.fault? (told p) with
    | some fault =>
      rw [wrong] at after
      exact after
    | none =>
      rw [wrong] at after
      obtain ⟨s', more, done⟩ := after
      exact ⟨s', List.length_append ▸ asked.trans more, done⟩

theorem map {action : Layer.Action α} {a : α} {probes : List Probe} (asks : r.Asks fromText told probes action a)
    (f : α → β) : r.Asks fromText told probes (do return f (← action)) (f a) := by
  have both : r.Asks fromText told (probes ++ []) (do return f (← action)) (f a) := asks.bind (Asks.pure (f a))
  rwa [List.append_nil] at both

theorem note (level : Journal.Level) (message : String) :
    r.Asks fromText told [] (Warehouse.Action.note level .resolution message) ⟨⟩ :=
  fun s _ => ⟨s.note level .resolution message, ⟨rfl, rfl⟩, rfl⟩

theorem mapM {action : α → Layer.Action β} {probes : α × Nat → List Probe} {value : α × Nat → β}
    (each : ∀ item place, r.Asks fromText told (probes (item, place)) (action item) (value (item, place)))
    (items : List α) (n : Nat) :
    r.Asks fromText told ((items.zipIdx n).flatMap probes) (items.mapM action) ((items.zipIdx n).map value) := by
  induction items generalizing n with
  | nil => exact Asks.pure []
  | cons item items ih =>
    rw [List.mapM_cons, List.zipIdx_cons, List.flatMap_cons, List.map_cons]
    exact (each item n).bind ((ih (n + 1)).map (value (item, n) :: ·))

theorem filterM {accepts : α → Layer.Action Bool} {probes : α × Nat → List Probe} {value : α × Nat → Bool}
    (each : ∀ item place, r.Asks fromText told (probes (item, place)) (accepts item) (value (item, place)))
    (items : List α) :
    r.Asks fromText told (items.zipIdx.flatMap probes) (items.filterM accepts)
      ((items.zipIdx.filter value).map Prod.fst) := by
  have collects : ∀ items found n, r.Asks fromText told ((List.zipIdx items n).flatMap probes)
      (List.filterAuxM accepts items found) ((((items.zipIdx n).filter value).map Prod.fst).reverse ++ found) := by
    intro items
    induction items with
    | nil => exact fun found n => Asks.pure found
    | cons item items ih =>
      intro found n
      rw [List.zipIdx_cons, List.flatMap_cons]
      have both : r.Asks fromText told (probes (item, n) ++ (items.zipIdx (n + 1)).flatMap probes)
          (accepts item >>= fun b => List.filterAuxM accepts items (cond b (item :: found) found)) _ :=
        (each item n).bind (ih (cond (value (item, n)) (item :: found) found) (n + 1))
      cases kept : value (item, n) with
      | true => simpa [kept, List.filterAuxM] using both
      | false => simpa [kept, List.filterAuxM] using both
  have gathered := (collects items [] 0).map List.reverse
  rwa [List.append_nil, List.reverse_reverse] at gathered

theorem queryAll {p : Probe} (strict : p.question ≠ .cell) :
    r.Asks fromText told [p] (Layer.queryAll r.endpoint (p.text fromText)) (rowsOf (told p)) := by
  intro s heard
  have outcome := heard 0 p rfl
  have ran := Layer.queryAll_run r.endpoint (p.text fromText) s
  rw [Nat.add_zero] at outcome
  rw [outcome] at ran
  rw [List.findSome?_singleton]
  cases result : told p with
  | ok rows =>
    rw [result] at ran
    exact ⟨_, s.asked_queried _, ran⟩
  | error e =>
    rw [result] at ran
    simp only [Probe.fault?, strict, false_and, if_false]
    exact ⟨_, ran⟩

theorem observedKind (row : Row) : r.Asks fromText told [] (Resolver.observedKind row)
    ((row.head?.bind Value.asText?).bind GeometryKind.ofName?) := by
  unfold Resolver.observedKind
  cases row.head?.bind Value.asText? with
  | none => exact Asks.pure none
  | some name =>
    dsimp only [Option.bind_some]
    cases GeometryKind.ofName? name with
    | none => exact (Asks.note .warn "Ignoring unknown geometry type").bind (Asks.pure none)
    | some kind => exact Asks.pure (some kind)

theorem observedKinds (rows : List Row) : r.Asks fromText told []
    (do return GeometryKind.dedup ((← rows.mapM Resolver.observedKind).filterMap id))
    (GeometryKind.dedup (knownKinds (subtypes rows))) := by
  have each : r.Asks fromText told [] (rows.mapM Resolver.observedKind)
      (rows.map fun row => (row.head?.bind Value.asText?).bind GeometryKind.ofName?) := by
    induction rows with
    | nil => exact Asks.pure []
    | cons row rows ih =>
      rw [List.mapM_cons, List.map_cons]
      exact (Asks.observedKind row).bind (ih.map _)
  rw [← observed_subtypes]
  exact each.map fun kinds => GeometryKind.dedup (kinds.filterMap id)

variable (place : Nat) (column : String)

theorem srid : r.Asks fromText told [⟨.srid, place, column⟩] (r.srid fromText column)
    (sridOf (told ⟨.srid, place, column⟩)) := by
  rw [sridOf_eq]
  exact (Asks.queryAll (p := ⟨.srid, place, column⟩) (by simp)).map fun rows =>
    ((Layer.firstCell? rows).bind Value.asInt?).filter fitsInt32

theorem geometryKinds : r.Asks fromText told [⟨.kinds, place, column⟩] (r.geometryKinds fromText column)
    (kindsOf (told ⟨.kinds, place, column⟩)) := by
  have asked : r.Asks fromText told [⟨.kinds, place, column⟩] _ _ :=
    Asks.queryAll (p := ⟨.kinds, place, column⟩) (by simp)
  exact asked.bind (Asks.observedKinds _)

theorem probeCell : r.Asks fromText told [⟨.cell, place, column⟩] (r.probeCell fromText column)
    (confirms (told ⟨.cell, place, column⟩)) := by
  intro s heard
  have outcome := heard 0 _ rfl
  let s' := s.queried (r.endpoint.command (probeText fromText column))
  have asked : s.Asked 1 s' := s.asked_queried _
  have ran := queryAll_run (r.endpoint.command (probeText fromText column)) s
  rw [Nat.add_zero] at outcome
  change (s.answer s.log.size (r.endpoint.command (probeText fromText column))).outcome = _ at outcome
  rw [outcome] at ran
  have attempted : (Warehouse.Action.attempt (Warehouse.Action.queryAll
      (r.endpoint.command (probeText fromText column))) : Layer.Action Outcome).run s =
        (.ok (told ⟨.cell, place, column⟩), s') := by
    change (Except.ok ((Warehouse.Action.queryAll _).run s).1, ((Warehouse.Action.queryAll _).run s).2) = _
    rw [ran]
  rw [List.findSome?_singleton, confirms_eq, Resolver.probeCell, run_bind, attempted]
  cases told ⟨.cell, place, column⟩ with
  | ok rows => exact ⟨s', asked, rfl⟩
  | error e =>
    simp only [Probe.fault?, ← Probe.isCellFunctionUnsupported_iff]
    by_cases unsupported : e.isCellFunctionUnsupported
    · simp only [unsupported, and_self, if_true]
      exact ⟨s'.note .warn .resolution "Cell probe unsupported, column not confirmed",
        ⟨asked.answer, asked.size⟩, rfl⟩
    · simp only [unsupported]
      exact ⟨s', rfl⟩

theorem declaredSpecs (declared : String × Encoding) : r.Asks fromText told (Split.declaredProbes (declared, place))
    (r.declaredSpecs fromText declared) (Split.declaredLayers told (declared, place)) := by
  obtain ⟨column, encoding⟩ := declared
  have shown (srid : Option Int) (kinds : List GeometryKind) : columnSpecs column encoding srid kinds =
      (shownKinds kinds).map fun kind => ⟨column, encoding, kind, srid⟩ := by
    cases kinds <;> simp [columnSpecs, shownKinds]
  have kinds (srid : Option Int) : r.Asks fromText told [⟨.kinds, place, column⟩]
      (do return columnSpecs column encoding srid (← r.geometryKinds fromText column))
      ((shownKinds (kindsOf (told ⟨.kinds, place, column⟩))).map fun kind => ⟨column, encoding, kind, srid⟩) := by
    rw [← shown]
    exact (Asks.geometryKinds place column).map _
  cases encoding with
  | geometry => exact (Asks.srid place column).bind (kinds _)
  | geography => exact (Asks.pure (some Descriptor.geographySrid)).bind (kinds _)
  | cellId => exact (Asks.pure (some Descriptor.geographySrid)).bind (kinds _)

end Asks

theorem resolve_asks (r : Resolver) (fromText : String) (told : Probe → Outcome) (found : Split) :
    r.Asks fromText told found.probes (do
      let declared ← found.declared.mapM (r.declaredSpecs fromText)
      let cells ← r.confirmCellColumns fromText found.candidates
      Warehouse.Action.note .debug .resolution "Resolved geometry columns"
      return declared.flatten ++ cells.map cellSpec) (found.layers told) := by
  have declared : r.Asks fromText told (found.declared.zipIdx.flatMap Split.declaredProbes)
      (found.declared.mapM (r.declaredSpecs fromText)) (found.declared.zipIdx.map (Split.declaredLayers told)) :=
    Asks.mapM (fun item place => Asks.declaredSpecs place item) found.declared 0
  have cells : r.Asks fromText told (found.candidates.zipIdx.flatMap fun (column, place) => [⟨.cell, place, column⟩])
      (r.confirmCellColumns fromText found.candidates)
      ((found.candidates.zipIdx.filter fun (column, place) => confirms (told ⟨.cell, place, column⟩)).map Prod.fst) :=
    Asks.filterM (fun column place => Asks.probeCell place column) found.candidates
  have probes : found.probes = found.declared.zipIdx.flatMap Split.declaredProbes ++
      (found.candidates.zipIdx.flatMap (fun (column, place) => [⟨.cell, place, column⟩]) ++ ([] ++ [])) := by
    rw [List.append_nil, List.append_nil, Split.probes, List.map_eq_flatMap]
  have layers : found.layers told = (found.declared.zipIdx.map (Split.declaredLayers told)).flatten ++
      ((found.candidates.zipIdx.filter fun (column, place) => confirms (told ⟨.cell, place, column⟩)).map
        Prod.fst).map cellSpec := by
    rw [Split.layers, List.flatMap_def, List.map_map]
    rfl
  rw [probes, layers]
  exact declared.bind (cells.bind ((Asks.note .debug "Resolved geometry columns").bind (Asks.pure _)))

section Outcome

variable {r : Resolver} {source : Source} {columns : List Column} {rows : List Row}
  {disturbance : Nat → Warehouse.Disturbance} {told : Probe → Outcome} {s : Session}

theorem resolveAll_outcome
    (listed : s.answer s.log.size (r.endpoint.command (listingText source)) = .rows columns rows disturbance)
    (whole : source.isQuery = false → (disturbance 0).error = none)
    (heard : ∀ k p, (r.listing source columns rows).probes[k]? = some p →
      (s.answer (s.log.size + 1 + k) (r.endpoint.command (p.text source.fromClause))).outcome = told p) :
    ((r.resolveAll source).run s).1 =
      match (r.listing source columns rows).probes.findSome? fun p => p.fault? (told p) with
      | some fault => .error (.warehouse fault)
      | none => .ok ((r.listing source columns rows).layers told) := by
  obtain ⟨s₁, asked, divided⟩ := split_run listed whole
  have settled := r.resolve_asks source.fromClause told (r.listing source columns rows) s₁ fun k p here => by
    rw [asked.answer, asked.size]
    exact heard k p here
  rw [resolveAll, run_bind, divided]
  dsimp only
  cases failed : (r.listing source columns rows).probes.findSome? fun p => p.fault? (told p) with
  | some fault =>
    rw [failed] at settled
    obtain ⟨s', ran⟩ := settled
    rw [ran]
  | none =>
    rw [failed] at settled
    obtain ⟨s', -, ran⟩ := settled
    rw [ran]

/--
A source whose columns are listed is resolved unless a probe is at fault: a statement about a reference system or about
kinds that fails, or a cell probe that fails for another reason than that cell functions do not fit the data. The error
is that of the first such probe; else each column has the layers that its own probes say.
-/
theorem resolveAll_tolerates_unsupported
    (listed : s.answer s.log.size (r.endpoint.command (listingText source)) = .rows columns rows disturbance)
    (whole : source.isQuery = false → (disturbance 0).error = none)
    (heard : ∀ k p, (r.listing source columns rows).probes[k]? = some p →
      (s.answer (s.log.size + 1 + k) (r.endpoint.command (p.text source.fromClause))).outcome = told p) :
    (∀ e, ((r.resolveAll source).run s).1 = .error e ↔ ∃ before p after fault,
      (r.listing source columns rows).probes = before ++ p :: after ∧ p.fault? (told p) = some fault ∧
      (∀ q ∈ before, q.fault? (told q) = none) ∧ e = .warehouse fault) ∧
    ((∀ p ∈ (r.listing source columns rows).probes, p.fault? (told p) = none) →
      ((r.resolveAll source).run s).1 = .ok ((r.listing source columns rows).layers told)) := by
  rw [resolveAll_outcome listed whole heard]
  constructor
  · intro e
    cases failed : (r.listing source columns rows).probes.findSome? fun p => p.fault? (told p) with
    | some fault =>
      obtain ⟨before, p, after, same, wrong, right⟩ := List.findSome?_eq_some_iff.mp failed
      refine ⟨fun error => ⟨before, p, after, fault, same, wrong, right, ?_⟩, ?_⟩
      · cases error
        rfl
      · rintro ⟨before, p, after, other, same, wrong, right, rfl⟩
        have found := List.findSome?_eq_some_iff.mpr ⟨before, p, after, same, wrong, right⟩
        rw [Option.some.inj (failed.symm.trans found)]
    | none =>
      refine ⟨nofun, ?_⟩
      rintro ⟨before, p, after, fault, same, wrong, -⟩
      have right := List.findSome?_eq_none_iff.mp failed p (by simp [same])
      rw [right] at wrong
      cases wrong
  · intro right
    rw [List.findSome?_eq_none_iff.mpr right]

end Outcome

def soundingColumns : List Column :=
  [⟨"G", .geometry, 0⟩, ⟨"A", .fixed, 1⟩, ⟨"N", .boolean, 2⟩, ⟨"B", .text, 3⟩, ⟨"C", .fixed, 4⟩, ⟨"D", .text, 5⟩]

def soundingRows : List Row :=
  [[.text "G", .text " geometry"], [.text "A", .text "NUMBER", .text "by H3"], [.text "N", .text "NUMBER", .text "depth"],
    [.text "B", .text "text", .text "h3"], [.text "C", .text "Number", .text "H3 cell"], [.text "D", .null, .text "(h3)"]]

/--
A geometry column and four that may hold cells, of which only the last but one is found to. The first of these probes is
answered, but its rows cannot be fetched.
-/
def soundings (second : Warehouse.Error) : Session := .start fun number _ => match number with
  | 0 => .rows soundingColumns soundingRows fun _ => .none
  | 1 => .rows [] [[.int 31287]] fun _ => .none
  | 2 => .rows [] [[.text "Point"]] fun _ => .none
  | 3 => .rows [] [[.bool true]] fun fetch => ⟨if fetch = 0 then some ⟨100419, "no cells"⟩ else none, false⟩
  | 4 => .failure second
  | 5 => .rows [] [[.bool true]] fun _ => .none
  | _ => .rows [] [] fun _ => .none

def soundingsTold (second : Warehouse.Error) (p : Probe) : Outcome :=
  match p.question, p.place with
  | .srid, _ => .ok [[.int 31287]]
  | .kinds, _ => .ok [[.text "Point"]]
  | .cell, 0 => .error ⟨100419, "no cells"⟩
  | .cell, 1 => .error second
  | .cell, 2 => .ok [[.bool true]]
  | .cell, _ => .ok []

def SoundingsResolved (r : Resolver) (source : Source) : Prop :=
  ((r.resolveAll source).run (soundings ⟨0, " 100419 (P0000): no cells"⟩)).1 =
      .ok [⟨"G", .geometry, some .point, some 31287⟩, ⟨"C", .cellId, none, some 4326⟩] ∧
    ((r.resolveAll source).run (soundings ⟨0, "1004190 rows"⟩)).1 = .error (.warehouse ⟨0, "1004190 rows"⟩)

theorem resolveAll_tolerates_unsupported_soundings :
    let r : Resolver := ⟨⟨"lake", .unset⟩, .standard⟩
    SoundingsResolved r (.query "q") ∧ SoundingsResolved r (.table none "T") := by
  intro r
  have split : ∀ source ∈ [Source.query "q", .table none "T"],
      r.listing source soundingColumns soundingRows = ⟨[("G", .geometry)], ["A", "B", "C", "D"]⟩ := by
    decide +kernel
  have each : ∀ source ∈ [Source.query "q", .table none "T"], SoundingsResolved r source := by
    intro source among
    have divided := split source among
    have probes : (r.listing source soundingColumns soundingRows).probes = [⟨.srid, 0, "G"⟩, ⟨.kinds, 0, "G"⟩,
        ⟨.cell, 0, "A"⟩, ⟨.cell, 1, "B"⟩, ⟨.cell, 2, "C"⟩, ⟨.cell, 3, "D"⟩] := by
      rw [divided]
      rfl
    have heard (second : Warehouse.Error) :
        ∀ k p, (r.listing source soundingColumns soundingRows).probes[k]? = some p →
          ((soundings second).answer ((soundings second).log.size + 1 + k)
            (r.endpoint.command (p.text source.fromClause))).outcome = soundingsTold second p := by
      intro k p here
      rw [probes] at here
      match k with
      | 0 | 1 | 2 | 3 | 4 | 5 =>
        cases here
        rfl
      | k + 6 => cases here
    have listed (second : Warehouse.Error) : (soundings second).answer (soundings second).log.size
        (r.endpoint.command (listingText source)) = .rows soundingColumns soundingRows fun _ => .none := rfl
    have tolerated := resolveAll_tolerates_unsupported (listed ⟨0, " 100419 (P0000): no cells"⟩) (fun _ => rfl) (heard _)
    have failed := resolveAll_tolerates_unsupported (listed ⟨0, "1004190 rows"⟩) (fun _ => rfl) (heard _)
    rw [probes, divided] at tolerated
    rw [probes] at failed
    constructor
    · exact tolerated.2 (by decide +kernel)
    · exact (failed.1 _).mpr ⟨[⟨.srid, 0, "G"⟩, ⟨.kinds, 0, "G"⟩, ⟨.cell, 0, "A"⟩], ⟨.cell, 1, "B"⟩, _, _, rfl,
        by decide +kernel, by decide +kernel, rfl⟩
  exact ⟨each _ (.head _), each _ (.tail _ (.head _))⟩

end Resolver

end FeatureLayers
