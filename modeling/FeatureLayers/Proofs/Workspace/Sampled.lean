import FeatureLayers.Proofs.Workspace.Lasting
import FeatureLayers.Proofs.Workspace.Loaded

namespace FeatureLayers

open Warehouse (Session)
open Layer (firstCount)

theorem Layer.Sized.inquire {spec : GeometryColumn} {limit : Option Nat} {adopted : List Feature → Prop}
    {since s s' : Session} {l l' : Layer} {inquiry : Inquiry} (sized : l.Sized spec limit adopted since s)
    (h : (l.inquire inquiry).run s = (.ok ((), l'), s')) : l'.Sized spec limit adopted since s' := by
  have precedes := (l.inquire_keeps Warehouse.Action.precedes_frame inquiry).outcome h
  rcases Layer.inquire_cases h with rfl | ⟨count, counted⟩ | ⟨extent, measured⟩
  · exact sized.later precedes fun _ => id
  · exact (sized.featureCount counted).1
  · exact (sized.extent measured).1

namespace Workspace

/-- The layer of this number takes its sample, as do its scans, whatever is done with them. -/
theorem sized_lasting (i : Nat) (spec : GeometryColumn) (limit : Option Nat) (since : Session)
    {activities : List Activity} {activity : Activity} (member : activity ∈ activities) :
    Lasting (i + 1) (fun j l s => j = i → l.Sized spec limit (fun features => .adopt i features ∈ activities) since s)
      (fun j scan => j = i → scan.Samples limit) activity where
  later holds precedes same := (holds same).later precedes fun _ => id
  opens beyond _ same := absurd same (by omega)
  registers transform holds same := (holds same).registerTransform transform
  filters holds filtered same := (holds same).setSubset filtered
  loads holds loaded same := (holds same).loadAll loaded
  inquires holds inquired same := (holds same).inquire inquired
  adopts adopting holds adopted same := by
    subst same adopting
    refine ((holds rfl).adopt adopted).later (.refl _) fun features => ?_
    rintro (earlier | rfl)
    · exact earlier
    · exact member
  begins shared holds begun same := ((holds same).getFeatures begun).listening shared
  used run use holds := by
    refine ⟨fun same => ((holds same).used use).1, fun l s sized store same => (sized same).stored fun sampled => ?_⟩
    exact (((holds same).used use).2 sampled).trans store

theorem openLayer_sized {w w' : Workspace} {d : Descriptor} {context : Warehouse.Context} {settings : Settings}
    {l : Layer} {spec : GeometryColumn} (adopted : List Feature → Prop)
    (housed : w.Throughout 0 (fun _ _ _ => True) fun _ _ => True)
    (opened : w.openLayer d context settings = (.ok l, w')) (found : l.spec = some spec) :
    ∃ rows, w.session.AnsweredSince w'.session
        (Warehouse.Endpoint.command ⟨d.connection, context⟩ ("SELECT COUNT(*) FROM " ++ d.source.fromClause)) rows ∧
      let limit := Sampling.limitOf (firstCount rows) (settings.rowCap spec.encoding)
      l.sampling = some ⟨firstCount rows, limit⟩ ∧
      w'.Throughout (w.layers.size + 1) (fun j l s => j = w.layers.size → l.Sized spec limit adopted w'.session s)
        fun j scan => j = w.layers.size → scan.Samples limit := by
  obtain ⟨rows, answered, counted, sized⟩ := Layer.ofDescriptor_sized (openLayer_ok opened).1 found
  exact ⟨rows, answered, counted, throughout_opened housed opened sized⟩

/--
Whether a layer is sampled is settled when it is opened, by whether the rows that are counted then come to the cap for
cells or for geometries. Whatever is done later, every statement for its features has the sample behind all filters, or none has one:
each that is composed, explained, or sent when a scan is opened or rewound. What a sampled layer has loaded was adopted;
and its count and extent are answers of the warehouse even then.
-/
theorem sample_is_settled_on_opening (session : Session) (before later : List Activity) (d : Descriptor)
    (context : Warehouse.Context) (settings : Settings) (l : Layer) (w : Workspace) (spec : GeometryColumn)
    (opened : ((start session).engaged before).openLayer d context settings = (.ok l, w)) (found : l.spec = some spec) :
    let i := ((start session).engaged before).layers.size
    let now := w.engaged later
    ∃ rows l', ((start session).engaged before).session.AnsweredSince w.session
        (Warehouse.Endpoint.command ⟨d.connection, context⟩ ("SELECT COUNT(*) FROM " ++ d.source.fromClause)) rows ∧
      now.layers[i]? = some l' ∧
      let rowCount := firstCount rows
      let cap := if spec.encoding = .cellId then settings.cellRowCap else settings.geometryRowCap
      l.sampling = some ⟨rowCount, if cap ≤ rowCount then some cap else none⟩ ∧
      (∀ request expression box statement,
        Query.compose (Scan.queryPlan l'.base spec) request expression box = .ok statement →
          statement.SampledFrom rowCount cap) ∧
      (∀ request statement s, (l'.explain request).run now.session = (.ok statement, s) →
        statement.SampledFrom rowCount cap) ∧
      (∀ request scan statement s, (l'.getFeatures request).run now.session = (.ok scan, s) →
        scan.statement? = some statement → statement.SampledFrom rowCount cap ∧
          s.log.back? = some (l'.base.endpoint.command statement.toSql)) ∧
      (∀ k open' statement, now.scan? k = some open' → open'.layer = some i →
        open'.scan.statement? = some statement → statement.SampledFrom rowCount cap ∧
          (open'.scan.phase ≠ .closed →
            (Run.rewind ⟨open'.scan, now.session, now.storeOf open'.layer⟩).2.session.log.back? =
              some (open'.scan.endpoint.command statement.toSql))) ∧
      (cap ≤ rowCount →
        (∀ features, l'.store.features = some features → .adopt i features ∈ later) ∧
        (∀ count left s, l'.featureCount.run now.session = (.ok (count, left), s) →
          ∃ answer, w.session.AnsweredSince s (l'.base.endpoint.command l'.countText) answer ∧
            count = firstCount answer) ∧
        ∀ extent left s, l'.extent.run now.session = (.ok (extent, left), s) →
          ∃ answer, w.session.AnsweredSince s (l'.base.endpoint.command (l'.extentText spec)) answer ∧
            extent = Layer.extentOfRows answer) := by
  intro i now
  obtain ⟨rows, answered, counted, begun⟩ :=
    openLayer_sized (fun features => .adopt i features ∈ later) (housed session before) opened found
  dsimp only at counted begun ⊢
  rw [← settings.rowCap_eq spec.encoding]
  have throughout := begun.engaged fun activity member => sized_lasting i spec _ w.session member
  have inside : i < now.layers.size := throughout.opened
  have sized := throughout.layers i now.layers[i] (Array.getElem?_eq_getElem inside) rfl
  refine ⟨rows, now.layers[i], answered, Array.getElem?_eq_getElem inside, counted, ?_, ?_, ?_, ?_, fun enough => ?_⟩
  · intro request expression box statement composed
    exact .ofLimit ((Query.compose_sampleLimit composed).trans sized.sample)
  · intro request statement s explained
    exact .ofLimit (sized.explain explained)
  · intro request scan statement s begins asked
    exact ⟨.ofLimit ((sized.getFeatures begins).statement statement asked), Layer.getFeatures_sends begins asked⟩
  · intro k open' statement present layer asked
    obtain ⟨-, samples⟩ := throughout.scans k open' i present layer
    exact ⟨.ofLimit ((samples rfl).statement statement asked), fun isOpen => Run.rewind_sends isOpen asked⟩
  · have sampled : (Sampling.limitOf (firstCount rows) (settings.rowCap spec.encoding)).isSome = true := by
      rw [Sampling.limitOf, if_pos enough]
      rfl
    refine ⟨sized.loaded sampled, fun count left s counted => ?_, fun extent left s measured => ?_⟩
    · exact (sized.featureCount counted).2 sampled
    · exact (sized.extent measured).2 sampled

def capped : Settings := { Settings.standard with geometryRowCap := 2, cellRowCap := 1 }

def points : Descriptor := ⟨"c", .query "q", some "G", some .point, some .geometry, some 4326, none⟩

def cells : Descriptor := ⟨"c", .query "q", some "G", none, some .cellId, none, none⟩

/-- A sampled layer is loaded, filtered, scanned and given features, and its scan is rewound. -/
def errands : List Activity :=
  [.operate (.loadAll 0), .operate (.getFeatures 0 .all false), .operate (.setSubset 0 (some "N")), .adopt 0 [],
    .operate (.use 0 .rewind), .inquire 0 .featureCount]

def SampledOnErrands (d : Descriptor) (cap : Nat) : Prop :=
  ∃ l w opened statement l', ((start twoRows).engaged []).openLayer d .unset capped = (.ok l, w) ∧
    (w.engaged errands).scan? 0 = some opened ∧ opened.scan.statement? = some statement ∧
    statement.SampledFrom 2 cap ∧ (w.engaged errands).layers[0]? = some l' ∧
    ∀ features, l'.store.features = some features → .adopt 0 features ∈ errands

/-- Both are sampled, each at the cap of its own encoding. -/
theorem sample_of_two_rows_is_settled_on_opening : SampledOnErrands points 2 ∧ SampledOnErrands cells 1 := by
  have course : ∀ sampled ∈ [(points, 2), (cells, 1)],
      (((start twoRows).engaged []).openLayer sampled.1 .unset capped).1.toOption.map (fun l => (l.spec.map fun spec =>
        if spec.encoding = .cellId then capped.cellRowCap else capped.geometryRowCap, l.sampling.map (·.rowCount))) =
          some (some sampled.2, some 2) := by decide +kernel
  have scans : ∀ sampled ∈ [(points, 2), (cells, 1)],
      (((((start twoRows).engaged []).openLayer sampled.1 .unset capped).2.engaged errands).scan? 0).map (fun o =>
        (o.layer, o.scan.statement?.isSome)) = some (some 0, true) := by decide +kernel
  have enough : ∀ sampled ∈ [(points, 2), (cells, 1)], sampled.2 ≤ 2 := by decide
  have each : ∀ sampled ∈ [(points, 2), (cells, 1)], SampledOnErrands sampled.1 sampled.2 := by
    intro sampled among
    replace course := course sampled among
    replace scans := scans sampled among
    rcases outcome : ((start twoRows).engaged []).openLayer sampled.1 .unset capped with ⟨e | l, w⟩
    · rw [outcome] at course
      cases course
    rw [outcome] at course scans
    simp only [Except.toOption, Option.map_some, Option.some.injEq, Prod.mk.injEq, Option.map_eq_some_iff] at course scans
    obtain ⟨⟨spec, found, cap⟩, size, counted, two⟩ := course
    obtain ⟨opened, present, layer, asked⟩ := scans
    obtain ⟨statement, asked⟩ := Option.isSome_iff_exists.mp asked
    obtain ⟨rows, l', -, here, settled, -, -, -, streams, limited⟩ :=
      sample_is_settled_on_opening twoRows [] errands sampled.1 .unset capped l w spec outcome found
    -- Which answer was counted does not show in the statement, but how many rows it named does in the sampling.
    rw [cap] at settled streams limited
    have named : Layer.firstCount rows = 2 := by
      rw [← two, Option.some.inj (counted.symm.trans settled)]
    rw [named] at streams limited
    refine ⟨l, w, opened, statement, l', outcome, present, asked, ?_, here, (limited (enough sampled among)).1⟩
    exact (streams 0 opened statement present layer asked).1
  exact ⟨each (points, 2) (.head _), each (cells, 1) (.tail _ (.head _))⟩

end Workspace

end FeatureLayers
