import FeatureLayers.Proofs.Warehouse.Pool

namespace FeatureLayers.Warehouse.Pool

structure Moment where
  before : List Call
  call : Call
  later : List Call

def Moment.followed (next : Call) (m : Moment) : Moment := { m with later := m.later ++ [next] }

def Moment.answer? (m : Moment) : Option (Except Error (List Row)) := ((after m.before).call m.call).1

def momentsFrom (before : List Call) : List Call → List Moment
  | [] => []
  | next :: later => ⟨before, next, later⟩ :: momentsFrom (before ++ [next]) later

def moments (calls : List Call) : List Moment := momentsFrom [] calls

theorem momentsFrom_snoc (before calls : List Call) (next : Call) : momentsFrom before (calls ++ [next]) =
    (momentsFrom before calls).map (·.followed next) ++ [⟨before ++ calls, next, []⟩] := by
  induction calls generalizing before with
  | nil => simp [momentsFrom]
  | cons first calls ih => simp [momentsFrom, ih, Moment.followed]

theorem moments_snoc (calls : List Call) (next : Call) :
    moments (calls ++ [next]) = (moments calls).map (·.followed next) ++ [⟨calls, next, []⟩] :=
  momentsFrom_snoc [] calls next

structure Life where
  rows : List Row
  since : List Call

def Life.followed (next : Call) (life : Life) : Life := { life with since := life.since ++ [next] }

def Moment.life? (m : Moment) : Option Life :=
  match m.call with
  | .create _ rows => some ⟨rows, m.later⟩
  | _ => none

def lives (calls : List Call) : List Life := (moments calls).filterMap Moment.life?

def isOpen (k : Nat) (calls : List Call) : Bool :=
  (lives calls)[k]?.any fun life => .close k ∉ life.since ∧ .drop k ∉ life.since

def openCount (calls : List Call) : Nat := (List.range (lives calls).length).countP (isOpen · calls)

def Moment.isCounted (m : Moment) : Bool :=
  match m.call with
  | .fetch k way => way.isMany && isOpen k m.before
  | _ => false

def fetchCount (calls : List Call) : Nat := (moments calls).countP fun m => m.isCounted ∧ .resetFetches ∉ m.later

def returned (k : Nat) (calls : List Call) : List Row :=
  (moments calls).flatMap fun m => (after m.before).yields k m.call

/-- The cursor, while open, was asked for all of its rows, or returned fewer than it was asked for. -/
def IsDrained (k : Nat) (calls : List Call) : Prop :=
  ∃ m ∈ moments calls, isOpen k m.before ∧ (m.call = .fetch k .all ∨
    ∃ n rows, m.call = .fetch k (.many n) ∧ m.answer? = some (.ok rows) ∧ rows.length < n)

section Histories

variable {calls : List Call} {next : Call} {k : Nat}

theorem lives_snoc (calls : List Call) (next : Call) : lives (calls ++ [next]) = (lives calls).map (·.followed next) ++
    match next with | .create _ rows => [⟨rows, []⟩] | _ => [] := by
  have kept : Moment.life? ∘ Moment.followed next = fun m => m.life?.map (·.followed next) := by
    funext m
    unfold Function.comp Moment.life? Moment.followed
    cases m.call <;> rfl
  rw [lives, moments_snoc, List.filterMap_append, List.filterMap_map, kept, lives, List.map_filterMap]
  cases next <;> rfl

theorem returned_snoc (k : Nat) (calls : List Call) (next : Call) :
    returned k (calls ++ [next]) = returned k calls ++ (after calls).yields k next := by
  simp [returned, moments_snoc, List.flatMap_map, Moment.followed]

/-- A cursor that exists, or was dropped, is as its history says: what it returned and what it has left are its rows. -/
structure Standing (k : Nat) (life : Life) (given : List Row) (slot : Option Cursor) : Prop where
  inOrder : given <+: life.rows
  dropped : slot = none ↔ .drop k ∈ life.since
  closed : ∀ c, slot = some c → (c.isClosed = true ↔ .close k ∈ life.since)
  rest : ∀ c, slot = some c → c.isClosed = false → given ++ c.rows = life.rows

variable {life : Life} {given : List Row} {slot : Option Cursor} {p : Pool}

theorem Standing.created (k : Nat) (columns : List Column) (rows : List Row) :
    Standing k ⟨rows, []⟩ [] (some ⟨columns, rows, false, true⟩) where
  inOrder := List.nil_prefix
  dropped := by simp
  closed := by
    rintro _ ⟨⟩
    simp
  rest := by
    rintro _ ⟨⟩ -
    rfl

theorem Standing.elsewhere (standing : Standing k life given slot) (notClose : next ≠ .close k)
    (notDrop : next ≠ .drop k) : Standing k (life.followed next) given slot where
  inOrder := standing.inOrder
  dropped := by simpa [Life.followed, notDrop.symm] using standing.dropped
  closed := by simpa [Life.followed, notClose.symm] using standing.closed
  rest := standing.rest

theorem Standing.fetched (standing : Standing k life given slot) (sound : p.Sound) (here : p.cursors[k]? = some slot)
    (way : Fetch) : Standing k (life.followed (.fetch k way)) (given ++ p.yields k (.fetch k way))
      (slot.map fun c => (c.fetch p.tracker way).2.1) := by
  rw [yields, if_pos rfl, answer_fetch here]
  refine Standing.elsewhere ?_ (by simp) (by simp)
  cases slot with
  | none => simpa [rowsIn] using standing
  | some c =>
    have isTracked := sound.tracked c (List.mem_of_getElem? here)
    simp only [Option.map_some]
    cases closed : c.isClosed with
    | true => simpa [Cursor.fetch_closed closed, rowsIn] using standing
    | false =>
      have whole : given ++ c.rows.take (way.reach c.rows) ++ c.rows.drop (way.reach c.rows) = life.rows := by
        rw [List.append_assoc, List.take_append_drop, standing.rest c rfl closed]
      simp only [Cursor.fetch_open closed isTracked, rowsIn]
      exact {
        inOrder := ⟨_, whole⟩
        dropped := by simpa using standing.dropped
        closed := by simpa [closed] using standing.closed c rfl
        rest := by
          rintro _ ⟨⟩ -
          exact whole }

theorem Standing.finished (standing : Standing k life given slot) (t : Tracker) :
    Standing k (life.followed (.close k)) given (slot.map fun c => (c.close t).1) where
  inOrder := standing.inOrder
  dropped := by simpa [Life.followed] using standing.dropped
  closed c' ended := by
    obtain ⟨c, -, rfl⟩ := Option.map_eq_some_iff.mp ended
    simp [Cursor.close_isClosed, Life.followed]
  rest c' ended isOpen := by
    obtain ⟨c, -, rfl⟩ := Option.map_eq_some_iff.mp ended
    rw [Cursor.close_isClosed] at isOpen
    cases isOpen

theorem Standing.abandoned (standing : Standing k life given slot) :
    Standing k (life.followed (.drop k)) given none where
  inOrder := standing.inOrder
  dropped := by simp [Life.followed]
  closed := nofun
  rest := nofun

theorem Standing.called (standing : Standing k life given slot) (sound : p.Sound) (here : p.cursors[k]? = some slot)
    (next : Call) : Standing k (life.followed next) (given ++ p.yields k next) (next.leaves k p.tracker slot) := by
  cases next with
  | create columns rows | resetFetches =>
    rw [yields, Call.leaves, List.append_nil]
    exact standing.elsewhere (by simp) (by simp)
  | fetch j way =>
    by_cases same : j = k
    · subst same
      rw [Call.leaves, if_pos rfl]
      exact standing.fetched sound here way
    · rw [yields, Call.leaves, if_neg same, if_neg same, List.append_nil]
      exact standing.elsewhere (by simp) (by simp)
  | close j =>
    rw [yields, Call.leaves, List.append_nil]
    split
    · rename_i same
      exact same ▸ standing.finished p.tracker
    · rename_i other
      exact standing.elsewhere (by simpa using other) (by simp)
  | drop j =>
    rw [yields, Call.leaves, List.append_nil]
    split
    · rename_i same
      exact same ▸ standing.abandoned
    · rename_i other
      exact standing.elsewhere (by simp) (by simpa using other)

structure Reflects (calls : List Call) : Prop where
  size : (after calls).cursors.length = (lives calls).length
  unborn : ∀ k, (lives calls).length ≤ k → returned k calls = []
  standing : ∀ k life, (lives calls)[k]? = some life →
    ∃ slot, (after calls).cursors[k]? = some slot ∧ Standing k life (returned k calls) slot

theorem yields_absent (absent : p.cursors[k]? = none) (next : Call) : p.yields k next = [] := by
  cases next with
  | fetch j way =>
    rw [yields]
    split
    · rename_i same
      subst same
      simp [call, cursor?, absent, rowsIn]
    · rfl
  | _ => rfl

theorem Reflects.called (reflects : Reflects calls) (next : Call) : Reflects (calls ++ [next]) where
  size := by
    rw [after_snoc, call_size, lives_snoc, List.length_append, List.length_map, reflects.size]
    cases next <;> rfl
  unborn k beyond := by
    rw [lives_snoc, List.length_append, List.length_map] at beyond
    have before : (lives calls).length ≤ k := by omega
    rw [returned_snoc, reflects.unborn k before, List.nil_append]
    exact yields_absent (List.getElem?_eq_none (reflects.size ▸ before)) next
  standing k life born := by
    rw [after_snoc, returned_snoc]
    rw [lives_snoc] at born
    by_cases inside : k < (lives calls).length
    · rw [List.getElem?_append_left (by simpa using inside), List.getElem?_map] at born
      obtain ⟨earlier, found, rfl⟩ := Option.map_eq_some_iff.mp born
      obtain ⟨slot, here, standing⟩ := reflects.standing k earlier found
      exact ⟨_, call_slot here next, standing.called (after_sound calls) here next⟩
    · have beyond : (lives calls).length ≤ k := Nat.le_of_not_lt inside
      rw [reflects.unborn k beyond, List.nil_append, yields_absent (List.getElem?_eq_none (reflects.size ▸ beyond))]
      rw [List.getElem?_append_right (by simpa using beyond), List.length_map] at born
      -- Only a creation adds a cursor, which comes behind all others.
      cases next with
      | create columns rows =>
        obtain ⟨last, rfl⟩ := List.getElem?_eq_some_iff.mp born
        have last : k = (lives calls).length :=
          Nat.le_antisymm (Nat.sub_eq_zero_iff_le.mp (Nat.lt_one_iff.mp last)) beyond
        refine ⟨some ⟨columns, rows, false, true⟩, ?_, ?_⟩
        · rw [last, ← reflects.size]
          exact List.getElem?_concat_length
        · rw [List.getElem_singleton]
          exact .created k columns rows
      | fetch | close | drop | resetFetches => cases born

theorem reflects (calls : List Call) : Reflects calls := by
  induction calls using List.reverseRecOn with
  | nil => exact ⟨rfl, fun _ _ => rfl, nofun⟩
  | append_singleton calls next ih => exact ih.called next

theorem isOpen_eq (k : Nat) (calls : List Call) :
    isOpen k calls = ((after calls).cursor? k).any (!·.isClosed) := by
  cases born : (lives calls)[k]? with
  | none =>
    have absent : (after calls).cursors[k]? = none :=
      List.getElem?_eq_none ((reflects calls).size ▸ List.getElem?_eq_none_iff.mp born)
    simp [isOpen, born, cursor?, absent]
  | some life =>
    obtain ⟨slot, here, standing⟩ := (reflects calls).standing k life born
    rw [isOpen, born, cursor?_of_slot here, Option.any_some, Bool.eq_iff_iff, decide_eq_true_iff]
    cases slot with
    | none => simp [standing.dropped.mp rfl]
    | some c =>
      have kept : .drop k ∉ life.since := fun member => Option.some_ne_none c (standing.dropped.mpr member)
      simp [← standing.closed c rfl, kept]

end Histories

section Counts

theorem countP_range_getElem? {α : Type} (p : α → Bool) (xs : List α) :
    (List.range xs.length).countP (fun k => xs[k]?.any p) = xs.countP p := by
  induction xs using List.reverseRecOn with
  | nil => rfl
  | append_singleton xs x ih =>
    have earlier : ∀ k ∈ List.range xs.length, (xs ++ [x])[k]?.any p = true ↔ xs[k]?.any p = true := by
      intro k inside
      rw [List.getElem?_append_left (List.mem_range.mp inside)]
    rw [List.length_append, List.length_singleton, List.range_succ, List.countP_append, List.countP_append,
      List.countP_congr earlier, ih]
    simp [List.countP_cons]

theorem openCount_eq (calls : List Call) :
    openCount calls = (after calls).cursors.countP fun slot => slot.any (!·.isClosed) := by
  rw [← countP_range_getElem?, (reflects calls).size, openCount]
  refine List.countP_congr fun k _ => ?_
  rw [isOpen_eq, cursor?]
  cases (after calls).cursors[k]? <;> rfl

theorem isCounted_eq (before : List Call) (next : Call) (later : List Call) :
    (Moment.mk before next later).isCounted = (after before).counts next := by
  cases next <;> simp [Moment.isCounted, counts, isOpen_eq]

theorem fetchCount_snoc (calls : List Call) (next : Call) : fetchCount (calls ++ [next]) =
    if next = .resetFetches then 0 else fetchCount calls + if (after calls).counts next then 1 else 0 := by
  have kept (m : Moment) : (m.followed next).isCounted = m.isCounted := rfl
  have longer (m : Moment) : (m.followed next).later = m.later ++ [next] := rfl
  rw [fetchCount, moments_snoc, List.countP_append, List.countP_map, List.countP_singleton, isCounted_eq]
  simp only [Function.comp_def, kept, longer, List.mem_append, List.mem_singleton]
  by_cases reset : next = .resetFetches
  · subst reset
    simp [counts]
  · simp [Ne.symm reset, reset, fetchCount]

theorem fetches_eq (calls : List Call) : (after calls).tracker.fetches = fetchCount calls := by
  induction calls using List.reverseRecOn with
  | nil => rfl
  | append_singleton calls next ih => rw [after_snoc, (after_sound calls).fetches, fetchCount_snoc, ih]

theorem openCursors_eq (calls : List Call) : (after calls).tracker.openCursors = openCount calls := by
  rw [Tracker.openCursors, (after_sound calls).counted, Nat.add_sub_cancel_left, openCount_eq]

end Counts

section Delivery

variable {calls : List Call} {k : Nat} {life : Life}

theorem split_of_momentsFrom {before : List Call} {m : Moment} (member : m ∈ momentsFrom before calls) :
    m.before ++ m.call :: m.later = before ++ calls := by
  induction calls generalizing before with
  | nil => cases member
  | cons next calls ih =>
    rcases List.mem_cons.mp member with rfl | later
    · rfl
    · rw [ih later, List.append_assoc, List.singleton_append]

theorem split_of_moment {m : Moment} (member : m ∈ moments calls) : m.before ++ m.call :: m.later = calls :=
  split_of_momentsFrom member

theorem born_append (born : (lives calls)[k]? = some life) (more : List Call) :
    (lives (calls ++ more))[k]? = some ⟨life.rows, life.since ++ more⟩ := by
  induction more using List.reverseRecOn with
  | nil => simpa using born
  | append_singleton more next ih =>
    have inside := (List.getElem?_eq_some_iff.mp ih).1
    rw [← List.append_assoc, lives_snoc, List.getElem?_append_left (by simpa using inside), List.getElem?_map, ih]
    simp [Life.followed]

theorem returned_prefix (k : Nat) (calls more : List Call) : returned k calls <+: returned k (calls ++ more) := by
  induction more using List.reverseRecOn with
  | nil => simp
  | append_singleton more next ih =>
    rw [← List.append_assoc, returned_snoc]
    exact ih.trans (List.prefix_append _ _)

theorem cursor_of_open (opened : isOpen k calls = true) : ∃ life c, (lives calls)[k]? = some life ∧
    (after calls).cursors[k]? = some (some c) ∧ c.isClosed = false ∧ c.isTracked = true ∧
    returned k calls ++ c.rows = life.rows := by
  have present := isOpen_eq k calls ▸ opened
  obtain ⟨life, born, -⟩ := Option.any_eq_true _ _ |>.mp opened
  obtain ⟨slot, here, standing⟩ := (reflects calls).standing k life born
  rw [cursor?_of_slot here] at present
  obtain ⟨c, rfl, unclosed⟩ := Option.any_eq_true _ _ |>.mp present
  have unclosed : c.isClosed = false := Bool.not_eq_true' _ |>.mp unclosed
  exact ⟨life, c, born, here, unclosed, (after_sound calls).tracked c (List.mem_of_getElem? here),
    standing.rest c rfl unclosed⟩

theorem answer_of_open (opened : isOpen k calls = true) (way : Fetch) :
    ∃ rows, ((after calls).call (.fetch k way)).1 = some (.ok rows) := by
  obtain ⟨-, c, -, here, unclosed, isTracked, -⟩ := cursor_of_open opened
  exact ⟨_, answer_open here unclosed isTracked way⟩

theorem returned_of_draining (opened : isOpen k calls = true) {next : Call} (drains : next = .fetch k .all ∨
    ∃ n rows, next = .fetch k (.many n) ∧ ((after calls).call next).1 = some (.ok rows) ∧ rows.length < n) :
    ∃ life, (lives calls)[k]? = some life ∧ returned k (calls ++ [next]) = life.rows := by
  obtain ⟨life, c, born, here, unclosed, isTracked, whole⟩ := cursor_of_open opened
  have answer := answer_open here unclosed isTracked
  refine ⟨life, born, ?_⟩
  rw [returned_snoc]
  rcases drains with rfl | ⟨n, rows, rfl, answered, short⟩
  · rw [yields, if_pos rfl, answer, rowsIn, Fetch.reach, List.take_length, whole]
  · rw [yields, if_pos rfl, answer, rowsIn, Fetch.reach]
    rw [answer, Fetch.reach] at answered
    cases answered
    rw [List.length_take] at short
    rw [List.take_of_length_le (by omega), whole]

theorem returned_of_drained (born : (lives calls)[k]? = some life) (drained : IsDrained k calls) :
    returned k calls = life.rows := by
  obtain ⟨m, member, opened, drains⟩ := drained
  obtain ⟨earlier, found, complete⟩ := returned_of_draining opened drains
  have split := split_of_moment member
  have same : earlier.rows = life.rows := by
    have later := born_append found (m.call :: m.later)
    rw [split, born, Option.some.injEq] at later
    exact (congrArg Life.rows later).symm
  obtain ⟨slot, -, standing⟩ := (reflects calls).standing k life born
  have grown := returned_prefix k (m.before ++ [m.call]) m.later
  rw [List.append_assoc, List.singleton_append, split, complete, same] at grown
  exact standing.inOrder.eq_of_length_le grown.length_le

theorem refused_of_closed (born : (lives calls)[k]? = some life) (closed : .close k ∈ life.since)
    (kept : .drop k ∉ life.since) (way : Fetch) :
    (after calls).call (.fetch k way) = (some (.error .cursorClosed), after calls) := by
  obtain ⟨slot, here, standing⟩ := (reflects calls).standing k life born
  cases slot with
  | none => exact absurd (standing.dropped.mp rfl) kept
  | some c =>
    obtain ⟨inside, held⟩ := List.getElem?_eq_some_iff.mp here
    have unmoved : (after calls).cursors.set k (some c) = (after calls).cursors := by rw [← held, List.set_getElem_self]
    simp only [call, cursor?_of_slot here, Cursor.fetch_closed ((standing.closed c rfl).mpr closed), unmoved]

/--
Whatever is done with cursors that share their counters, each returns a beginning of its rows, in order, and all of them
once it was drained. Fetches from an open cursor succeed; those from a closed one fail and leave everything as it was. The
cursors that were created and neither closed nor dropped are those counted as open, and the fetches of many rows from an
open cursor since the last reset are those counted as fetches.
-/
theorem cursors_deliver_and_are_counted (calls : List Call) :
    (∀ k life, (lives calls)[k]? = some life →
      returned k calls <+: life.rows ∧
      (IsDrained k calls → returned k calls = life.rows) ∧
      (isOpen k calls = true → ∀ way, ∃ rows, ((after calls).call (.fetch k way)).1 = some (.ok rows)) ∧
      (.close k ∈ life.since → .drop k ∉ life.since →
        ∀ way, (after calls).call (.fetch k way) = (some (.error .cursorClosed), after calls))) ∧
    (after calls).tracker.openCursors = openCount calls ∧ (after calls).tracker.fetches = fetchCount calls := by
  refine ⟨fun k life born => ⟨?_, returned_of_drained born, answer_of_open, refused_of_closed born⟩,
    openCursors_eq calls, fetches_eq calls⟩
  obtain ⟨slot, -, standing⟩ := (reflects calls).standing k life born
  exact standing.inOrder

/-- Two lists of ferries, read side by side: the first one in two parts and closed twice, the second one dropped. -/
def ferryCalls : List Call :=
  [.create [] [[.int 1], [.int 2], [.int 3]], .create [] [[.int 7], [.int 8]], .fetch 0 (.many 2), .fetch 1 .one,
    .resetFetches, .fetch 0 (.many 2), .close 0, .close 0, .fetch 0 (.many 2), .drop 1]

theorem ferries_are_delivered_and_counted :
    returned 0 ferryCalls = [[.int 1], [.int 2], [.int 3]] ∧ returned 1 ferryCalls <+: [[.int 7], [.int 8]] ∧
      (after ferryCalls).call (.fetch 0 .all) = (some (.error .cursorClosed), after ferryCalls) ∧
      (after ferryCalls).tracker.openCursors = 0 ∧ (after ferryCalls).tracker.fetches = 1 := by
  obtain ⟨delivered, opened, fetched⟩ := cursors_deliver_and_are_counted ferryCalls
  obtain ⟨-, whole, -, refused⟩ := delivered 0 _ rfl
  refine ⟨whole ?_, (delivered 1 _ rfl).1, refused (by decide) (by decide) .all, opened, fetched⟩
  exact ⟨⟨ferryCalls.take 5, .fetch 0 (.many 2), ferryCalls.drop 6⟩, List.mem_of_getElem? (i := 5) rfl, by decide,
    .inr ⟨2, [[.int 3]], rfl, rfl, by decide⟩⟩

end Delivery

end FeatureLayers.Warehouse.Pool
