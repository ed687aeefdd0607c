import FeatureLayers.Proofs.Layer.Whole
import FeatureLayers.Proofs.Scan.Rewinding

namespace FeatureLayers

open Warehouse (Session)

/-- A scan of a layer and the layer's store stay sound from `start` on. -/
structure Run.Fits (l : Layer) (excuse : Layer.Excuse) (start run : Run) : Prop where
  sound : l.Sound excuse run.session run.store
  tends : l.Tends excuse run.session run.store run.scan
  precedes : start.session.Precedes run.session
  generation : start.store.generation ≤ run.store.generation

namespace Run

variable {l : Layer} {excuse : Layer.Excuse} {start run run' : Run}

theorem Fits.onward (fits : Fits l excuse start run) (precedes : run.session.Precedes run'.session)
    (store : run'.store = run.store) (publication : run'.scan.publication = run.scan.publication)
    (work : run'.scan.work = run.scan.work) (endpoint : run'.scan.endpoint = run.scan.endpoint)
    (reading : ∀ statement decoder result' buffer' isDrained', run.scan.work = .statement statement decoder →
      run'.scan.phase = .streaming result' buffer' isDrained' →
      ∃ result buffer isDrained, run.scan.phase = .streaming result buffer isDrained ∧
        ∀ rows, run.scan.Reads rows decoder result buffer isDrained →
          run'.scan.Reads rows decoder result' buffer' isDrained') :
    Fits l excuse start run' where
  sound := by
    rw [store]
    exact fits.sound.later (.of_le (Nat.le_refl _)) precedes (.refl _)
  tends generation published := by
    rw [publication] at published
    obtain ⟨filter, statement, decoder, armed⟩ := fits.tends generation published
    refine ⟨filter, statement, decoder, armed.composes, work.trans armed.work, endpoint.trans armed.endpoint,
      store ▸ armed.past, store ▸ armed.admitted, fun result' buffer' isDrained' streams => ?_⟩
    obtain ⟨result, buffer, isDrained, phase, reads⟩ := reading _ _ _ _ _ armed.work streams
    obtain ⟨number, rows, answered, before⟩ := armed.reading result buffer isDrained phase
    exact ⟨number, rows, answered.later precedes, reads rows before⟩
  precedes := fits.precedes.trans precedes
  generation := store ▸ fits.generation

theorem Fits.unstreamed (fits : Fits l excuse start run) (precedes : run.session.Precedes run'.session)
    (store : run'.store = run.store) (publication : run'.scan.publication = run.scan.publication)
    (work : run'.scan.work = run.scan.work) (endpoint : run'.scan.endpoint = run.scan.endpoint)
    (phase : ∀ result buffer isDrained, run'.scan.phase ≠ .streaming result buffer isDrained) :
    Fits l excuse start run' :=
  fits.onward precedes store publication work endpoint fun _ _ _ _ _ _ streams => (phase _ _ _ streams).elim

theorem Fits.read {result result' : Warehouse.ResultSet} {buffer buffer' : List Row} {isDrained isDrained' : Bool}
    {statement : Query.Statement} {decoder : Decode.RowDecoder}
    (fits : Fits l excuse start run) (precedes : run.session.Precedes run'.session) (store : run'.store = run.store)
    (publication : run'.scan.publication = run.scan.publication) (work : run'.scan.work = run.scan.work)
    (endpoint : run'.scan.endpoint = run.scan.endpoint)
    (phase : run.scan.phase = .streaming result buffer isDrained)
    (reader : run.scan.work = .statement statement decoder)
    (phase' : run'.scan.phase = .streaming result' buffer' isDrained')
    (reads : ∀ rows, run.scan.Reads rows decoder result buffer isDrained →
      run'.scan.Reads rows decoder result' buffer' isDrained') :
    Fits l excuse start run' := by
  refine fits.onward precedes store publication work endpoint fun _ _ _ _ _ same streams => ?_
  cases reader.symm.trans same
  cases phase'.symm.trans streams
  exact ⟨result, buffer, isDrained, phase, reads⟩

theorem Fits.silent (fits : Fits l excuse start run) (move : Silent run run') : Fits l excuse start run' := by
  cases move with
  | skip phase work undecoded =>
    exact fits.read (.note _ _ _ _) rfl rfl rfl rfl phase work rfl fun rows reads => { reads.skip undecoded with }
  | refill phase work clear fetched =>
    have onward := (pollCancel_precedes clear).trans (.fetchMany fetched)
    obtain ⟨cancel, flag, rfl⟩ := pollCancel_flags clear
    exact fits.read (onward.trans (.note _ _ _ _)) rfl rfl rfl rfl phase work rfl
      fun rows reads => { reads.refill rfl fetched with }
  | refuse phase work refused => exact fits.unstreamed (.refl _) rfl rfl rfl rfl nofun

theorem Fits.drained {result : Warehouse.ResultSet} {statement : Query.Statement} {decoder : Decode.RowDecoder}
    (fits : Fits l excuse start run) (phase : run.scan.phase = .streaming result [] true)
    (work : run.scan.work = .statement statement decoder) : l.Sound excuse run.finish.session run.finish.store := by
  have kept : l.Sound excuse run.finish.session run.store :=
    fits.sound.later (.of_le (Nat.le_refl _)) run.finish_precedes (.refl _)
  rw [finish_store]
  cases publication : run.scan.publication with
  | none => exact kept
  | some generation =>
    unfold Store.offered Store.publish
    dsimp only
    split
    · rename_i current
      obtain ⟨filter, statement', decoder', armed⟩ := fits.tends generation publication
      obtain ⟨rfl, rfl⟩ : statement' = statement ∧ decoder' = decoder := by simpa [work] using armed.work.symm
      obtain ⟨number, rows, answered, reads⟩ := armed.reading result [] true phase
      intro features loaded
      cases loaded
      have whole : l.Whole run.finish.session filter run.scan.cache.toList :=
        ⟨statement', decoder', number, rows, armed.composes, answered.later run.finish_precedes, reads.finished.2⟩
      exact ⟨filter, whole, current ▸ armed.admitted current⟩
    · exact kept

theorem Fits.finish (fits : Fits l excuse start run)
    (sound : l.Sound excuse run.finish.session run.finish.store) : Fits l excuse start run.finish where
  sound := sound
  tends generation published := by
    have same : run.finish.store.generation = run.store.generation := by rw [finish_store, Store.offered_generation]
    rw [finish_scan] at published
    obtain ⟨filter, statement, decoder, armed⟩ := fits.tends generation published
    refine ⟨filter, statement, decoder, armed.composes, ?_, ?_, same ▸ armed.past, same ▸ armed.admitted, ?_⟩
    · rw [finish_scan]
      exact armed.work
    · rw [finish_scan]
      exact armed.endpoint
    · rw [finish_scan]
      nofun
  precedes := fits.precedes.trans run.finish_precedes
  generation := by
    rw [finish_store, Store.offered_generation]
    exact fits.generation

theorem Fits.close (fits : Fits l excuse start run) : Fits l excuse start run.close := by
  refine fits.unstreamed run.close_precedes run.close_store ?_ ?_ ?_ ?_
  all_goals rw [close_scan]
  nofun

theorem Fits.concludes {outcome : Except Layer.Error (Option Feature)} (fits : Fits l excuse start run)
    (move : Concludes run outcome run') : Fits l excuse start run' := by
  cases move with
  | yields phase work decoded =>
    exact fits.read (.refl _) rfl rfl rfl rfl phase work rfl fun rows reads => { reads.yield decoded with }
  | shows phase work admitted => exact fits.unstreamed (.refl _) rfl rfl rfl rfl nofun
  | drains phase work => exact fits.finish (fits.drained phase work)
  | ends phase work =>
    have unpublished : run.scan.publication = none := by
      cases publication : run.scan.publication with
      | none => rfl
      | some generation =>
        obtain ⟨_, _, _, armed⟩ := fits.tends generation publication
        cases work.symm.trans armed.work
    refine fits.finish ?_
    rw [finish_store, unpublished]
    exact fits.sound.later (.of_le (Nat.le_refl _)) run.finish_precedes (.refl _)
  | cancels phase work raised =>
    have onward := (pollCancel_precedes raised).trans
      ((Session.Precedes.note _ _ _ _).trans (close_precedes (note .info "Scan cancelled" _)))
    obtain ⟨cancel, flag, rfl⟩ := pollCancel_flags raised
    refine fits.unstreamed onward ?_ ?_ ?_ ?_ ?_
    · exact close_store _
    all_goals rw [close_scan]
    · rfl
    · rfl
    · rfl
    · nofun
  | fails phase work clear failed =>
    have onward := (pollCancel_precedes clear).trans (.fetchMany failed)
    obtain ⟨cancel, flag, rfl⟩ := pollCancel_flags clear
    exact fits.read onward rfl rfl rfl rfl phase work rfl fun rows reads => { reads.fail failed with }
  | rests idle => exact fits

theorem Fits.lasting (l : Layer) (excuse : Layer.Excuse) (start : Run) : Lasting (Fits l excuse start) where
  silent move fits := fits.silent move
  concludes move fits := fits.concludes move

/-- The pass to come may publish in the new generation when its statement is that of the filter that is set. -/
theorem Fits.restarted (fits : Fits l excuse start run)
    (renews : ∀ generation filter statement decoder, run.scan.publication = some generation →
      l.Armed excuse run.session run.store run.scan generation filter statement decoder →
      l.Admits excuse (run.store.generation + 1) filter) :
    Fits l excuse start run.restarted := by
  refine ⟨?_, ?_, fits.precedes.trans run.restarted_precedes, ?_⟩
  · rw [restarted_store]
    split
    · exact .invalidated l excuse _ _
    · exact fits.sound.later (.of_le (Nat.le_refl _)) run.restarted_precedes (.refl _)
  · intro generation published
    rw [restarted_scan] at published
    obtain ⟨before, publication, rfl⟩ := Option.map_eq_some_iff.mp published
    obtain ⟨filter, statement, decoder, armed⟩ := fits.tends before publication
    have renewed : run.restarted.store = run.store.invalidate := by rw [restarted_store, publication]; rfl
    refine ⟨filter, statement, decoder, armed.composes, ?_, ?_, ?_, fun _ => renews _ _ _ _ publication armed, ?_⟩
    · rw [restarted_scan]
      exact armed.work
    · rw [restarted_scan]
      exact armed.endpoint
    · rw [renewed]
      exact Nat.le_refl _
    · rw [restarted_scan]
      nofun
  · rw [restarted_store]
    refine Nat.le_trans fits.generation ?_
    split
    · exact Nat.le_succ _
    · exact Nat.le_refl _

theorem Fits.rewind (fits : Fits l excuse start run)
    (renews : ∀ generation filter statement decoder, run.scan.publication = some generation →
      run.scan.phase ≠ .closed →
      l.Armed excuse run.session run.store run.scan generation filter statement decoder →
      l.Admits excuse (run.store.generation + 1) filter) :
    Fits l excuse start run.rewind.2 := by
  by_cases isOpen : run.scan.phase = .closed
  · rwa [rewind_closed isOpen]
  have anew := fits.restarted fun _ _ _ _ published => renews _ _ _ _ published isOpen
  cases work : run.scan.work with
  | replay features selection =>
    rw [rewind_replay isOpen work]
    exact anew.unstreamed (.note _ _ _ _) rfl rfl rfl rfl nofun
  | statement statement decoder =>
    rcases rewind_statement isOpen work with ⟨e, session, failed, onward⟩ |
      ⟨columns, rows, disturbance, session, number, rewound, onward, answered⟩
    · rw [failed]
      refine anew.unstreamed onward rfl rfl rfl rfl ?_
      rw [restarted_scan]
      nofun
    · rw [rewound]
      have recorded := onward.trans (.note .debug .scan "Rewound" session)
      refine ⟨anew.sound.later (.of_le (Nat.le_refl _)) recorded (.refl _), ?_, anew.precedes.trans recorded,
        anew.generation⟩
      intro generation published
      have restart := run.restarted_scan
      obtain ⟨filter, statement', decoder', armed⟩ := anew.tends generation published
      have same : run.restarted.scan.work = .statement statement decoder := by rw [restart, ← work]
      obtain ⟨rfl, rfl⟩ : statement' = statement ∧ decoder' = decoder := by simpa [same] using armed.work.symm
      have endpoint : run.scan.endpoint = l.base.endpoint := by
        rw [← armed.endpoint, restart]
      refine ⟨filter, statement', decoder', armed.composes, armed.work, armed.endpoint, armed.past, armed.admitted, ?_⟩
      intro result buffer isDrained streams
      cases streams
      rw [endpoint] at answered
      exact ⟨number, rows, answered.later (.note _ _ _ _), .start rows decoder' columns disturbance
        (congrArg Scan.position restart) (congrArg Scan.cache restart) (congrArg Scan.stats restart)⟩

end Run

end FeatureLayers
