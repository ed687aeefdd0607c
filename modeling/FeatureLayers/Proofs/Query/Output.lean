import FeatureLayers.Proofs.Distinct
import FeatureLayers.Proofs.Query.Composed

namespace FeatureLayers.Query

def firstUnknown? (fields : List Field) (request : Request) : Option String :=
  request.attributes.bind fun names => names.find? fun name => !fields.any (·.name = name)

def askedFields (fields : List Field) (names : List String) : List Nat :=
  (names.filterMap fun name => fields.findIdx? (·.name = name)).eraseDups

def outputOf (fields : List Field) (primaryKey : Option Nat) (request : Request) : List Nat :=
  match request.attributes with
  | none => List.range fields.length
  | some names => askedFields fields names ++ (primaryKey.filter (· ∉ askedFields fields names)).toList

theorem foldl_appendNew (indexes : List Nat) : indexes.foldl appendNew [] = indexes.eraseDups := by
  induction indexes using List.reverseRecOn with
  | nil => rfl
  | append_singleton indexes index ih =>
    rw [List.foldl_append, List.foldl_cons, List.foldl_nil, ih, eraseDups_snoc, appendNew]
    simp only [List.mem_eraseDups]

variable {fields : List Field}

theorem requestedFields_eq (done : List Nat) (names : List String) : requestedFields fields done names =
    match names.find? fun name => !fields.any (·.name = name) with
    | some name => .error (.unknownField name)
    | none => .ok ((names.filterMap fun name => fields.findIdx? (·.name = name)).foldl appendNew done) := by
  induction names generalizing done with
  | nil => rfl
  | cons name names ih =>
    rw [requestedFields, List.find?_cons]
    have known : fields.any (·.name = name) = (fields.findIdx? (·.name = name)).isSome := List.findIdx?_isSome.symm
    cases found : fields.findIdx? (·.name = name) with
    | some index => simp [known, found, ih]
    | none => simp [known, found]

theorem outputFields_eq (primaryKey : Option Nat) (request : Request) : outputFields fields primaryKey request =
    match firstUnknown? fields request with
    | some name => .error (.unknownField name)
    | none => .ok (outputOf fields primaryKey request) := by
  unfold outputFields firstUnknown? outputOf
  cases request.attributes with
  | none => rfl
  | some names =>
    dsimp only [Option.bind_some]
    rw [requestedFields_eq]
    cases names.find? fun name => !fields.any (·.name = name) with
    | some name => rfl
    | none =>
      rw [foldl_appendNew]
      change Except.ok _ = Except.ok _
      rw [show (names.filterMap _).eraseDups = askedFields fields names from rfl]
      cases primaryKey with
      | none => exact congrArg Except.ok (List.append_nil _).symm
      | some key =>
        dsimp only
        rw [appendNew]
        split
        · rename_i present
          simp [Option.filter, present]
        · rename_i absent
          simp [Option.filter, absent]

theorem outputOf_nodup (primaryKey : Option Nat) (request : Request) :
    (outputOf fields primaryKey request).Nodup := by
  unfold outputOf
  cases request.attributes with
  | none => exact List.nodup_range
  | some names =>
    have asked : (askedFields fields names).Nodup := eraseDups_nodup _
    refine List.nodup_append.mpr ⟨asked, ?_, fun i member j keyed => ?_⟩
    · cases primaryKey.filter (· ∉ askedFields fields names) with
      | none => exact List.nodup_nil
      | some key => exact List.nodup_singleton key
    · have absent : j ∉ askedFields fields names := by
        simpa using (Option.filter_eq_some_iff.mp (Option.mem_toList.mp keyed)).2
      exact ne_of_mem_of_not_mem member absent

end FeatureLayers.Query
