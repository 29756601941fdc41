import Coactor.Coordination.Records
import Mathlib.Data.List.Basic
import Mathlib.Data.List.Infix

/-!
# Object keys of the S3 store

A Node Lease lives under the key of its node id and an owner record under the
key of its address; neither body repeats the identity.  `fetch_nodes` reads
node ids back from the keys it lists.
-/

namespace Coactor.Coordination

/-! ## Keys -/

/-- An object key by its characters. -/
abbrev ObjectKey := List Char

/-- `S3CoordinationStore::key`. -/
def storeKey (keyPrefix suffix : ObjectKey) : ObjectKey :=
  if keyPrefix.isEmpty then suffix else keyPrefix ++ '/' :: suffix

def nodeKey (keyPrefix : ObjectKey) (nodeId : String) : ObjectKey :=
  storeKey keyPrefix ("nodes/".toList ++ (nodeId.toList ++ "/lease.json".toList))

def actorKey (keyPrefix : ObjectKey) (address : ActorAddress) : ObjectKey :=
  storeKey keyPrefix ("actors/".toList ++
    (address.actorType.toList ++ '/' :: (address.actorId.toList ++ "/ownership.json".toList)))

def nodesPrefix (keyPrefix : ObjectKey) : ObjectKey :=
  storeKey keyPrefix "nodes/".toList

/-- `str::strip_prefix`. -/
def stripPrefix (start key : ObjectKey) : Option ObjectKey :=
  if start <+: key then some (key.drop start.length) else none

/-- `str::strip_suffix`. -/
def stripSuffix (ending key : ObjectKey) : Option ObjectKey :=
  if ending <:+ key then some (key.take (key.length - ending.length)) else none

/-- The node id `fetch_nodes` reads from a listed key. -/
def listedNodeId (keyPrefix key : ObjectKey) : Option String :=
  match stripPrefix (nodesPrefix keyPrefix) key with
  | none => none
  | some rest =>
      match stripSuffix "/lease.json".toList rest with
      | none => none
      | some nodeId =>
          if nodeId.isEmpty || nodeId.contains '/' then none else some (String.ofList nodeId)

/-- A node id that `fetch_nodes` recognises in a key. -/
def ListableId (nodeId : String) : Prop :=
  nodeId ≠ "" ∧ '/' ∉ nodeId.toList

instance (nodeId : String) : Decidable (ListableId nodeId) :=
  inferInstanceAs (Decidable (_ ∧ _))

/-! ## Stripping -/

theorem stripPrefix_eq_some {start key rest : ObjectKey} :
    stripPrefix start key = some rest ↔ key = start ++ rest := by
  unfold stripPrefix
  constructor
  · intro stripped
    split at stripped
    · rename_i starts
      obtain ⟨tail, rfl⟩ := starts
      simpa using stripped
    · cases stripped
  · rintro rfl
    simp

theorem stripSuffix_eq_some {ending key rest : ObjectKey} :
    stripSuffix ending key = some rest ↔ key = rest ++ ending := by
  unfold stripSuffix
  constructor
  · intro stripped
    split at stripped
    · rename_i ends
      obtain ⟨front, rfl⟩ := ends
      simpa using stripped
    · cases stripped
  · rintro rfl
    simp

/-! ## Keys determine what they name -/

variable {keyPrefix : ObjectKey}

theorem storeKey_append (keyPrefix first second : ObjectKey) :
    storeKey keyPrefix (first ++ second) = storeKey keyPrefix first ++ second := by
  unfold storeKey
  split <;> simp

theorem storeKey_injective : Function.Injective (storeKey keyPrefix) := by
  intro first second same
  unfold storeKey at same
  split at same
  · exact same
  · exact (List.cons.inj (List.append_cancel_left same)).2

theorem nodeKey_eq (keyPrefix : ObjectKey) (nodeId : String) :
    nodeKey keyPrefix nodeId =
      nodesPrefix keyPrefix ++ (nodeId.toList ++ "/lease.json".toList) :=
  storeKey_append ..

/-- Listing inverts `node_key`. -/
theorem listedNodeId_eq_some {key : ObjectKey} {nodeId : String} :
    listedNodeId keyPrefix key = some nodeId ↔
      key = nodeKey keyPrefix nodeId ∧ ListableId nodeId := by
  have empty_iff : nodeId = "" ↔ nodeId.toList = [] := by
    constructor
    · rintro rfl
      rfl
    · exact fun empty => String.toList_injective empty
  rw [nodeKey_eq, ListableId, ne_eq, empty_iff]
  unfold listedNodeId
  constructor
  · intro listed
    split at listed
    · cases listed
    · rename_i rest starts
      split at listed
      · cases listed
      · rename_i characters ends
        split at listed
        · cases listed
        · rename_i plain
          rw [stripPrefix_eq_some] at starts
          rw [stripSuffix_eq_some] at ends
          obtain rfl : String.ofList characters = nodeId := Option.some.inj listed
          simp only [Bool.or_eq_true, List.isEmpty_iff, List.contains_iff_mem, not_or] at plain
          simpa [starts, ends] using plain
  · rintro ⟨rfl, nonempty, plain⟩
    have starts := (@stripPrefix_eq_some (nodesPrefix keyPrefix) _ _).mpr
      (rfl : _ = _ ++ (nodeId.toList ++ "/lease.json".toList))
    have ends := (@stripSuffix_eq_some "/lease.json".toList _ _).mpr
      (rfl : _ = nodeId.toList ++ _)
    simp only [starts, ends]
    rw [if_neg, String.ofList_toList]
    simpa [nonempty] using plain

theorem nodeKey_injective : Function.Injective (nodeKey keyPrefix) := by
  intro first second same
  rw [nodeKey_eq, nodeKey_eq] at same
  exact String.toList_injective (List.append_cancel_right (List.append_cancel_left same))

theorem slash_notMem_of_isDnsLabel {value : String} (valid : isDnsLabel value = true) :
    '/' ∉ value.toList := by
  intro found
  unfold isDnsLabel at valid
  simp only [Bool.and_eq_true, List.all_eq_true] at valid
  have allowed := valid.2 '/' found
  revert allowed
  decide

theorem actorKey_injective : Function.Injective (actorKey keyPrefix) := by
  intro first second same
  have texts := List.append_cancel_left (storeKey_injective same)
  have firstId := slash_notMem_of_isDnsLabel first.validId
  have ids : first.actorType.toList ++ '/' :: first.actorId.toList =
      second.actorType.toList ++ '/' :: second.actorId.toList :=
    @List.append_cancel_right _ _ "/ownership.json".toList _ (by simpa using texts)
  obtain ⟨types, -, actors⟩ :=
    (List.append_cons_inj_of_notMem (slash_notMem_of_isDnsLabel first.validType) firstId).mp ids
  obtain ⟨firstText, firstName, _, _⟩ := first
  obtain ⟨secondText, secondName, _, _⟩ := second
  obtain rfl := String.toList_injective types
  obtain rfl := String.toList_injective actors
  rfl

theorem nodeKey_ne_actorKey (nodeId : String) (address : ActorAddress) :
    nodeKey keyPrefix nodeId ≠ actorKey keyPrefix address := by
  intro same
  have texts := storeKey_injective same
  exact absurd (List.cons.inj texts).1 (by decide)

end Coactor.Coordination
