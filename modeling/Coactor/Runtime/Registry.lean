import Coactor.Foundation.Simulation
import Coactor.Runtime.Protocol
import Mathlib.Data.List.AList

/-!
# The session registry as a map of maps

`SessionRegistry` keeps a map from addresses to maps from Session IDs to sinks,
and drops the map of an address with its last Session.  The Server is modelled
with one flat list of registrations instead.  Here the two are compared: over
every sequence of calls they give the same answers, up to the order in which a
map lists what it holds, and the outer map never holds an empty inner one.
-/

namespace Coactor.Runtime

open Coactor.Foundation Coactor.Foundation.Transition

/-! ## The map of maps -/

/-- `by_actor`: for each address its live Sessions, with the connection of each
sink. -/
abbrev ByActor := AList fun _ : ActorAddress => AList fun _ : SessionId => Nat

namespace ByActor

def sink (byActor : ByActor) (address : ActorAddress) (session : SessionId) : Option Nat :=
  (byActor.lookup address).bind fun sessions => sessions.lookup session

/-- `register_actor`, with `entry(address).or_default()`. -/
def registerActor (byActor : ByActor) (address : ActorAddress) (session : SessionId)
    (connection : Nat) : Bool × ByActor :=
  let sessions := (byActor.lookup address).getD ∅
  match sessions.lookup session with
  | none => (true, byActor.insert address (sessions.insert session connection))
  | some _ => (false, byActor.insert address sessions)

def unregisterActor (byActor : ByActor) (address : ActorAddress) (session : SessionId) :
    Bool × ByActor :=
  match byActor.lookup address with
  | none => (false, byActor)
  | some sessions =>
      match sessions.lookup session with
      | none => (false, byActor)
      | some _ =>
          if (sessions.erase session).entries.isEmpty then (true, byActor.erase address)
          else (true, byActor.insert address (sessions.erase session))

def sessionCount (byActor : ByActor) (address : ActorAddress) : Nat :=
  match byActor.lookup address with
  | some sessions => sessions.entries.length
  | none => 0

def byActorSnapshot (byActor : ByActor) (address : ActorAddress) : List SessionId :=
  match byActor.lookup address with
  | some sessions => sessions.keys
  | none => []

def bySenderSnapshot (byActor : ByActor) (connection : Nat) : List (ActorAddress × SessionId) :=
  byActor.entries.flatMap fun held =>
    held.2.entries.filterMap fun bound =>
      if bound.2 = connection then some (held.1, bound.1) else none

def byActorAddresses (byActor : ByActor) : List ActorAddress := byActor.keys

def isBoundTo (byActor : ByActor) (address : ActorAddress) (session : SessionId)
    (connection : Nat) : Bool :=
  byActor.sink address session == some connection

end ByActor

/-! ## Calls -/

/-- A call of the registry; a registration carries what both models need of it. -/
inductive RegistryCall where
  | registerActor (entry : SessionEntry)
  | unregisterActor (address : ActorAddress) (session : SessionId)
  | sessionCount (address : ActorAddress)
  | byActorSnapshot (address : ActorAddress)
  | bySenderSnapshot (connection : Nat)
  | byActorAddresses
  | sink (address : ActorAddress) (session : SessionId)
  | isBoundTo (address : ActorAddress) (session : SessionId) (connection : Nat)

inductive RegistryAnswer where
  | flag (value : Bool)
  | count (value : Nat)
  | sessions (listed : List SessionId)
  | bound (listed : List (ActorAddress × SessionId))
  | addresses (listed : List ActorAddress)
  | sink (connection : Option Nat)

/-- The same answer, in any order. -/
inductive RegistryAnswer.Agree : RegistryAnswer → RegistryAnswer → Prop where
  | flag (value : Bool) : Agree (.flag value) (.flag value)
  | count (value : Nat) : Agree (.count value) (.count value)
  | sessions {listed listed' : List SessionId} (same : listed.Perm listed') :
      Agree (.sessions listed) (.sessions listed')
  | bound {listed listed' : List (ActorAddress × SessionId)} (same : listed.Perm listed') :
      Agree (.bound listed) (.bound listed')
  | addresses {listed listed' : List ActorAddress} (same : listed.Perm listed') :
      Agree (.addresses listed) (.addresses listed')
  | sink (connection : Option Nat) : Agree (.sink connection) (.sink connection)

/-- The map of maps answers a call. -/
def byActorObject : Object RegistryCall ByActor RegistryAnswer
  | byActor, .registerActor entry =>
      (byActor.registerActor entry.opening.address entry.opening.session entry.connection).map
        .flag id
  | byActor, .unregisterActor address session =>
      (byActor.unregisterActor address session).map .flag id
  | byActor, .sessionCount address => (.count (byActor.sessionCount address), byActor)
  | byActor, .byActorSnapshot address => (.sessions (byActor.byActorSnapshot address), byActor)
  | byActor, .bySenderSnapshot connection => (.bound (byActor.bySenderSnapshot connection), byActor)
  | byActor, .byActorAddresses => (.addresses byActor.byActorAddresses, byActor)
  | byActor, .sink address session => (.sink (byActor.sink address session), byActor)
  | byActor, .isBoundTo address session connection =>
      (.flag (byActor.isBoundTo address session connection), byActor)

/-- The flat registry answers a call. -/
def registryObject : Object RegistryCall SessionRegistry RegistryAnswer
  | registry, .registerActor entry =>
      match registry.registerActor entry with
      | some registry => (.flag true, registry)
      | none => (.flag false, registry)
  | registry, .unregisterActor address session =>
      (.flag (registry.contains address session), registry.unregisterActor address session)
  | registry, .sessionCount address => (.count (registry.sessionCount address), registry)
  | registry, .byActorSnapshot address => (.sessions (registry.sessionsOf address), registry)
  | registry, .bySenderSnapshot connection => (.bound (registry.bySender connection), registry)
  | registry, .byActorAddresses => (.addresses registry.addresses, registry)
  | registry, .sink address session =>
      (.sink ((registry.lookup address session).map SessionEntry.connection), registry)
  | registry, .isBoundTo address session connection =>
      (.flag (registry.isBoundTo address session connection), registry)

/-! ## The relation -/

/-- The map of maps holds what the registry lists, and no empty map. -/
structure Refines (byActor : ByActor) (registry : SessionRegistry) : Prop where
  sinks : ∀ address session connection, byActor.sink address session = some connection ↔
    ∃ entry ∈ registry, entry.key = (address, session) ∧ entry.connection = connection
  distinct : (registry.map SessionEntry.key).Nodup
  inhabited : ∀ address sessions, byActor.lookup address = some sessions → sessions.entries ≠ []

theorem refines_empty : Refines ∅ [] where
  sinks := by simp [ByActor.sink]
  distinct := List.nodup_nil
  inhabited := by simp

/-! ## Sinks after a call -/

namespace ByActor

variable {byActor : ByActor} {address address' : ActorAddress} {session session' : SessionId}
  {connection : Nat}

theorem sink_of_lookup {sessions : AList fun _ : SessionId => Nat}
    (found : byActor.lookup address = some sessions) :
    byActor.sink address session = sessions.lookup session := by
  simp [sink, found]

theorem sink_insert (sessions : AList fun _ : SessionId => Nat) :
    sink (byActor.insert address sessions) address' session' =
      if address' = address then sessions.lookup session' else byActor.sink address' session' := by
  by_cases same : address' = address
  · subst same
    simp [sink]
  · simp [sink, same, AList.lookup_insert_ne same]

theorem lookup_getD :
    ((byActor.lookup address).getD ∅).lookup session = byActor.sink address session := by
  unfold sink
  cases byActor.lookup address <;> simp

/-- A Session that is registered keeps its sink, and nothing changes. -/
theorem registerActor_taken {bound : Nat} (held : byActor.sink address session = some bound) :
    (byActor.registerActor address session connection).1 = false ∧
      ∀ address' session',
        (byActor.registerActor address session connection).2.sink address' session' =
          byActor.sink address' session' := by
  unfold registerActor
  simp only [lookup_getD, held]
  refine ⟨trivial, fun address' session' => ?_⟩
  rw [sink_insert]
  by_cases here : address' = address
  · rw [if_pos here, lookup_getD, here]
  · rw [if_neg here]

/-- A Session that is not registered gets the only new sink. -/
theorem registerActor_free (free : byActor.sink address session = none) :
    (byActor.registerActor address session connection).1 = true ∧
      ∀ address' session',
        (byActor.registerActor address session connection).2.sink address' session' =
          if address' = address ∧ session' = session then some connection
          else byActor.sink address' session' := by
  unfold registerActor
  simp only [lookup_getD, free]
  refine ⟨trivial, fun address' session' => ?_⟩
  rw [sink_insert]
  by_cases here : address' = address
  · subst here
    by_cases same : session' = session
    · subst same
      simp
    · simp [same, AList.lookup_insert_ne same, lookup_getD]
  · simp [here]

theorem lookup_erase_eq (sessions : AList fun _ : SessionId => Nat) :
    (sessions.erase session).lookup session' =
      if session' = session then none else sessions.lookup session' := by
  by_cases same : session' = session
  · subst same
    simp
  · simp [same, AList.lookup_erase_ne same]

/-- Exactly the sink of this Session goes, and the answer says whether it was there. -/
theorem unregisterActor_spec :
    (byActor.unregisterActor address session).1 = (byActor.sink address session).isSome ∧
      ∀ address' session',
        (byActor.unregisterActor address session).2.sink address' session' =
          if address' = address ∧ session' = session then none
          else byActor.sink address' session' := by
  have absent : byActor.sink address session = none → ∀ address' session',
      byActor.sink address' session' = if address' = address ∧ session' = session then none
        else byActor.sink address' session' := by
    intro free address' session'
    split
    · rename_i same
      rw [same.1, same.2, free]
    · rfl
  unfold unregisterActor
  split
  · rename_i missing
    have free : byActor.sink address session = none := by simp [sink, missing]
    exact ⟨by simp [free], absent free⟩
  · rename_i sessions found
    have held : byActor.sink address session = sessions.lookup session := sink_of_lookup found
    split
    · rename_i missing
      exact ⟨by simp [held, missing], absent (held.trans missing)⟩
    · rename_i bound present
      have was : (byActor.sink address session).isSome = true := by simp [held, present]
      split
      · rename_i empty
        refine ⟨was.symm, fun address' session' => ?_⟩
        by_cases here : address' = address
        · subst here
          have gone : (sessions.erase session).lookup session' =
              if session' = session then none else sessions.lookup session' :=
            lookup_erase_eq sessions
          rw [AList.lookup, List.isEmpty_iff.mp empty, List.dlookup_nil] at gone
          simp only [sink, AList.lookup_erase, found, true_and, Option.bind_none,
            Option.bind_some]
          exact gone
        · simp [here, sink, AList.lookup_erase_ne here]
      · refine ⟨was.symm, fun address' session' => ?_⟩
        rw [sink_insert]
        by_cases here : address' = address
        · subst here
          simp [lookup_erase_eq, sink_of_lookup found]
        · simp [here]

/-! ## What the snapshots list -/

theorem mem_byActorSnapshot :
    session ∈ byActor.byActorSnapshot address ↔
      ∃ connection, byActor.sink address session = some connection := by
  unfold byActorSnapshot sink
  cases byActor.lookup address with
  | none => simp
  | some sessions =>
      simp [← AList.mem_keys, ← AList.lookup_isSome, Option.isSome_iff_exists]

theorem byActorSnapshot_nodup : (byActor.byActorSnapshot address).Nodup := by
  unfold byActorSnapshot
  split
  · exact AList.keys_nodup _
  · exact List.nodup_nil

theorem mem_bySenderSnapshot :
    (address, session) ∈ byActor.bySenderSnapshot connection ↔
      byActor.sink address session = some connection := by
  simp only [bySenderSnapshot, List.mem_flatMap, List.mem_filterMap, Option.ite_none_right_eq_some,
    Option.some.injEq, Prod.mk.injEq, sink, Option.bind_eq_some_iff]
  constructor
  · rintro ⟨held, member, bound, present, connected, rfl, rfl⟩
    refine ⟨held.2, AList.mem_lookup_iff.mpr member, AList.mem_lookup_iff.mpr ?_⟩
    rw [← connected]
    exact present
  · rintro ⟨sessions, found, present⟩
    exact ⟨⟨address, sessions⟩, AList.mem_lookup_iff.mp found, ⟨session, connection⟩,
      AList.mem_lookup_iff.mp present, rfl, rfl, rfl⟩

theorem bySenderSnapshot_nodup : (byActor.bySenderSnapshot connection).Nodup := by
  refine List.nodup_flatMap.mpr ⟨fun held member => ?_, ?_⟩
  · refine List.Nodup.filterMap ?_ held.2.nodupKeys.nodup
    rintro ⟨first, connected⟩ ⟨second, connected'⟩ key here there
    simp only [Option.mem_def, Option.ite_none_right_eq_some, Option.some.injEq] at here there
    obtain ⟨rfl, rfl⟩ := here
    obtain ⟨rfl, same⟩ := there
    rw [(Prod.mk.inj same).2]
  · refine (List.nodupKeys_iff_pairwise.mp byActor.nodupKeys).imp ?_
    intro first second apart key here there
    simp only [List.mem_filterMap, Option.ite_none_right_eq_some, Option.some.injEq] at here there
    obtain ⟨_, _, _, rfl⟩ := here
    obtain ⟨_, _, _, same⟩ := there
    exact apart (Prod.mk.inj same).1.symm

theorem mem_byActorAddresses
    (inhabited : ∀ address sessions, byActor.lookup address = some sessions →
      sessions.entries ≠ []) :
    address ∈ byActor.byActorAddresses ↔
      ∃ session connection, byActor.sink address session = some connection := by
  rw [byActorAddresses, ← AList.mem_keys, ← AList.lookup_isSome, Option.isSome_iff_exists]
  constructor
  · rintro ⟨sessions, found⟩
    obtain ⟨bound, present⟩ := List.exists_mem_of_ne_nil _ (inhabited address sessions found)
    refine ⟨bound.1, bound.2, ?_⟩
    rw [sink_of_lookup found]
    exact AList.mem_lookup_iff.mpr present
  · rintro ⟨session, connection, bound⟩
    obtain ⟨sessions, found, -⟩ := Option.bind_eq_some_iff.mp bound
    exact ⟨sessions, found⟩

theorem sessionCount_eq : byActor.sessionCount address = (byActor.byActorSnapshot address).length := by
  unfold sessionCount byActorSnapshot
  split <;> simp [AList.keys, List.keys]

/-! ## No empty map -/

theorem registerActor_inhabited
    (inhabited : ∀ address sessions, byActor.lookup address = some sessions →
      sessions.entries ≠ []) :
    ∀ address' sessions,
      (byActor.registerActor address session connection).2.lookup address' = some sessions →
        sessions.entries ≠ [] := by
  intro address' sessions found
  unfold registerActor at found
  by_cases here : address' = address
  · subst here
    simp only [lookup_getD] at found
    split at found
    · rw [AList.lookup_insert, Option.some.injEq] at found
      rw [← found, AList.entries_insert]
      exact List.cons_ne_nil _ _
    · rename_i bound held
      obtain ⟨there, present, -⟩ := Option.bind_eq_some_iff.mp held
      rw [AList.lookup_insert, Option.some.injEq] at found
      rw [← found, present]
      exact inhabited address' there present
  · simp only at found
    split at found <;> rw [AList.lookup_insert_ne here] at found
    all_goals exact inhabited address' sessions found

theorem unregisterActor_inhabited
    (inhabited : ∀ address sessions, byActor.lookup address = some sessions →
      sessions.entries ≠ []) :
    ∀ address' sessions,
      (byActor.unregisterActor address session).2.lookup address' = some sessions →
        sessions.entries ≠ [] := by
  intro address' sessions found
  unfold unregisterActor at found
  split at found
  · exact inhabited address' sessions found
  · split at found
    · exact inhabited address' sessions found
    · rename_i held there bound present
      split at found
      · by_cases here : address' = address
        · subst here
          simp at found
        · rw [AList.lookup_erase_ne here] at found
          exact inhabited address' sessions found
      · rename_i remaining
        by_cases here : address' = address
        · subst here
          rw [AList.lookup_insert, Option.some.injEq] at found
          rw [← found]
          exact fun empty => remaining (List.isEmpty_iff.mpr empty)
        · rw [AList.lookup_insert_ne here] at found
          exact inhabited address' sessions found

end ByActor

/-- Nothing is left twice. -/
theorem eraseDups_nodup {Item : Type} [DecidableEq Item] (items : List Item) :
    items.eraseDups.Nodup := by
  induction size : items.length using Nat.strong_induction_on generalizing items with
  | _ length ih =>
      cases items with
      | nil => exact List.nodup_nil
      | cons item rest =>
          have shorter : (rest.filter fun other => !other == item).length < length := by
            rw [← size, List.length_cons]
            exact Nat.lt_succ_of_le (List.length_filter_le _ _)
          rw [List.eraseDups_cons, List.nodup_cons]
          refine ⟨fun member => ?_, ih _ shorter _ rfl⟩
          simp [List.mem_eraseDups] at member

namespace Refines

variable {byActor : ByActor} {registry : SessionRegistry}

theorem single (refines : Refines byActor registry) :
    ∀ first ∈ registry, ∀ second ∈ registry, first.key = second.key → first = second :=
  fun _ here _ there same => List.inj_on_of_nodup_map refines.distinct here there same

theorem lookup_map (refines : Refines byActor registry) (address : ActorAddress)
    (session : SessionId) :
    (registry.lookup address session).map SessionEntry.connection =
      byActor.sink address session := by
  cases held : byActor.sink address session with
  | some connection =>
      obtain ⟨entry, present, key, connected⟩ := (refines.sinks _ _ _).mp held
      rw [SessionRegistry.lookup_of_mem refines.single present key, Option.map_some, connected]
  | none =>
      cases found : registry.lookup address session with
      | none => rfl
      | some entry =>
          obtain ⟨present, key⟩ := SessionRegistry.lookup_entry found
          have bound := (refines.sinks _ _ _).mpr ⟨entry, present, key, rfl⟩
          rw [held] at bound
          cases bound

theorem contains_eq (refines : Refines byActor registry) (address : ActorAddress)
    (session : SessionId) :
    registry.contains address session = (byActor.sink address session).isSome := by
  rw [← refines.lookup_map, Option.isSome_map, SessionRegistry.lookup, Bool.eq_iff_iff]
  simp [SessionRegistry.contains]

theorem isBoundTo_eq (refines : Refines byActor registry) (address : ActorAddress)
    (session : SessionId) (connection : Nat) :
    registry.isBoundTo address session connection =
      byActor.isBoundTo address session connection := by
  rw [Bool.eq_iff_iff, ByActor.isBoundTo, beq_iff_eq, refines.sinks]
  constructor
  · exact SessionRegistry.bound_entry
  · rintro ⟨entry, present, key, connected⟩
    simp only [SessionRegistry.isBoundTo, List.any_eq_true, Bool.and_eq_true, beq_iff_eq]
    exact ⟨entry, present, SessionRegistry.names_iff.mpr key, connected⟩

/-! ## Listings -/

theorem sessions_perm (refines : Refines byActor registry) (address : ActorAddress) :
    (byActor.byActorSnapshot address).Perm (registry.sessionsOf address) := by
  refine (List.perm_ext_iff_of_nodup ByActor.byActorSnapshot_nodup ?_).mpr fun session => ?_
  · refine List.Nodup.map_on ?_ (refines.distinct.of_map.filter _)
    intro first here second there same
    simp only [List.mem_filter, beq_iff_eq] at here there
    refine refines.single first here.1 second there.1 ?_
    simp [SessionEntry.key, here.2, there.2, same]
  · rw [ByActor.mem_byActorSnapshot]
    simp only [SessionRegistry.sessionsOf, List.mem_map, List.mem_filter, beq_iff_eq]
    constructor
    · rintro ⟨connection, held⟩
      obtain ⟨entry, present, key, -⟩ := (refines.sinks _ _ _).mp held
      obtain ⟨here, named⟩ := Prod.mk.inj key
      exact ⟨entry, ⟨present, here⟩, named⟩
    · rintro ⟨entry, ⟨present, here⟩, named⟩
      refine ⟨entry.connection, (refines.sinks _ _ _).mpr ⟨entry, present, ?_, rfl⟩⟩
      rw [SessionEntry.key, here, named]

theorem sessionCount_eq (refines : Refines byActor registry) (address : ActorAddress) :
    byActor.sessionCount address = registry.sessionCount address := by
  rw [ByActor.sessionCount_eq, (refines.sessions_perm address).length_eq,
    SessionRegistry.sessionsOf, List.length_map, SessionRegistry.sessionCount]

theorem bound_perm (refines : Refines byActor registry) (connection : Nat) :
    (byActor.bySenderSnapshot connection).Perm (registry.bySender connection) := by
  refine (List.perm_ext_iff_of_nodup ByActor.bySenderSnapshot_nodup ?_).mpr ?_
  · exact refines.distinct.sublist (List.filter_sublist.map _)
  · rintro ⟨address, session⟩
    rw [ByActor.mem_bySenderSnapshot, refines.sinks]
    constructor
    · rintro ⟨entry, present, key, connected⟩
      refine List.mem_map.mpr ⟨entry, List.mem_filter.mpr ⟨present, ?_⟩, key⟩
      exact beq_iff_eq.mpr connected
    · exact SessionRegistry.bySender_entry

theorem addresses_perm (refines : Refines byActor registry) :
    byActor.byActorAddresses.Perm registry.addresses := by
  refine (List.perm_ext_iff_of_nodup byActor.keys_nodup (eraseDups_nodup _)).mpr ?_
  intro address
  change address ∈ byActor.byActorAddresses ↔ address ∈ registry.addresses
  rw [ByActor.mem_byActorAddresses refines.inhabited, SessionRegistry.addresses,
    List.mem_eraseDups, List.mem_map]
  constructor
  · rintro ⟨session, connection, held⟩
    obtain ⟨entry, present, key, -⟩ := (refines.sinks _ _ _).mp held
    exact ⟨entry, present, (Prod.mk.inj key).1⟩
  · rintro ⟨entry, present, here⟩
    refine ⟨entry.opening.session, entry.connection, (refines.sinks _ _ _).mpr ?_⟩
    exact ⟨entry, present, by rw [SessionEntry.key, here], rfl⟩

/-! ## Calls that change the registry -/

theorem registerActor (refines : Refines byActor registry) (entry : SessionEntry)
    (free : byActor.sink entry.opening.address entry.opening.session = none) :
    Refines (byActor.registerActor entry.opening.address entry.opening.session entry.connection).2
      (registry ++ [entry]) where
  sinks := by
    intro address session connection
    rw [(ByActor.registerActor_free free).2]
    split
    · rename_i same
      obtain ⟨rfl, rfl⟩ := same
      constructor
      · rintro ⟨⟩
        exact ⟨entry, by simp, rfl, rfl⟩
      · rintro ⟨other, present, key, rfl⟩
        rcases List.mem_append.mp present with old | new
        · have held := (refines.sinks _ _ _).mpr ⟨other, old, key, rfl⟩
          rw [free] at held
          cases held
        · rw [List.mem_singleton.mp new]
    · rename_i apart
      rw [refines.sinks]
      constructor
      · rintro ⟨other, present, named⟩
        exact ⟨other, List.mem_append.mpr (.inl present), named⟩
      · rintro ⟨other, present, key, connected⟩
        rcases List.mem_append.mp present with old | new
        · exact ⟨other, old, key, connected⟩
        · rw [List.mem_singleton.mp new] at key
          obtain ⟨rfl, rfl⟩ := Prod.mk.inj key
          exact absurd ⟨rfl, rfl⟩ apart
  distinct := by
    rw [List.map_append, List.map_singleton]
    refine List.nodup_append.mpr ⟨refines.distinct, List.nodup_singleton _, ?_⟩
    intro key old key' new same
    obtain ⟨other, present, rfl⟩ := List.mem_map.mp old
    rw [List.mem_singleton.mp new] at same
    have held := (refines.sinks _ _ _).mpr ⟨other, present, same, rfl⟩
    rw [free] at held
    cases held
  inhabited := ByActor.registerActor_inhabited refines.inhabited

theorem registerActor_taken (refines : Refines byActor registry) (entry : SessionEntry)
    {bound : Nat} (held : byActor.sink entry.opening.address entry.opening.session = some bound) :
    Refines (byActor.registerActor entry.opening.address entry.opening.session entry.connection).2
      registry where
  sinks := by
    intro address session connection
    rw [(ByActor.registerActor_taken held).2, refines.sinks]
  distinct := refines.distinct
  inhabited := ByActor.registerActor_inhabited refines.inhabited

theorem unregisterActor (refines : Refines byActor registry) (address : ActorAddress)
    (session : SessionId) :
    Refines (byActor.unregisterActor address session).2
      (registry.unregisterActor address session) where
  sinks := by
    intro address' session' connection
    rw [ByActor.unregisterActor_spec.2]
    simp only [SessionRegistry.mem_unregisterActor]
    split
    · rename_i same
      constructor
      · rintro ⟨⟩
      · rintro ⟨entry, ⟨_, apart⟩, key, -⟩
        rw [same.1, same.2] at key
        exact absurd key apart
    · rename_i apart
      rw [refines.sinks]
      constructor
      · rintro ⟨entry, present, key, connected⟩
        refine ⟨entry, ⟨present, fun same => apart ?_⟩, key, connected⟩
        exact Prod.mk.inj (key.symm.trans same)
      · rintro ⟨entry, ⟨present, _⟩, key, connected⟩
        exact ⟨entry, present, key, connected⟩
  distinct := refines.distinct.sublist (List.filter_sublist.map _)
  inhabited := ByActor.unregisterActor_inhabited refines.inhabited

end Refines

/-! ## The same answers -/

/-- Whatever is called, the two answer alike and stay related. -/
theorem byActor_simulates :
    Object.Simulates byActorObject registryObject Refines RegistryAnswer.Agree := by
  intro byActor registry call refines
  cases call with
  | registerActor entry =>
      have contains := refines.contains_eq entry.opening.address entry.opening.session
      cases held : byActor.sink entry.opening.address entry.opening.session with
      | none =>
          rw [held] at contains
          simp only [byActorObject, registryObject, SessionRegistry.registerActor, contains,
            Option.isSome_none, Bool.false_eq_true, if_false, Prod.map_fst, Prod.map_snd, id,
            (ByActor.registerActor_free held).1]
          exact ⟨.flag true, refines.registerActor entry held⟩
      | some bound =>
          rw [held] at contains
          simp only [byActorObject, registryObject, SessionRegistry.registerActor, contains,
            Option.isSome_some, if_true, Prod.map_fst, Prod.map_snd, id,
            (ByActor.registerActor_taken held).1]
          exact ⟨.flag false, refines.registerActor_taken entry held⟩
  | unregisterActor address session =>
      refine ⟨?_, refines.unregisterActor address session⟩
      simp only [byActorObject, registryObject, Prod.map_fst, ByActor.unregisterActor_spec.1,
        refines.contains_eq]
      exact .flag _
  | sessionCount address =>
      refine ⟨?_, refines⟩
      simp only [byActorObject, registryObject, refines.sessionCount_eq]
      exact .count _
  | byActorSnapshot address => exact ⟨.sessions (refines.sessions_perm address), refines⟩
  | bySenderSnapshot connection => exact ⟨.bound (refines.bound_perm connection), refines⟩
  | byActorAddresses => exact ⟨.addresses refines.addresses_perm, refines⟩
  | sink address session =>
      refine ⟨?_, refines⟩
      simp only [byActorObject, registryObject, refines.lookup_map]
      exact .sink _
  | isBoundTo address session connection =>
      refine ⟨?_, refines⟩
      simp only [byActorObject, registryObject, refines.isBoundTo_eq]
      exact .flag _

/-! ## The registry of a Server -/

/-- One registry is the result of calls on another. -/
def CalledFrom (before after : SessionRegistry) : Prop :=
  ∃ calls, registryObject.after before calls = after

theorem calledFrom_of_eq {before after : SessionRegistry} (same : after = before) :
    CalledFrom before after :=
  ⟨[], same.symm⟩

theorem calledFrom_of_unregister {before after : SessionRegistry} {address : ActorAddress}
    {session : SessionId} (removed : after = before.unregisterActor address session) :
    CalledFrom before after :=
  ⟨[.unregisterActor address session], removed.symm⟩

theorem calledFrom_of_register {before after : SessionRegistry} {entry : SessionEntry}
    (absent : before.contains entry.opening.address entry.opening.session = false)
    (added : after = before ++ [entry]) : CalledFrom before after := by
  refine ⟨[.registerActor entry], ?_⟩
  simp only [Object.after, registryObject, SessionRegistry.registerActor, absent,
    Bool.false_eq_true, if_false]
  exact added.symm

variable {config : RuntimeConfig} {server after : Server}

theorem ConnMove.calledFrom {id : Nat} {pc next : ConnPc}
    (move : ConnMove config server after id pc next) :
    CalledFrom server.registry after.registry := by
  cases move with
  | quiet same | unheard same => exact calledFrom_of_eq same.registry
  | register absent registry => exact calledFrom_of_register absent registry
  | opened _ registry | unopened _ registry | acted _ registry | unacted _ registry
  | closed _ registry => exact calledFrom_of_eq registry
  | unregister registry | close _ registry => exact calledFrom_of_unregister registry

theorem Sweep.calledFrom (registry : SessionRegistry) (sweep : Sweep) :
    CalledFrom registry (sweep.step registry).1 := by
  unfold Sweep.step
  split
  case h_5 => exact calledFrom_of_unregister rfl
  all_goals exact calledFrom_of_eq rfl

namespace Server

theorem shutdownStep?_calledFrom {expired : Bool} {pc : ShutdownPc}
    (stepped : server.shutdownStep? expired pc = some after) :
    CalledFrom server.registry after.registry := by
  cases pc with
  | terminating timedOut sweep =>
      have called := Sweep.calledFrom server.registry sweep
      simp only [shutdownStep?] at stepped
      split at stepped <;> rename_i swept <;> cases stepped <;> rw [swept] at called <;>
        exact called
  | idle | waiting =>
      refine calledFrom_of_eq ?_
      simp only [shutdownStep?] at stepped
      repeat' split at stepped
      all_goals cases stepped <;> rfl
  | aborting | clearing | abortInbound | storing =>
      cases stepped
      exact calledFrom_of_eq rfl
  | returned | skipped => cases stepped

theorem fenceStep?_calledFrom {pc : FencePc} (stepped : server.fenceStep? pc = some after) :
    CalledFrom server.registry after.registry := by
  cases pc with
  | terminating sweep =>
      have called := Sweep.calledFrom server.registry sweep
      simp only [fenceStep?] at stepped
      split at stepped <;> rename_i swept <;> cases stepped <;> rw [swept] at called <;>
        exact called
  | waiting generations =>
      cases generations with
      | nil =>
          cases stepped
          exact calledFrom_of_eq rfl
      | cons generation rest =>
          simp only [fenceStep?, Option.ite_none_right_eq_some] at stepped
          obtain ⟨-, stepped⟩ := stepped
          cases stepped
          exact calledFrom_of_eq rfl
  | idle | clearing | abortInbound =>
      cases stepped
      exact calledFrom_of_eq rfl
  | returned => cases stepped

/-- A Server changes its registry by calls alone. -/
theorem step?_calledFrom {authorityValid : Bool} {event : ServerEvent}
    (stepped : server.step? config authorityValid event = some after) :
    CalledFrom server.registry after.registry := by
  cases step?_moves stepped with
  | conn _ _ move => exact move.calledFrom
  | task _ _ move =>
      rcases move.registry with same | ⟨session, rest, onward, -, -, removed⟩
      · exact calledFrom_of_eq same
      · exact calledFrom_of_unregister removed
  | shutdown => exact shutdownStep?_calledFrom stepped
  | fence => exact fenceStep?_calledFrom stepped

end Server

theorem calls_of_reachable (reach : (serverSystem config).Reachable server) :
    CalledFrom [] server.registry := by
  refine invariant_of_step (fun server => CalledFrom [] server.registry) ?_ ?_ reach
  · rintro _ rfl
    exact calledFrom_of_eq rfl
  · intro before label after called _ stepped
    obtain ⟨calls, same⟩ := called
    obtain ⟨more, reached⟩ := Server.step?_calledFrom stepped
    exact ⟨calls ++ more, by rw [Object.after_append, same, reached]⟩

/-- The map of maps that has had the same calls as a Server's registry holds no
empty map, and answers whatever is called next as the registry does. -/
theorem registry_is_a_map_of_maps (reach : (serverSystem config).Reachable server) :
    ∃ history, registryObject.after [] history = server.registry ∧
      (∀ address sessions,
        (byActorObject.after ∅ history).lookup address = some sessions → sessions.entries ≠ []) ∧
      ∀ calls, List.Forall₂ RegistryAnswer.Agree
        (byActorObject.answers (byActorObject.after ∅ history) calls)
        (registryObject.answers server.registry calls) := by
  obtain ⟨history, same⟩ := calls_of_reachable reach
  have refines := byActor_simulates.after refines_empty history
  refine ⟨history, same, refines.inhabited, fun calls => ?_⟩
  rw [← same]
  exact byActor_simulates.answers refines calls

/-- The one Session of the cart is found in the map of maps. -/
theorem opened_session_is_in_the_map :
    ∃ server, (serverSystem cartRuntime).run? (.fresh cartRuntime) openAndActivate = some server ∧
      server.registry.length = 1 ∧
      ∃ history, registryObject.after [] history = server.registry ∧
        List.Forall₂ RegistryAnswer.Agree
          (byActorObject.answers (byActorObject.after ∅ history) [.byActorSnapshot cartAddress])
          [.sessions [⟨7⟩]] := by
  have reach := @reachable_of_run? _ _ (serverSystem cartRuntime) _ _ openAndActivate rfl rfl
  obtain ⟨history, same, -, agree⟩ := registry_is_a_map_of_maps reach
  exact ⟨_, rfl, rfl, history, same, agree [.byActorSnapshot cartAddress]⟩

end Coactor.Runtime
