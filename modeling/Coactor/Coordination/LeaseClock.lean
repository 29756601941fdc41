import Coactor.Coordination.NodeSession

/-!
# The stored lease and the local deadline

`put_node` writes an expiry in whole milliseconds, computed from the wall clock
and the TTL, each cut off; the local deadline is the start of the operation and
the TTL in nanoseconds.  Both clocks are the same here.
-/

namespace Coactor.Coordination

/-- The instant from which `read_node_key` leaves the lease out. -/
def StoredNodeLease.expiry (lease : StoredNodeLease) : Nat :=
  lease.expiresAtUnixMs * nanosPerMilli

/-- An authority whose deadline an operation with this start and TTL has set. -/
inductive GrantedAt (started ttl : Nat) : NodeAuthority → Prop where
  | new : GrantedAt started ttl (.new started ttl)
  | renew {earlier : NodeAuthority} (valid : earlier.valid = true) (same : earlier.ttl = ttl) :
      GrantedAt started ttl (earlier.renew started)

variable {started ttl instant : Nat} {node : NodeRecord} {authority : NodeAuthority}

theorem GrantedAt.isValid_iff (granted : GrantedAt started ttl authority) :
    authority.isValid instant = true ↔ instant < started + ttl := by
  rw [NodeAuthority.isValid_iff]
  cases granted with
  | new => exact and_iff_right rfl
  | renew valid same =>
      rw [← same]
      exact and_iff_right valid

theorem GrantedAt.deadline (granted : GrantedAt started ttl authority) :
    authority.deadline = started + ttl := by
  cases granted with
  | new => rfl
  | renew valid same => rw [← same]; rfl

/-- Both parts of the expiry are cut off to whole milliseconds. -/
theorem expiry_putNodeAt
    (fits : instant / nanosPerMilli + ttl / nanosPerMilli ≤ u64Max) :
    (putNodeAt node ttl instant).expiry =
      (instant - instant % nanosPerMilli) + (ttl - ttl % nanosPerMilli) := by
  have whole : (putNodeAt node ttl instant).expiresAtUnixMs =
      instant / nanosPerMilli + ttl / nanosPerMilli := by
    have small : instant / nanosPerMilli ≤ u64Max :=
      Nat.le_trans (Nat.le_add_right _ _) fits
    have smallTtl : ttl / nanosPerMilli ≤ u64Max := Nat.le_trans (Nat.le_add_left _ _) fits
    rw [putNodeAt, putNode, wallTimeMillis, saturatingAdd, Nat.min_eq_left small,
      Nat.min_eq_left smallTtl, Nat.min_eq_left fits]
  rw [StoredNodeLease.expiry, whole, nanosPerMilli]
  omega

theorem isExpiredAt_iff {lease : StoredNodeLease} (fits : lease.expiresAtUnixMs ≤ u64Max) :
    lease.isExpiredAt instant = true ↔ lease.expiry ≤ instant := by
  rw [StoredNodeLease.isExpiredAt, decide_eq_true_iff, StoredNodeLease.expiry, wallTimeMillis,
    Nat.le_min, and_iff_left fits, Nat.le_div_iff_mul_le (by decide)]

/-- The local deadline is not later than the stored expiry, and no instant has a
valid authority and an expired lease, exactly if the milliseconds that the
expiry cuts off have passed between the start of the operation and the write. -/
theorem stored_lease_covers_authority {computed : Nat} (later : started ≤ computed)
    (granted : GrantedAt started ttl authority)
    (fits : computed / nanosPerMilli + ttl / nanosPerMilli ≤ u64Max) :
    (authority.deadline ≤ (putNodeAt node ttl computed).expiry ↔
        computed % nanosPerMilli + ttl % nanosPerMilli ≤ computed - started) ∧
      ((∀ instant, ¬(authority.isValid instant = true ∧
          (putNodeAt node ttl computed).isExpiredAt instant = true)) ↔
        computed % nanosPerMilli + ttl % nanosPerMilli ≤ computed - started) := by
  have expiry := @expiry_putNodeAt ttl computed node fits
  have bounded : (putNodeAt node ttl computed).expiresAtUnixMs ≤ u64Max := by
    rw [putNodeAt, putNode, saturatingAdd]
    exact Nat.min_le_right _ _
  have cut := Nat.mod_le computed nanosPerMilli
  have cutTtl := Nat.mod_le ttl nanosPerMilli
  have covers : authority.deadline ≤ (putNodeAt node ttl computed).expiry ↔
      computed % nanosPerMilli + ttl % nanosPerMilli ≤ computed - started := by
    rw [granted.deadline, expiry]
    omega
  refine ⟨covers, ?_⟩
  rw [← covers, granted.deadline]
  simp only [granted.isValid_iff, isExpiredAt_iff bounded]
  constructor
  · intro never
    by_contra early
    exact never (putNodeAt node ttl computed).expiry ⟨by omega, Nat.le_refl _⟩
  · rintro covered instant ⟨valid, expired⟩
    omega

/-! ## A lease that expires first -/

def sampleNode : NodeRecord :=
  ServerRuntimeConfig.node ⟨"node-a", "host-a:7000", 10000, 4⟩ ⟨"a-1"⟩ 0

/-- A write one millisecond after the start covers a TTL of whole milliseconds. -/
theorem late_write_covers_authority :
    (NodeAuthority.new 1500000 10000000000).deadline ≤
      (putNodeAt sampleNode 10000000000 2500000).expiry :=
  (@stored_lease_covers_authority _ _ sampleNode _ 2500000 (by decide) .new (by decide)).1.mpr
    (by decide)

/-- An operation that starts and writes at the last nanosecond of a millisecond. -/
theorem lease_expires_before_authority :
    ¬ ∀ (started computed ttl : Nat) (node : NodeRecord) (authority : NodeAuthority),
      started ≤ computed → 0 < ttl → GrantedAt started ttl authority →
        computed / nanosPerMilli + ttl / nanosPerMilli ≤ u64Max →
          authority.deadline ≤ (putNodeAt node ttl computed).expiry ∧
            ∀ instant, ¬(authority.isValid instant = true ∧
              (putNodeAt node ttl computed).isExpiredAt instant = true) := by
  intro always
  have covered := always 999999 999999 10000000000 sampleNode _ (by decide) (by decide) .new
    (by decide)
  exact absurd covered.1 (by decide)

end Coactor.Coordination
