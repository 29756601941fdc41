import Mathlib.Logic.Function.Basic

/-!
# A linearizable store with conditional writes that may be delayed

Every object carries the serial number of the write that produced it, and its
revision is a stamp computed from that serial number and from the body.  A
write is issued under a ticket and stays pending until it is settled.  Settling
compares the revision it was issued with against the object stored at that
moment: the write is then applied or refused, once and for all.  A pending
write that is never settled is a lost one, and a write settled long after its
issuer stopped waiting is a late one.
-/

namespace Coactor.Foundation.ConditionalStore

variable {Key Body Issuer Revision : Type}

/-- What has become of a conditional write. -/
inductive Fate where
  | pending
  | applied (serial : Nat)
  | refused
  deriving DecidableEq, Repr

/-- A stored object, with the issuer and the serial number of its write. -/
structure Object (Body Issuer : Type) where
  body : Body
  issuer : Issuer
  serial : Nat
  deriving DecidableEq, Repr

/-- The revision under which an object is read and compared. -/
def Object.revision (stamp : Nat → Body → Revision) (object : Object Body Issuer) : Revision :=
  stamp object.serial object.body

/-- A conditional write.  An absent body deletes, an absent revision requires
that nothing is stored. -/
structure Write (Key Body Issuer Revision : Type) where
  key : Key
  issuer : Issuer
  body : Option Body
  condition : Option Revision
  fate : Fate := .pending
  deriving DecidableEq, Repr

/-- The object a write leaves behind when it is applied under a serial number. -/
def Write.object (write : Write Key Body Issuer Revision) (serial : Nat) :
    Option (Object Body Issuer) :=
  write.body.map fun body => ⟨body, write.issuer, serial⟩

structure Store (Key Body Issuer Revision : Type) where
  objects : Key → Option (Object Body Issuer)
  writes : Nat → Option (Write Key Body Issuer Revision)
  tickets : Nat
  serials : Nat

namespace Store

/-- The store before any write. -/
def empty : Store Key Body Issuer Revision where
  objects := fun _ => none
  writes := fun _ => none
  tickets := 0
  serials := 0

/-- Hand a write to the store without waiting for its effect. -/
def issue (store : Store Key Body Issuer Revision)
    (write : Write Key Body Issuer Revision) : Store Key Body Issuer Revision :=
  { store with
    writes := Function.update store.writes store.tickets (some write)
    tickets := store.tickets + 1 }

/-- The revision that conditional writes to a key are compared with. -/
def current (stamp : Nat → Body → Revision) (store : Store Key Body Issuer Revision)
    (key : Key) : Option Revision :=
  (store.objects key).map (Object.revision stamp)

/-- Give a write its effect under the next serial number. -/
def apply [DecidableEq Key] (store : Store Key Body Issuer Revision) (ticket : Nat)
    (write : Write Key Body Issuer Revision) : Store Key Body Issuer Revision where
  objects := Function.update store.objects write.key (write.object store.serials)
  writes := Function.update store.writes ticket
    (some { write with fate := .applied store.serials })
  tickets := store.tickets
  serials := store.serials + 1

/-- Turn a write down because its condition does not hold. -/
def refuse (store : Store Key Body Issuer Revision) (ticket : Nat)
    (write : Write Key Body Issuer Revision) : Store Key Body Issuer Revision :=
  { store with
    writes := Function.update store.writes ticket (some { write with fate := .refused }) }

/-- Decide a pending write by the object stored at this moment. -/
def settle? [DecidableEq Key] [DecidableEq Revision] (stamp : Nat → Body → Revision)
    (store : Store Key Body Issuer Revision) (ticket : Nat) : Option (Store Key Body Issuer Revision) :=
  match store.writes ticket with
  | none => none
  | some write =>
      if write.fate = .pending then
        if store.current stamp write.key = write.condition then
          some (store.apply ticket write)
        else some (store.refuse ticket write)
      else none

end Store

open Store

variable {stamp : Nat → Body → Revision} {store after : Store Key Body Issuer Revision}

/-! ## Written versions -/

/-- Some write has stored this object at this key, now or earlier. -/
def Written (store : Store Key Body Issuer Revision) (key : Key)
    (object : Object Body Issuer) : Prop :=
  ∃ ticket write, store.writes ticket = some write ∧ write.key = key ∧
    write.body = some object.body ∧ write.issuer = object.issuer ∧
    write.fate = .applied object.serial

/-- Bookkeeping that issuing and settling keep: every stored object was
written, tickets and serial numbers are used once, and the stored object is the
newest one of its key. -/
structure Wellformed (store : Store Key Body Issuer Revision) : Prop where
  written : ∀ key object, store.objects key = some object → Written store key object
  ticket_lt : ∀ ticket write, store.writes ticket = some write → ticket < store.tickets
  serial_lt : ∀ ticket write serial, store.writes ticket = some write →
    write.fate = .applied serial → serial < store.serials
  serial_unique : ∀ ticket write ticket' write' serial,
    store.writes ticket = some write → write.fate = .applied serial →
    store.writes ticket' = some write' → write'.fate = .applied serial → ticket = ticket'
  newest : ∀ key object older, store.objects key = some object →
    Written store key older → older.serial ≤ object.serial

theorem wellformed_empty : Wellformed (Store.empty : Store Key Body Issuer Revision) where
  written := by intro key object found; cases found
  ticket_lt := by intro ticket write found; cases found
  serial_lt := by intro ticket write serial found; cases found
  serial_unique := by intro ticket write ticket' write' serial found; cases found
  newest := by intro key object older found; cases found

namespace Wellformed

variable (wf : Wellformed store)

include wf

theorem written_lt {key : Key} {object : Object Body Issuer}
    (written : Written store key object) : object.serial < store.serials := by
  obtain ⟨ticket, write, found, -, -, -, applied⟩ := written
  exact wf.serial_lt ticket write _ found applied

/-- A serial number names one key and one object. -/
theorem written_unique {key key' : Key} {object object' : Object Body Issuer}
    (written : Written store key object) (written' : Written store key' object')
    (serial : object.serial = object'.serial) : key = key' ∧ object = object' := by
  obtain ⟨ticket, write, found, rfl, body, issuer, applied⟩ := written
  obtain ⟨ticket', write', found', rfl, body', issuer', applied'⟩ := written'
  rw [serial] at applied
  have same := wf.serial_unique _ _ _ _ _ found applied found' applied'
  subst same
  rw [found] at found'
  cases found'
  rw [body] at body'
  cases object
  cases object'
  simp_all

/-- Under fresh stamps an object read earlier and still matching is the stored one. -/
theorem stored_of_revision_eq (fresh : ∀ m n b c, stamp m b = stamp n c → m = n)
    {key : Key} {seen object : Object Body Issuer} (written : Written store key seen)
    (stored : store.objects key = some object)
    (revision : object.revision stamp = seen.revision stamp) : object = seen := by
  have serial := fresh _ _ _ _ revision
  exact (wf.written_unique (wf.written key object stored) written serial).2

end Wellformed

/-! ## Issuing keeps the bookkeeping -/

theorem writes_issue_of_some (wf : Wellformed store) {write : Write Key Body Issuer Revision}
    {ticket : Nat} {known : Write Key Body Issuer Revision}
    (found : store.writes ticket = some known) :
    (store.issue write).writes ticket = some known := by
  have different : ticket ≠ store.tickets := Nat.ne_of_lt (wf.ticket_lt _ _ found)
  simpa [Store.issue, Function.update_of_ne different] using found

theorem writes_issue_cases {write : Write Key Body Issuer Revision} {ticket : Nat}
    {known : Write Key Body Issuer Revision}
    (found : (store.issue write).writes ticket = some known) :
    (ticket = store.tickets ∧ known = write) ∨ store.writes ticket = some known := by
  by_cases same : ticket = store.tickets
  · subst same
    simp only [Store.issue, Function.update_self, Option.some.injEq] at found
    exact .inl ⟨rfl, found.symm⟩
  · simp only [Store.issue, Function.update_of_ne same] at found
    exact .inr found

theorem Written.issue (wf : Wellformed store) {key : Key} {object : Object Body Issuer}
    (written : Written store key object) (write : Write Key Body Issuer Revision) :
    Written (store.issue write) key object := by
  obtain ⟨ticket, known, found, rest⟩ := written
  exact ⟨ticket, known, writes_issue_of_some wf found, rest⟩

theorem written_issue_iff (wf : Wellformed store) {write : Write Key Body Issuer Revision}
    (pending : write.fate = .pending) {key : Key} {object : Object Body Issuer} :
    Written (store.issue write) key object ↔ Written store key object := by
  constructor
  · rintro ⟨ticket, known, found, hkey, body, issuer, applied⟩
    rcases writes_issue_cases found with ⟨-, rfl⟩ | old
    · rw [pending] at applied
      cases applied
    · exact ⟨ticket, known, old, hkey, body, issuer, applied⟩
  · exact fun written => written.issue wf write

theorem Wellformed.issue (wf : Wellformed store) {write : Write Key Body Issuer Revision}
    (pending : write.fate = .pending) : Wellformed (store.issue write) where
  written := fun key object stored => (wf.written key object stored).issue wf write
  ticket_lt := by
    intro ticket known found
    rcases writes_issue_cases found with ⟨rfl, -⟩ | old
    · exact Nat.lt_succ_self _
    · exact Nat.lt_succ_of_lt (wf.ticket_lt _ _ old)
  serial_lt := by
    intro ticket known serial found applied
    rcases writes_issue_cases found with ⟨-, rfl⟩ | old
    · rw [pending] at applied
      cases applied
    · exact wf.serial_lt _ _ _ old applied
  serial_unique := by
    intro ticket known ticket' known' serial found applied found' applied'
    rcases writes_issue_cases found with ⟨-, rfl⟩ | old
    · rw [pending] at applied
      cases applied
    · rcases writes_issue_cases found' with ⟨-, rfl⟩ | old'
      · rw [pending] at applied'
        cases applied'
      · exact wf.serial_unique _ _ _ _ _ old applied old' applied'
  newest := by
    intro key object older stored written
    exact wf.newest key object older stored ((written_issue_iff wf pending).mp written)

/-! ## Settling keeps the bookkeeping -/

theorem writes_refuse_cases {write known : Write Key Body Issuer Revision} {ticket other : Nat}
    (found : (store.refuse ticket write).writes other = some known) :
    (other = ticket ∧ known = { write with fate := .refused }) ∨
      (other ≠ ticket ∧ store.writes other = some known) := by
  by_cases same : other = ticket
  · subst same
    simp only [Store.refuse, Function.update_self, Option.some.injEq] at found
    exact .inl ⟨rfl, found.symm⟩
  · simp only [Store.refuse, Function.update_of_ne same] at found
    exact .inr ⟨same, found⟩

theorem written_refuse_iff {write : Write Key Body Issuer Revision} {ticket : Nat}
    (found : store.writes ticket = some write) (pending : write.fate = .pending)
    {key : Key} {object : Object Body Issuer} :
    Written (store.refuse ticket write) key object ↔ Written store key object := by
  constructor
  · rintro ⟨other, known, foundOther, hkey, body, issuer, applied⟩
    rcases writes_refuse_cases foundOther with ⟨-, rfl⟩ | ⟨-, old⟩
    · cases applied
    · exact ⟨other, known, old, hkey, body, issuer, applied⟩
  · rintro ⟨other, known, foundOther, rest⟩
    have different : other ≠ ticket := by
      rintro rfl
      rw [found] at foundOther
      cases foundOther
      rw [pending] at rest
      cases rest.2.2.2
    exact ⟨other, known, by simpa [Store.refuse, Function.update_of_ne different], rest⟩

theorem Wellformed.refuse (wf : Wellformed store) {write : Write Key Body Issuer Revision}
    {ticket : Nat} (found : store.writes ticket = some write) (pending : write.fate = .pending) :
    Wellformed (store.refuse ticket write) where
  written := fun key object stored =>
    (written_refuse_iff found pending).mpr (wf.written key object stored)
  ticket_lt := by
    intro other known foundOther
    rcases writes_refuse_cases foundOther with ⟨rfl, -⟩ | ⟨-, old⟩
    · exact wf.ticket_lt _ _ found
    · exact wf.ticket_lt _ _ old
  serial_lt := by
    intro other known serial foundOther applied
    rcases writes_refuse_cases foundOther with ⟨-, rfl⟩ | ⟨-, old⟩
    · cases applied
    · exact wf.serial_lt _ _ _ old applied
  serial_unique := by
    intro other known other' known' serial foundOther applied foundOther' applied'
    rcases writes_refuse_cases foundOther with ⟨-, rfl⟩ | ⟨-, old⟩
    · cases applied
    · rcases writes_refuse_cases foundOther' with ⟨-, rfl⟩ | ⟨-, old'⟩
      · cases applied'
      · exact wf.serial_unique _ _ _ _ _ old applied old' applied'
  newest := by
    intro key object older stored written
    exact wf.newest key object older stored ((written_refuse_iff found pending).mp written)

theorem object_serial {write : Write Key Body Issuer Revision} {serial : Nat}
    {object : Object Body Issuer} (made : write.object serial = some object) :
    object.serial = serial := by
  simp only [Write.object, Option.map_eq_some_iff] at made
  obtain ⟨body, -, rfl⟩ := made
  rfl

variable [DecidableEq Key]

theorem writes_apply_cases {write known : Write Key Body Issuer Revision} {ticket other : Nat}
    (found : (store.apply ticket write).writes other = some known) :
    (other = ticket ∧ known = { write with fate := .applied store.serials }) ∨
      (other ≠ ticket ∧ store.writes other = some known) := by
  by_cases same : other = ticket
  · subst same
    simp only [Store.apply, Function.update_self, Option.some.injEq] at found
    exact .inl ⟨rfl, found.symm⟩
  · simp only [Store.apply, Function.update_of_ne same] at found
    exact .inr ⟨same, found⟩

theorem written_apply_iff {write : Write Key Body Issuer Revision} {ticket : Nat}
    (found : store.writes ticket = some write) (pending : write.fate = .pending)
    {key : Key} {object : Object Body Issuer} :
    Written (store.apply ticket write) key object ↔
      Written store key object ∨
        (write.key = key ∧ write.object store.serials = some object) := by
  constructor
  · rintro ⟨other, known, foundOther, hkey, body, issuer, applied⟩
    rcases writes_apply_cases foundOther with ⟨-, rfl⟩ | ⟨-, old⟩
    · cases object
      simp_all [Write.object]
    · exact .inl ⟨other, known, old, hkey, body, issuer, applied⟩
  · rintro (⟨other, known, foundOther, rest⟩ | ⟨hkey, made⟩)
    · have different : other ≠ ticket := by
        rintro rfl
        rw [found] at foundOther
        cases foundOther
        rw [pending] at rest
        cases rest.2.2.2
      exact ⟨other, known, by simpa [Store.apply, Function.update_of_ne different], rest⟩
    · refine ⟨ticket, _, Function.update_self .., hkey, ?_⟩
      simp only [Write.object, Option.map_eq_some_iff] at made
      obtain ⟨body, hbody, rfl⟩ := made
      exact ⟨hbody, rfl, rfl⟩

theorem Wellformed.apply (wf : Wellformed store) {write : Write Key Body Issuer Revision}
    {ticket : Nat} (found : store.writes ticket = some write) (pending : write.fate = .pending) :
    Wellformed (store.apply ticket write) where
  written := by
    intro key object stored
    rw [written_apply_iff found pending]
    by_cases same : key = write.key
    · subst same
      simp only [Store.apply, Function.update_self] at stored
      exact .inr ⟨rfl, stored⟩
    · simp only [Store.apply, Function.update_of_ne same] at stored
      exact .inl (wf.written key object stored)
  ticket_lt := by
    intro other known foundOther
    rcases writes_apply_cases foundOther with ⟨rfl, -⟩ | ⟨-, old⟩
    · exact wf.ticket_lt _ _ found
    · exact wf.ticket_lt _ _ old
  serial_lt := by
    intro other known serial foundOther applied
    rcases writes_apply_cases foundOther with ⟨-, rfl⟩ | ⟨-, old⟩
    · cases applied
      exact Nat.lt_succ_self _
    · exact Nat.lt_succ_of_lt (wf.serial_lt _ _ _ old applied)
  serial_unique := by
    intro other known other' known' serial foundOther applied foundOther' applied'
    rcases writes_apply_cases foundOther with ⟨rfl, rfl⟩ | ⟨-, old⟩
    · cases applied
      rcases writes_apply_cases foundOther' with ⟨rfl, -⟩ | ⟨-, old'⟩
      · rfl
      · exact absurd (wf.serial_lt _ _ _ old' applied') (Nat.lt_irrefl _)
    · rcases writes_apply_cases foundOther' with ⟨rfl, rfl⟩ | ⟨-, old'⟩
      · cases applied'
        exact absurd (wf.serial_lt _ _ _ old applied) (Nat.lt_irrefl _)
      · exact wf.serial_unique _ _ _ _ _ old applied old' applied'
  newest := by
    intro key object older stored written
    rw [written_apply_iff found pending] at written
    by_cases same : key = write.key
    · subst same
      simp only [Store.apply, Function.update_self] at stored
      rw [object_serial stored]
      rcases written with earlier | ⟨-, made⟩
      · exact Nat.le_of_lt (wf.written_lt earlier)
      · exact Nat.le_of_eq (object_serial made)
    · simp only [Store.apply, Function.update_of_ne same] at stored
      rcases written with earlier | ⟨hkey, -⟩
      · exact wf.newest key object older stored earlier
      · exact absurd hkey.symm same

variable [DecidableEq Revision]

/-- Settling either applies a pending write whose condition holds or refuses it. -/
theorem settle?_cases {ticket : Nat} (settled : store.settle? stamp ticket = some after) :
    ∃ write, store.writes ticket = some write ∧ write.fate = .pending ∧
      ((store.current stamp write.key = write.condition ∧ after = store.apply ticket write) ∨
        after = store.refuse ticket write) := by
  unfold Store.settle? at settled
  cases found : store.writes ticket with
  | none => simp [found] at settled
  | some write =>
      simp only [found] at settled
      by_cases pending : write.fate = .pending
      · rw [if_pos pending] at settled
        by_cases holds : store.current stamp write.key = write.condition
        · rw [if_pos holds] at settled
          exact ⟨write, rfl, pending, .inl ⟨holds, (Option.some.inj settled).symm⟩⟩
        · rw [if_neg holds] at settled
          exact ⟨write, rfl, pending, .inr (Option.some.inj settled).symm⟩
      · rw [if_neg pending] at settled
        cases settled

/-- A write is refused only if its condition does not hold. -/
theorem condition_of_refused {ticket : Nat} {write known : Write Key Body Issuer Revision}
    (settled : store.settle? stamp ticket = some after)
    (found : store.writes ticket = some write) (later : after.writes ticket = some known)
    (refused : known.fate = .refused) : store.current stamp write.key ≠ write.condition := by
  intro holds
  unfold Store.settle? at settled
  simp only [found] at settled
  by_cases pending : write.fate = .pending
  · rw [if_pos pending, if_pos holds, Option.some.injEq] at settled
    subst settled
    rcases writes_apply_cases later with ⟨-, rfl⟩ | ⟨different, -⟩
    · cases refused
    · exact different rfl
  · rw [if_neg pending] at settled
    cases settled

theorem Wellformed.settle? (wf : Wellformed store) {ticket : Nat}
    (settled : store.settle? stamp ticket = some after) : Wellformed after := by
  obtain ⟨write, found, pending, ⟨-, rfl⟩ | rfl⟩ := settle?_cases settled
  · exact wf.apply found pending
  · exact wf.refuse found pending

/-! ## Growth -/

/-- Every write is still there, at most with another fate, and every written
object stays written. -/
structure Grows (store after : Store Key Body Issuer Revision) : Prop where
  writes : ∀ ticket write, store.writes ticket = some write →
    ∃ fate, after.writes ticket = some { write with fate := fate }
  written : ∀ key object, Written store key object → Written after key object

omit [DecidableEq Key] [DecidableEq Revision] in
theorem Grows.refl (store : Store Key Body Issuer Revision) : Grows store store where
  writes := fun _ write found => ⟨write.fate, found⟩
  written := fun _ _ written => written

omit [DecidableEq Key] [DecidableEq Revision] in
theorem grows_issue (wf : Wellformed store) (write : Write Key Body Issuer Revision) :
    Grows store (store.issue write) where
  writes := fun _ known found => ⟨known.fate, writes_issue_of_some wf found⟩
  written := fun _ _ written => written.issue wf write

theorem grows_settle? {ticket : Nat} (settled : store.settle? stamp ticket = some after) :
    Grows store after := by
  obtain ⟨write, found, pending, ⟨-, rfl⟩ | rfl⟩ := settle?_cases settled
  · refine ⟨fun other known foundOther => ?_, fun key object written =>
      (written_apply_iff found pending).mpr (.inl written)⟩
    by_cases same : other = ticket
    · subst same
      rw [found] at foundOther
      cases foundOther
      exact ⟨_, Function.update_self ..⟩
    · exact ⟨known.fate, by simpa [Store.apply, Function.update_of_ne same] using foundOther⟩
  · refine ⟨fun other known foundOther => ?_, fun key object written =>
      (written_refuse_iff found pending).mpr written⟩
    by_cases same : other = ticket
    · subst same
      rw [found] at foundOther
      cases foundOther
      exact ⟨_, Function.update_self ..⟩
    · exact ⟨known.fate, by simpa [Store.refuse, Function.update_of_ne same] using foundOther⟩

/-- Settling issues nothing: every write found afterwards was there before. -/
theorem writes_settle? {ticket other : Nat} {known : Write Key Body Issuer Revision}
    (settled : store.settle? stamp ticket = some after)
    (found : after.writes other = some known) :
    ∃ fate, store.writes other = some { known with fate := fate } := by
  obtain ⟨write, here, pending, ⟨-, rfl⟩ | rfl⟩ := settle?_cases settled
  · rcases writes_apply_cases found with ⟨rfl, rfl⟩ | ⟨-, old⟩
    · exact ⟨write.fate, here⟩
    · exact ⟨known.fate, old⟩
  · rcases writes_refuse_cases found with ⟨rfl, rfl⟩ | ⟨-, old⟩
    · exact ⟨write.fate, here⟩
    · exact ⟨known.fate, old⟩

/-- A write that has been applied stays as it is. -/
theorem applied_of_settle? {ticket other serial : Nat} {write : Write Key Body Issuer Revision}
    (settled : store.settle? stamp ticket = some after)
    (found : store.writes other = some write) (applied : write.fate = .applied serial) :
    after.writes other = some write := by
  have different : ∀ known, store.writes ticket = some known → known.fate = .pending →
      other ≠ ticket := by
    rintro known here pending rfl
    rw [found] at here
    cases here
    rw [applied] at pending
    cases pending
  obtain ⟨known, here, pending, ⟨-, rfl⟩ | rfl⟩ := settle?_cases settled
  · simpa [Store.apply, Function.update_of_ne (different known here pending)] using found
  · simpa [Store.refuse, Function.update_of_ne (different known here pending)] using found

end Coactor.Foundation.ConditionalStore
