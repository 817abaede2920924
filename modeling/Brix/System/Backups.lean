import Brix.Server.Capacity
import Brix.System.Replication

/-!
# Backups over any network

A coordinator handles operations one at a time, and broadcasts snapshots.  The network may lose a
snapshot on its way to a backup, or deliver it late, or more than once.  `load_snapshot` replaces
all that a backup has, so the network alone can make a backup old, but not wrong.

* `Fleet` — a coordinator, its backups, and the snapshots on their way
* `Fleet.Follows` — a backup is what the coordinator was when it sent the snapshot received last
* `backups_follow` — over every network, with at most nineteen clients

### The design

The coordinator's operations are taken one at a time here, with everything that each of them
sends.  What goes wrong when its handlers overlap is a matter of the coordinator alone, and is
told elsewhere: snapshots of one ledger may be sent in the wrong order (`Brix.System.SnapshotOrder`)
or be taken in the middle of a transfer (`Brix.Server.TornSnapshots`).  What is told here is what
the network adds, which is nothing.

A snapshot carries no number.  The model gives it one, the number of operations handled before it
was sent, and remembers for each backup the number of the last one it has received, so that "what
the coordinator was" can be said at all.  No transition looks at these numbers.

### What is load-bearing

`Fleet.Follows` is about the datagrams on their way as much as about the backups: each of them
shows the ledger of its number, and can be read back (`Posted.Shows`).  Datagrams are never
withdrawn, so this survives every step, and a delivery hands it over to the backup.  The bound of
nineteen clients is used in one place only, when a datagram is posted: it is what makes the
snapshot fit into the buffer of the receiver.
-/

namespace Brix

open Text Execution

/-- A snapshot that has been sent, and how many operations had been handled by then; the number is
not in the datagram. -/
structure Posted where
  datagram : Text
  number : ℕ

/-- A coordinator with the operations it has handled, and its backups, each with the number of the
snapshot that it has received last.  A listener may have ended with a fault. -/
structure Fleet (n : ℕ) where
  coordinator : Ledger
  handled : List Operation
  posted : List Posted
  backup : Fin n → Except Fault Ledger
  latest : Fin n → Option ℕ

/-- The datagram is a snapshot of this ledger, and fits. -/
def Posted.Shows (posted : Posted) (ledger : Ledger) : Prop :=
  Fits ledger ∧ ∃ order : Iteration ledger.records,
    posted.datagram = broadcastUpdate ledger.toDbManager.getDbSnapshot order

/-- The coordinator handles an operation, for which so many datagrams are broadcast, or a backup
receives one of the datagrams, for the first time or again. -/
inductive Fleet.Action (n : ℕ)
  | handle (operation : Operation) (datagrams : List Text)
  | deliver (i : Fin n) (k : ℕ)

/-- The ledger after some operations. -/
def ledgerAfter (ledger : Ledger) (operations : List Operation) : Ledger :=
  operations.foldl (fun ledger operation => (operation.handle ledger).1) ledger

/-- One operation more. -/
theorem ledgerAfter_append (ledger : Ledger) (operations : List Operation) (operation : Operation) :
    ledgerAfter ledger (operations ++ [operation])
      = (operation.handle (ledgerAfter ledger operations)).1 := by
  rw [ledgerAfter, List.foldl_append]
  rfl

/-- The same for the record of what was performed. -/
theorem performAll_append (ledger : Ledger) (operations : List Operation) (operation : Operation) :
    performAll ledger (operations ++ [operation])
      = performAll ledger operations ++ [⟨operation, ledgerAfter ledger operations⟩] := by
  induction operations generalizing ledger with
  | nil => rfl
  | cons first rest ih => exact congrArg (List.cons _) (ih _)

/-- What is broadcast for some duties is one of their snapshots. -/
theorem Broadcasts.exists_update {duties : List Duty} {datagrams : List Text}
    (h : Broadcasts duties datagrams) {datagram : Text} (hmem : datagram ∈ datagrams) :
    ∃ snapshot, Duty.update snapshot ∈ duties ∧
      ∃ order : Iteration snapshot.records, datagram = broadcastUpdate snapshot order := by
  induction h with
  | nil => exact absurd hmem List.not_mem_nil
  | ack _ ih =>
      obtain ⟨snapshot, hduty, horder⟩ := ih hmem
      exact ⟨snapshot, List.mem_cons_of_mem _ hduty, horder⟩
  | loc _ ih =>
      obtain ⟨snapshot, hduty, horder⟩ := ih hmem
      exact ⟨snapshot, List.mem_cons_of_mem _ hduty, horder⟩
  | update order _ ih =>
      rcases List.mem_cons.mp hmem with rfl | hmem
      · exact ⟨_, List.mem_cons_self, order, rfl⟩
      · obtain ⟨snapshot, hduty, horder⟩ := ih hmem
        exact ⟨snapshot, List.mem_cons_of_mem _ hduty, horder⟩

/-- For a duty to broadcast there is a datagram. -/
theorem Broadcasts.ne_nil {duties : List Duty} {datagrams : List Text}
    (h : Broadcasts duties datagrams) {snapshot : DbSnapshot}
    (hduty : Duty.update snapshot ∈ duties) : datagrams ≠ [] := by
  induction h with
  | nil => exact absurd hduty List.not_mem_nil
  | ack _ ih => exact ih (by simpa using hduty)
  | loc _ ih => exact ih (by simpa using hduty)
  | update order _ _ => exact List.cons_ne_nil _ _

namespace Fleet

variable {n : ℕ}

/-- Before the first operation. -/
def start (ledger : Ledger) (backups : Fin n → Ledger) : Fleet n :=
  ⟨ledger, [], [], fun i => .ok (backups i), fun _ => none⟩

/-- One step of the coordinator or of the network. -/
def step (selfIp : Fin n → Text) (src : InAddr) (fleet : Fleet n) : Action n → Option (Fleet n)
  | .handle operation datagrams => some { fleet with
      coordinator := (operation.handle fleet.coordinator).1
      handled := fleet.handled ++ [operation]
      posted := fleet.posted ++ datagrams.map fun datagram => ⟨datagram, fleet.handled.length + 1⟩ }
  | .deliver i k =>
      match fleet.posted[k]? with
      | none => none
      | some posted => some { fleet with
          backup := Function.update fleet.backup i ((fleet.backup i).bind fun ledger =>
            ledger.listenForUpdates (selfIp i) src posted.datagram)
          latest := Function.update fleet.latest i (some posted.number) }

/-- The datagrams are the operation's broadcasts, with the tables iterating in any order, and what
is broadcast has few clients and small counters. -/
def Admitted (fleet : Fleet n) : Action n → Prop
  | .handle operation datagrams =>
      Broadcasts (operation.handle fleet.coordinator).2 datagrams ∧
        ((Performed.mk operation fleet.coordinator).Updates →
          (operation.handle fleet.coordinator).1.toDbManager.InStoiRange ∧
            (operation.handle fleet.coordinator).1.records.keys.card ≤ 19)
  | .deliver _ _ => True

/-- What a backup should have. -/
def snapshotReceived (ledger : Ledger) (backups : Fin n → Ledger) (fleet : Fleet n) (i : Fin n) :
    Ledger :=
  match fleet.latest i with
  | none => backups i
  | some number => ledgerAfter ledger (fleet.handled.take number)

/-- No operation so far has overdrawn. -/
def Covered (ledger : Ledger) (fleet : Fleet n) : Prop :=
  ∀ performed ∈ performAll ledger fleet.handled, ¬ performed.operation.Overdraws performed.before

/-- What is known of a fleet. -/
structure Follows (ledger : Ledger) (backups : Fin n → Ledger) (fleet : Fleet n) : Prop where
  coordinator : fleet.coordinator = ledgerAfter ledger fleet.handled
  posted : ∀ posted ∈ fleet.posted, posted.number ≤ fleet.handled.length ∧
    posted.Shows (ledgerAfter ledger (fleet.handled.take posted.number))
  ordered : (fleet.posted.map Posted.number).Pairwise (· ≤ ·)
  latest : ∀ i number, fleet.latest i = some number → number ≤ fleet.handled.length
  backup : ∀ i, fleet.backup i = .ok (fleet.snapshotReceived ledger backups i)
  current : fleet.Covered ledger → ∀ last, fleet.posted.getLast? = some last →
    fleet.coordinator = ledgerAfter ledger (fleet.handled.take last.number)

section Steps

variable {ledger : Ledger} {backups : Fin n → Ledger} {fleet fleet' : Fleet n}
  {selfIp : Fin n → Text} {src : InAddr}

/-- No backup has received anything. -/
theorem follows_start (ledger : Ledger) (backups : Fin n → Ledger) :
    Follows ledger backups (start ledger backups) where
  coordinator := rfl
  posted _ hmem := absurd hmem List.not_mem_nil
  ordered := .nil
  latest _ number h := absurd h (Option.some_ne_none number).symm
  backup _ := rfl
  current _ last h := absurd h (Option.some_ne_none last).symm

/-- The coordinator handles an operation. -/
theorem Follows.handle (h : Follows ledger backups fleet) {operation : Operation}
    {datagrams : List Text} (hadmitted : fleet.Admitted (.handle operation datagrams)) :
    Follows ledger backups { fleet with
      coordinator := (operation.handle fleet.coordinator).1
      handled := fleet.handled ++ [operation]
      posted := fleet.posted ++
        datagrams.map fun datagram => ⟨datagram, fleet.handled.length + 1⟩ } := by
  obtain ⟨hbroadcasts, hfew⟩ := hadmitted
  have hafter : (operation.handle fleet.coordinator).1
      = ledgerAfter ledger (fleet.handled ++ [operation]) := by
    rw [ledgerAfter_append, h.coordinator]
  have htake : ∀ number ≤ fleet.handled.length,
      (fleet.handled ++ [operation]).take number = fleet.handled.take number :=
    fun number hle => List.take_append_of_le_length hle
  have hall : (fleet.handled ++ [operation]).take (fleet.handled.length + 1)
      = fleet.handled ++ [operation] := List.take_of_length_le (by simp)
  -- one goal for each clause: posted, ordered, latest, backup, current
  refine ⟨hafter, fun posted hmem => ?_, ?_, fun i number hlatest => ?_, fun i => ?_,
    fun hcovered last hlast => ?_⟩
  · rcases List.mem_append.mp hmem with hold | hnew
    · obtain ⟨hle, hshows⟩ := h.posted posted hold
      rw [List.length_append, htake _ hle]
      exact ⟨Nat.le_add_right_of_le hle, hshows⟩
    · obtain ⟨datagram, hdatagram, rfl⟩ := List.mem_map.mp hnew
      -- a new datagram shows the ledger right after this operation
      obtain ⟨snapshot, hduty, horder⟩ := hbroadcasts.exists_update hdatagram
      obtain ⟨hrange, hcard⟩ := hfew ⟨snapshot, hduty⟩
      obtain rfl := Operation.eq_of_update_mem hduty
      show _ ∧ Posted.Shows _ (ledgerAfter ledger
        ((fleet.handled ++ [operation]).take (fleet.handled.length + 1)))
      rw [hall, ← hafter]
      exact ⟨by simp, ⟨hrange, snapshotLength_le hrange hcard⟩, horder⟩
  · show ((fleet.posted ++ datagrams.map _).map Posted.number).Pairwise (· ≤ ·)
    rw [List.map_append, List.map_map, List.pairwise_append]
    refine ⟨h.ordered, ?_, fun number hold number' hnew => ?_⟩
    · exact List.pairwise_map.mpr (List.pairwise_of_forall fun _ _ => Nat.le_refl _)
    · obtain ⟨posted, hposted, rfl⟩ := List.mem_map.mp hold
      obtain ⟨datagram, -, rfl⟩ := List.mem_map.mp hnew
      exact Nat.le_add_right_of_le (h.posted posted hposted).1
  · rw [List.length_append]
    exact Nat.le_add_right_of_le (h.latest i number hlatest)
  · refine (h.backup i).trans (congrArg Except.ok ?_)
    rw [snapshotReceived, snapshotReceived]
    cases hlatest : fleet.latest i with
    | none => rfl
    | some number =>
        show _ = ledgerAfter ledger ((fleet.handled ++ [operation]).take number)
        rw [htake number (h.latest i number hlatest)]
  · have hcovered' : ∀ performed ∈ performAll ledger (fleet.handled ++ [operation]),
        ¬ performed.operation.Overdraws performed.before := hcovered
    rw [performAll_append] at hcovered'
    show (operation.handle fleet.coordinator).1
      = ledgerAfter ledger ((fleet.handled ++ [operation]).take last.number)
    rcases operation.handle_cases fleet.coordinator with ⟨hduty, -⟩ | ⟨hsilent, hchanged⟩
    · -- the last snapshot is of this operation
      obtain ⟨datagram, hdatagram⟩ := List.exists_mem_of_ne_nil _ (hbroadcasts.ne_nil hduty)
      have hnumber : last.number = fleet.handled.length + 1 := by
        have hlast' : (fleet.posted ++ datagrams.map fun datagram =>
            (⟨datagram, fleet.handled.length + 1⟩ : Posted)).getLast? = some last := hlast
        rw [List.getLast?_append_of_ne_nil _ (by simpa using List.ne_nil_of_mem hdatagram)]
          at hlast'
        obtain ⟨datagram, -, rfl⟩ := List.mem_map.mp (List.mem_of_getLast? hlast')
        rfl
      rw [hnumber, hall, hafter]
    · -- nothing is sent, and nothing changes
      have hnone : datagrams = [] := by
        refine List.eq_nil_iff_forall_not_mem.mpr fun datagram hdatagram => ?_
        obtain ⟨snapshot, hduty, -⟩ := hbroadcasts.exists_update hdatagram
        exact hsilent snapshot hduty
      subst hnone
      have hnot := hcovered' ⟨operation, ledgerAfter ledger fleet.handled⟩ (by simp)
      rw [← h.coordinator] at hnot
      have hsame := not_not.mp fun hne => hnot (hchanged.mp hne)
      have hlast' : fleet.posted.getLast? = some last := by simpa using hlast
      rw [hsame, htake _ (h.posted last (List.mem_of_getLast? hlast')).1]
      exact h.current (fun performed hmem => hcovered' performed (List.mem_append_left _ hmem))
        last hlast'

/-- A backup receives a snapshot. -/
theorem Follows.deliver (h : Follows ledger backups fleet) {i : Fin n}
    (hsrc : addrToString src ≠ selfIp i) {posted : Posted} (hmem : posted ∈ fleet.posted) :
    Follows ledger backups { fleet with
      backup := Function.update fleet.backup i ((fleet.backup i).bind fun ledger =>
        ledger.listenForUpdates (selfIp i) src posted.datagram)
      latest := Function.update fleet.latest i (some posted.number) } := by
  obtain ⟨hle, hfits, order, hdatagram⟩ := h.posted posted hmem
  refine ⟨h.coordinator, h.posted, h.ordered, fun j number hlatest => ?_, fun j => ?_, h.current⟩
  · have hlatest' : Function.update fleet.latest i (some posted.number) j = some number := hlatest
    by_cases hji : j = i
    · rw [hji, Function.update_self] at hlatest'
      exact Option.some.inj hlatest' ▸ hle
    · rw [Function.update_of_ne hji] at hlatest'
      exact h.latest j number hlatest'
  · by_cases hji : j = i
    · subst hji
      rw [snapshotReceived]
      simp only [Function.update_self]
      rw [h.backup j, hdatagram]
      exact Ledger.listenForUpdates_broadcastUpdate hsrc hfits order _
    · rw [snapshotReceived]
      simp only [Function.update_of_ne hji]
      exact h.backup j

/-- One step. -/
theorem Follows.step (h : Follows ledger backups fleet)
    (hsrc : ∀ i, addrToString src ≠ selfIp i) {action : Action n}
    (hadmitted : fleet.Admitted action) (taken : fleet.step selfIp src action = some fleet') :
    Follows ledger backups fleet' := by
  cases action with
  | handle operation datagrams =>
      cases taken
      exact h.handle hadmitted
  | deliver i k =>
      rw [Fleet.step] at taken
      cases hposted : fleet.posted[k]? with
      | none =>
          rw [hposted] at taken
          cases taken
      | some posted =>
          rw [hposted] at taken
          cases taken
          exact h.deliver (hsrc i) (List.mem_of_getElem? hposted)

end Steps

end Fleet

/-- **Backups follow.**  Any operations that the coordinator handles one at a time, with at most
nineteen clients and small counters, and any network: no backup's listener ever ends, and each
backup has what the coordinator had when it sent the snapshot that the backup has received last.
The snapshots are numbered in the order in which they are sent.  Unless an operation has overdrawn,
a backup that has received the last one last has what the coordinator has.

It is one invariant (`Fleet.Follows`) and what it says at three places: of the listeners, of a
backup that has received something, and of one that has received the last snapshot last. -/
theorem backups_follow {n : ℕ} {ledger : Ledger} {backups : Fin n → Ledger}
    {selfIp : Fin n → Text} {src : InAddr} (hsrc : ∀ i, addrToString src ≠ selfIp i)
    {actions : List (Fleet.Action n)} {fleet : Fleet n}
    (run : Runs (Fleet.step selfIp src) Fleet.Admitted (Fleet.start ledger backups) actions
      fleet) :
    (∀ i, fleet.backup i = .ok (fleet.snapshotReceived ledger backups i) ∧
      ∀ number, fleet.latest i = some number → number ≤ fleet.handled.length) ∧
    (fleet.posted.map Posted.number).Pairwise (· ≤ ·) ∧
    (fleet.Covered ledger → ∀ last, fleet.posted.getLast? = some last →
      ∀ i, fleet.latest i = some last.number → fleet.backup i = .ok fleet.coordinator) := by
  have hfollows := run.invariant (Fleet.Follows ledger backups)
    (Fleet.follows_start ledger backups) fun _ _ _ h hadmitted taken => h.step hsrc hadmitted taken
  refine ⟨fun i => ⟨hfollows.backup i, hfollows.latest i⟩, hfollows.ordered,
    fun hcovered last hlast i hlatest => ?_⟩
  rw [hfollows.backup i, hfollows.current hcovered last hlast, Fleet.snapshotReceived, hlatest]

/-- A transfer, and its snapshot reaches one of two backups. -/
def oneReached (i : Fin 2) : List (Fleet.Action 2) :=
  [.handle (.request 1 ⟨1, 2, 40⟩)
      [broadcastUpdate twoClients.toDbManager.getDbSnapshot twoClientsOrder],
    .deliver i 0]

/-- That one is up to date, and the other one is not wrong. -/
theorem oneReached_follows : ∃ fleet,
    Runs (Fleet.step (fun _ => addrToString 4) 3) Fleet.Admitted
      (Fleet.start twoNewClients fun _ => twoNewClients) (oneReached 0) fleet ∧
    fleet.backup 0 = .ok fleet.coordinator ∧ fleet.backup 1 = .ok twoNewClients := by
  have hbroadcasts : Broadcasts (Operation.handle twoNewClients (.request 1 ⟨1, 2, 40⟩)).2
      [broadcastUpdate twoClients.toDbManager.getDbSnapshot twoClientsOrder] := by
    have hduties : (Operation.handle twoNewClients (.request 1 ⟨1, 2, 40⟩)).2
        = [.update twoClients.toDbManager.getDbSnapshot,
          .ack (processReqPacket 1 ⟨1, 2, 40⟩ twoNewClients).reply] := rfl
    rw [hduties]
    exact @Broadcasts.update twoClients.toDbManager.getDbSnapshot _ _ twoClientsOrder (.ack .nil)
  have run : Runs (Fleet.step (fun _ => addrToString 4) 3) Fleet.Admitted
      (Fleet.start twoNewClients fun _ => twoNewClients) (oneReached 0) _ :=
    .cons ⟨hbroadcasts, fun _ => ⟨inStoiRange_twoClients, by decide⟩⟩ rfl (.cons trivial rfl .nil)
  obtain ⟨hbackup, -, hcurrent⟩ := backups_follow (fun _ => by decide) run
  refine ⟨_, run, hcurrent (fun performed hmem => ?_) _ rfl 0 rfl, (hbackup 1).1⟩
  obtain rfl := List.mem_singleton.mp hmem
  rintro ⟨client, hlookup, -, -, -, hshort⟩
  have hfound : twoNewClients.records.lookup 1 = some ⟨1, 100000, 0⟩ := by decide
  obtain rfl : (⟨1, 100000, 0⟩ : ClientRecord) = client :=
    Option.some.inj (hfound.symm.trans hlookup)
  exact absurd hshort (by decide)

end Brix
