import Brix.Server.Synchronizer

/-!
# Taking over a snapshot

A backup is promoted with whatever ledger it loaded last.  From then on it answers
clients in the primary's place, so what matters is not that its tables look alike
but that no sequence of requests can tell the two servers apart.  The requests are
the three locking operations and the two reads (`DbQuery`).

The lock table decides who counts as registered, and it is not part of a snapshot:
`load_snapshot` rebuilds it.  In a reachable server it has the keys of the record
table, which is what the rebuilt one has, and so the two servers are in the same
state and not merely in similar ones.

### What is load-bearing

The two servers are shown to be equal, not merely equivalent under some relation that requests
preserve.  What makes this possible is that iteration order, the one thing in which they may
differ, is no part of the state here: it is chosen when a snapshot is printed.
-/

namespace Brix

/-- A request to a server. -/
inductive DbQuery
  | call (call : DbCall)
  | getClientInfo (clientIp : InAddr)
  | getDbMetadata

/-- What a server answers. -/
inductive Reply
  | outcome (outcome : Outcome)
  | info (response : DbRecordResponse)
  | metadata (metadata : DbMetadata)
  deriving DecidableEq

/-- Answer one request; `none` if the call never returns. -/
def DbManager.answer (db : DbManager) : DbQuery → Option (Reply × DbManager)
  | .call call => (call.alone db).map fun (outcome, db') => (.outcome outcome, db')
  | .getClientInfo clientIp => some (.info (db.getClientInfo clientIp), db)
  | .getDbMetadata => some (.metadata db.getDbMetadata, db)

/-- Answer a sequence of requests, one at a time. -/
def DbManager.serve : DbManager → List DbQuery → Option (List Reply)
  | _, [] => some []
  | db, query :: rest =>
      (db.answer query).bind fun (reply, db') => (db'.serve rest).map (reply :: ·)

/-- A server between calls answers every request and is again between calls. -/
theorem Ledger.answer_toDbManager (ledger : Ledger) (query : DbQuery) :
    ∃ reply next, ledger.toDbManager.answer query = some (reply, Ledger.toDbManager next) := by
  cases query with
  | call call =>
      exact ⟨_, (ledger.apply call).2, by rw [DbManager.answer, ledger.alone_toDbManager call]; rfl⟩
  | getClientInfo clientIp => exact ⟨_, ledger, rfl⟩
  | getDbMetadata => exact ⟨_, ledger, rfl⟩

/-- It answers every sequence of requests. -/
theorem Ledger.serve_toDbManager (ledger : Ledger) (queries : List DbQuery) :
    ∃ replies, ledger.toDbManager.serve queries = some replies := by
  induction queries generalizing ledger with
  | nil => exact ⟨[], rfl⟩
  | cons query rest ih =>
      obtain ⟨reply, next, hanswer⟩ := ledger.answer_toDbManager query
      obtain ⟨replies, hreplies⟩ := ih next
      refine ⟨reply :: replies, ?_⟩
      simp only [DbManager.serve, hanswer, Option.bind_some, hreplies, Option.map_some]

/-- **A backup that loaded a primary's snapshot is indistinguishable from it.**  For
every reachable primary whose counters `stoi` can read, every order in which its
table iterates and every previous state of the backup, the snapshot text is read,
and from then on both servers answer every sequence of requests, with the same
replies.

An answer is a function of the tables and the totals, and these are equal after the snapshot has
been loaded; so it is enough that equal states stay equal under any query. -/
theorem replica_indistinguishable {p : DbManager} (hp : p.Reachable) (hrange : p.InStoiRange)
    (order : Iteration p.databaseRecords) (b : DbManager) :
    ∃ snapshot, DbSnapshot.fromString (p.getDbSnapshot.toString order) = .ok snapshot ∧
      ∀ queries, ∃ replies, p.serve queries = some replies ∧
        (b.loadSnapshot snapshot).serve queries = some replies := by
  obtain ⟨calls, rfl⟩ := (Ledger.reachable_iff p).mp hp
  refine ⟨_, fromString_toString _ hrange order, fun queries => ?_⟩
  obtain ⟨replies, hreplies⟩ := Ledger.serve_toDbManager _ queries
  exact ⟨replies, hreplies, by rw [loadSnapshot_getDbSnapshot, hreplies]⟩

/-- The snapshot of two clients, taken over by a server that has not seen a client. -/
theorem twoClients_indistinguishable :
    ∃ snapshot, DbSnapshot.fromString
        (twoClients.toDbManager.getDbSnapshot.toString twoClientsOrder) = .ok snapshot ∧
      ∀ queries, ∃ replies, twoClients.toDbManager.serve queries = some replies ∧
        (DbManager.empty.loadSnapshot snapshot).serve queries = some replies :=
  replica_indistinguishable reachable_twoClients inStoiRange_twoClients twoClientsOrder _

end Brix
