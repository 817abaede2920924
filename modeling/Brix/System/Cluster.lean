import Brix.Election.Network
import Brix.Server.ConcurrentRequests
import Brix.Server.Synchronizer

/-!
# Servers that replicate

Any number of servers that elect a coordinator (`Election.Network`), handle requests and
send each other snapshots.  A REQ handler makes its transaction, broadcasts a snapshot
if it was a success and only then answers; the discovery service of a coordinator
registers clients, a KIL handler removes them, and a coordinator that receives an
election message broadcasts a snapshot.  Snapshots are delivered in any order, each to
every server.  A datagram that `from_string` cannot read ends the process that reads it
and is never delivered here.

A snapshot carries no version and `listen_for_updates` asks for no role, so a snapshot
that the last coordinator sent long ago replaces whatever its receiver has:
`stale_snapshot_loses_transfer`.  `acknowledged_transfers_kept` is the result for the
runs in which no server receives another one's snapshot while it has something to lose.

What a ledger reflects is said by history variables: `base` is the ledger a server
started with or took over last, `since` the calls it has carried out from then on, each
with its REQ handler if it has one.  `acknowledged` lists the handlers that have
answered `SUCCESS` in the present term of a coordinator.

### What is load-bearing

`Kept` says of a server's ledger that it is what its calls since the last take-over make of the
base, and of each acknowledged transfer that it is one of those calls and was a success when its
turn came.  It is stated for the transfers that are about to be acknowledged as well: a handler
broadcasts before it answers, so there are two more steps between the transfer and the
acknowledgement, and a snapshot may come in between.

The only step that could break it is the one that sets the base anew, and `Admitted` is a
condition on that step alone, and on the state before it.  What makes every other step harmless is
that a call can only be added at the end (`CarriedOut.advance`): nothing is ever taken out of
`since`, and nothing is put in front of a call that was a success.
-/

namespace Brix

open Text Execution Election

/-- A snapshot on its way. -/
structure Update (n : ℕ) where
  sender : Fin n
  receiver : Fin n
  datagram : Text
  deriving DecidableEq

/-- How far a REQ handler is. -/
inductive Stage
  | handling (phase : Phase)
  /-- The snapshot is on its way if there is one. -/
  | broadcast (reply : AckPacket)
  | answered (reply : AckPacket)

/-- A call that was carried out, and the REQ handler that made it. -/
structure Entry (Tid : Type) where
  call : DbCall
  handler : Option Tid

/-- One server's ledger and its history. -/
structure Site (Tid : Type) where
  ledger : Ledger
  base : Ledger
  since : List (Entry Tid)
  acknowledged : List Tid

/-- The servers, the REQ handlers and what is on its way. -/
structure Cluster (n : ℕ) (Tid : Type) where
  network : Network n
  sites : Fin n → Site Tid
  stages : Tid → Stage
  updates : List (Update n)

/-- The transaction of an arrival. -/
def Arrival.call (arrival : Arrival) : DbCall :=
  .makeTransaction arrival.senderIp arrival.packet.receiverIp arrival.packet.transferAmount

/-- What a handler's next step does to the ledger. -/
def Phase.calls (arrival : Arrival) : Phase → List DbCall
  | .checked _ .valid => [arrival.call]
  | _ => []

namespace Site

variable {Tid : Type}

/-- A server that starts with a ledger. -/
def start (ledger : Ledger) : Site Tid := ⟨ledger, ledger, [], []⟩

/-- Calls are carried out and lead to a ledger. -/
def advance (calls : List DbCall) (handler : Option Tid) (ledger : Ledger) (site : Site Tid) :
    Site Tid :=
  { site with ledger := ledger, since := site.since ++ calls.map fun call => ⟨call, handler⟩ }

/-- Another server's ledger replaces this one. -/
def takeOver (ledger : Ledger) (site : Site Tid) : Site Tid :=
  { site with ledger := ledger, base := ledger, since := [] }

end Site

/-- What can happen next.  A step that may broadcast a snapshot is given the order in
which the table iterates. -/
inductive ClusterAction (n : ℕ) (Tid : Type)
  | election (action : Election.Action n) (order : List (Σ _ : InAddr, ClientRecord))
  | handler (t : Tid) (order : List (Σ _ : InAddr, ClientRecord))
  /-- The discovery service registers a client. -/
  | discover (server : Fin n) (clientIp : InAddr) (order : List (Σ _ : InAddr, ClientRecord))
  /-- A KIL packet is handled. -/
  | kill (server : Fin n) (clientIp : InAddr) (order : List (Σ _ : InAddr, ClientRecord))
  /-- A snapshot is received. -/
  | load (update : Update n)

namespace Cluster

variable {n : ℕ} {Tid : Type}

/-- The servers are about to start and no handler has begun. -/
def start (network : Network n) (ledgers : Fin n → Ledger) : Cluster n Tid :=
  ⟨network, fun server => Site.start (ledgers server), fun _ => .handling .started, []⟩

/-- A server is coordinator. -/
def Coordinates (c : Cluster n Tid) (server : Fin n) : Prop :=
  (c.network.machines server).isCoordinator = true

instance (c : Cluster n Tid) (server : Fin n) : Decidable (c.Coordinates server) :=
  inferInstanceAs (Decidable (_ = _))

/-- The server's own site changes. -/
def setSite (server : Fin n) (site : Site Tid) (c : Cluster n Tid) : Cluster n Tid :=
  { c with sites := Function.update c.sites server site }

/-- What holds of the new site, and of the others as they are. -/
theorem forall_setSite {server : Fin n} {site : Site Tid} {c : Cluster n Tid}
    {P : Fin n → Site Tid → Prop} (hself : P server site)
    (hothers : ∀ other, other ≠ server → P other (c.sites other)) (other : Fin n) :
    P other ((c.setSite server site).sites other) :=
  (Function.forall_update_iff c.sites P).mpr ⟨hself, hothers⟩ other

/-- `broadcast_update(get_db_snapshot())`, if it is called. -/
def broadcastIf (called : Prop) [Decidable called] (server : Fin n)
    (order : List (Σ _ : InAddr, ClientRecord)) (c : Cluster n Tid) : Option (Cluster n Tid) :=
  if called then
    if h : (order : Multiset _) = (c.sites server).ledger.records.entries then
      let datagram := broadcastUpdate (c.sites server).ledger.toDbManager.getDbSnapshot ⟨order, h⟩
      some { c with
        updates := ((List.finRange n).map fun receiver => ⟨server, receiver, datagram⟩)
          ++ c.updates }
    else none
  else some c

/-- Whoever is not coordinator has no term. -/
def endTerms (c : Cluster n Tid) : Cluster n Tid :=
  { c with
    sites := fun server =>
      if c.Coordinates server then c.sites server
      else { c.sites server with acknowledged := [] } }

section System

variable [DecidableEq Tid] (peers : Peers n) (host : Tid → Fin n) (arrivals : Tid → Arrival)

/-- The snapshot is not the receiver's own, which it ignores. -/
def Foreign (update : Update n) : Prop :=
  addrToString (peers.address update.sender) ≠ addrToString (peers.address update.receiver)

instance (update : Update n) : Decidable (Foreign peers update) :=
  inferInstanceAs (Decidable (_ ≠ _))

/-- A REQ handler's next step. -/
def handlerStep (c : Cluster n Tid) (t : Tid) (order : List (Σ _ : InAddr, ClientRecord)) :
    Option (Cluster n Tid) :=
  match c.stages t with
  | .handling (.replied reply) =>
      (c.broadcastIf (reply.result = "SUCCESS".toList) (host t) order).map fun c =>
        { c with stages := Function.update c.stages t (.broadcast reply) }
  | .handling phase =>
      let site := c.sites (host t)
      (phase.step (arrivals t).senderIp (arrivals t).packet site.ledger).map
        fun (phase', ledger) =>
          { c.setSite (host t) (site.advance (phase.calls (arrivals t)) (some t) ledger) with
            stages := Function.update c.stages t (.handling phase') }
  | .broadcast reply =>
      let site := c.sites (host t)
      let acknowledged :=
        if reply.result = "SUCCESS".toList ∧ c.Coordinates (host t) then t :: site.acknowledged
        else site.acknowledged
      some { c.setSite (host t) { site with acknowledged := acknowledged } with
        stages := Function.update c.stages t (.answered reply) }
  | .answered _ => none

/-- One step of one of the servers, or of one of its handlers.  A handler asks no role: it was
started when the datagram came, and the server may have lost its term since. -/
def step (c : Cluster n Tid) : ClusterAction n Tid → Option (Cluster n Tid)
  | .election action order =>
      (c.network.turn peers action).bind fun (server, result, net) =>
        (c.broadcastIf (.update ∈ result.2) server order).map fun c =>
          endTerms { c with network := net.after peers server result }
  | .handler t order => c.handlerStep host arrivals t order
  | .discover server clientIp order =>
      if c.Coordinates server then
        let site := c.sites server
        (c.setSite server (site.advance [.registerClient clientIp] none
          (site.ledger.register clientIp).2)).broadcastIf True server order
      else none
  | .kill server clientIp order =>
      let site := c.sites server
      let handled := processKillPacket clientIp {} site.ledger
      (c.setSite server (site.advance [.removeClient clientIp] none handled.ledger)).broadcastIf
        (handled.update.isSome = true) server order
  | .load update =>
      if update ∈ c.updates then
        let site := c.sites update.receiver
        match site.ledger.listenForUpdates (addrToString (peers.address update.receiver))
            (peers.address update.sender) update.datagram with
        | .ok ledger => some
            { c.setSite update.receiver
                (if Foreign peers update then site.takeOver ledger else site) with
              updates := c.updates.erase update }
        | .error _ => none
      else none

end System

end Cluster

/-! ## What a ledger reflects -/

namespace Site

variable {Tid : Type} {site : Site Tid} {arrival : Arrival} {t : Tid}

/-- The ledger is what the calls since make of the base. -/
def Replays (site : Site Tid) : Prop :=
  site.ledger = (site.base.applyAll (site.since.map Entry.call)).2

/-- A handler's transfer is one of the calls since, and was a success. -/
def CarriedOut (arrival : Arrival) (t : Tid) (site : Site Tid) : Prop :=
  ∃ before after, site.since = before ++ ⟨arrival.call, some t⟩ :: after ∧
    ((site.base.applyAll (before.map Entry.call)).2.apply arrival.call).1.statusCode = .success

/-- The ledger reflects a handler's transfer. -/
def Reflects (arrival : Arrival) (t : Tid) (site : Site Tid) : Prop :=
  site.Replays ∧ site.CarriedOut arrival t

/-- Whatever calls are carried out, -/
theorem Replays.advance (h : site.Replays) (calls : List DbCall) (handler : Option Tid) :
    (site.advance calls handler (site.ledger.applyAll calls).2).Replays := by
  have hcalls : (site.advance calls handler (site.ledger.applyAll calls).2).since.map Entry.call
      = site.since.map Entry.call ++ calls := by
    show (site.since ++ calls.map fun call => (⟨call, handler⟩ : Entry Tid)).map _ = _
    rw [List.map_append, List.map_map]
    exact congrArg _ (List.map_id calls)
  show (site.ledger.applyAll calls).2 = (site.base.applyAll (_ : List DbCall)).2
  rw [hcalls, Ledger.applyAll_append, ← h]

/-- what has been carried out stays so. -/
theorem CarriedOut.advance (h : site.CarriedOut arrival t) (calls : List DbCall)
    (handler : Option Tid) (ledger : Ledger) :
    (site.advance calls handler ledger).CarriedOut arrival t := by
  obtain ⟨before, after, hsince, hsuccess⟩ := h
  refine ⟨before, after ++ calls.map fun call => ⟨call, handler⟩, ?_, hsuccess⟩
  show site.since ++ _ = _
  rw [hsince, List.append_assoc, List.cons_append]

/-- A transfer that has just been made. -/
theorem Replays.carriedOut (h : site.Replays)
    (hsuccess : (site.ledger.apply arrival.call).1.statusCode = .success) (ledger : Ledger) :
    (site.advance [arrival.call] (some t) ledger).CarriedOut arrival t := by
  refine ⟨site.since, [], rfl, ?_⟩
  show ((site.base.applyAll (site.since.map Entry.call)).2.apply arrival.call).1.statusCode = _
  rw [← h]
  exact hsuccess

end Site

namespace Phase

variable {arrival : Arrival} {phase phase' : Phase} {ledger ledger' : Ledger}

/-- A handler's step makes the calls it says. -/
theorem step_calls
    (h : phase.step arrival.senderIp arrival.packet ledger = some (phase', ledger')) :
    ledger' = (ledger.applyAll (phase.calls arrival)).2 := by
  cases phase with
  | started => cases h; rfl
  | looked client => cases h; rfl
  | checked client status =>
      cases status with
      | valid => cases h; rfl
      | duplicate => cases h; rfl
      | outOfOrder => cases h; rfl
      | noClue => cases h; rfl
  | replied reply => cases h

/-- A handler with a success has just made its transfer. -/
theorem step_success {reply : AckPacket}
    (h : phase.step arrival.senderIp arrival.packet ledger = some (.replied reply, ledger'))
    (hreply : reply.result = "SUCCESS".toList) :
    phase.calls arrival = [arrival.call] ∧
      (ledger.apply arrival.call).1.statusCode = .success := by
  cases phase with
  | started => cases h
  | looked client => cases h
  | checked client status =>
      cases status with
      | valid =>
          cases h
          exact ⟨rfl, (transactionReply_success_iff _ _ _).mp hreply⟩
      | duplicate =>
          cases h
          exact absurd hreply (show "DUPLICATE".toList ≠ "SUCCESS".toList by decide)
      | outOfOrder =>
          cases h
          exact absurd hreply (show "OUT_OF_ORDER".toList ≠ "SUCCESS".toList by decide)
      | noClue =>
          cases h
          exact absurd hreply (show "SERVER_ERRROR".toList ≠ "SUCCESS".toList by decide)
  | replied reply => cases h

end Phase

namespace Cluster

section System

variable {n : ℕ} {Tid : Type} {peers : Peers n} {host : Tid → Fin n}
  {arrivals : Tid → Arrival} {c c' : Cluster n Tid}

/-- A handler has made its transfer and not answered yet. -/
def Pending (stage : Stage) : Prop :=
  ∃ reply, (stage = .handling (.replied reply) ∨ stage = .broadcast reply) ∧
    reply.result = "SUCCESS".toList

/-- The step does not go wrong: a server that receives another one's snapshot has
acknowledged no transfer in its term, and none is about to be answered. -/
def Admitted (peers : Peers n) (host : Tid → Fin n) (c : Cluster n Tid) :
    ClusterAction n Tid → Prop
  | .load update => Foreign peers update →
      (c.sites update.receiver).acknowledged = [] ∧
        ∀ t, host t = update.receiver → ¬ Pending (c.stages t)
  | _ => True

/-- The ledgers reflect the transfers that are about to be answered or have been. -/
structure Kept (host : Tid → Fin n) (arrivals : Tid → Arrival) (c : Cluster n Tid) : Prop where
  replays : ∀ server, (c.sites server).Replays
  pending : ∀ t, Pending (c.stages t) → (c.sites (host t)).CarriedOut (arrivals t) t
  acknowledged : ∀ server, ∀ t ∈ (c.sites server).acknowledged,
    (c.sites server).CarriedOut (arrivals t) t

/-- At the start nothing has been promised. -/
theorem kept_start (network : Network n) (ledgers : Fin n → Ledger) :
    (start network ledgers : Cluster n Tid).Kept host arrivals where
  replays _ := rfl
  pending t h := by
    obtain ⟨reply, hstage | hstage, -⟩ := h
    · cases hstage
    · cases hstage
  acknowledged _ _ h := absurd h List.not_mem_nil

/-- A broadcast changes nothing at the servers. -/
theorem broadcastIf_same {called : Prop} [Decidable called] {server : Fin n}
    {order : List (Σ _ : InAddr, ClientRecord)}
    (h : c.broadcastIf called server order = some c') :
    c'.network = c.network ∧ c'.sites = c.sites ∧ c'.stages = c.stages := by
  unfold broadcastIf at h
  split at h
  · split at h
    · cases h
      exact ⟨rfl, rfl, rfl⟩
    · cases h
  · cases h
    exact ⟨rfl, rfl, rfl⟩

/-- The sites are the same, and no handler has come to be about to answer. -/
theorem Kept.congr (h : c.Kept host arrivals) (hsites : c'.sites = c.sites)
    (hpending : ∀ t, Pending (c'.stages t) → Pending (c.stages t)) : c'.Kept host arrivals where
  replays := by
    rw [hsites]
    exact h.replays
  pending t ht := by
    rw [hsites]
    exact h.pending t (hpending t ht)
  acknowledged := by
    rw [hsites]
    exact h.acknowledged

/-- At the end of a term the server forgets what it has acknowledged in it. -/
theorem Kept.endTerms (h : c.Kept host arrivals) : c.endTerms.Kept host arrivals := by
  -- apart from what is acknowledged the sites are the same
  have hsite : ∀ server, ((c.endTerms.sites server).Replays ↔ (c.sites server).Replays) ∧
      (∀ t, (c.endTerms.sites server).CarriedOut (arrivals t) t ↔
        (c.sites server).CarriedOut (arrivals t) t) ∧
      ∀ t ∈ (c.endTerms.sites server).acknowledged, t ∈ (c.sites server).acknowledged := by
    intro server
    by_cases hrole : c.Coordinates server
    · have hsame : c.endTerms.sites server = c.sites server := if_pos hrole
      rw [hsame]
      exact ⟨Iff.rfl, fun _ => Iff.rfl, fun _ ht => ht⟩
    · have hended : c.endTerms.sites server = { c.sites server with acknowledged := [] } :=
        if_neg hrole
      rw [hended]
      exact ⟨Iff.rfl, fun _ => Iff.rfl, fun _ ht => absurd ht List.not_mem_nil⟩
  constructor
  · exact fun server => (hsite server).1.mpr (h.replays server)
  · exact fun t ht => ((hsite (host t)).2.1 t).mpr (h.pending t ht)
  · exact fun server t ht =>
      ((hsite server).2.1 t).mpr (h.acknowledged server t ((hsite server).2.2 t ht))

/-- A server carries out calls. -/
theorem Kept.advance (h : c.Kept host arrivals) {server : Fin n} {calls : List DbCall}
    {handler : Option Tid} {ledger : Ledger} {stages : Tid → Stage}
    (hledger : ledger = ((c.sites server).ledger.applyAll calls).2)
    (hpending : ∀ t, Pending (stages t) → Pending (c.stages t) ∨
      host t = server ∧
        ((c.sites server).advance calls handler ledger).CarriedOut (arrivals t) t) :
    Kept host arrivals { c.setSite server ((c.sites server).advance calls handler ledger) with
      stages := stages } := by
  constructor
  · refine forall_setSite ?_ fun other _ => h.replays other
    rw [hledger]
    exact (h.replays server).advance calls handler
  · intro t ht
    -- at its own server the handler's transfer is an old one or the one just made
    refine forall_setSite
      (P := fun other site => host t = other → site.CarriedOut (arrivals t) t)
      (fun hhost => ?_) (fun other hother hhost => ?_) (host t) rfl
    · rcases hpending t ht with hold | ⟨-, hnew⟩
      · exact (hhost ▸ h.pending t hold).advance calls handler ledger
      · exact hnew
    · rcases hpending t ht with hold | ⟨hserver, -⟩
      · exact hhost ▸ h.pending t hold
      · exact absurd (hhost.symm.trans hserver) hother
  · exact forall_setSite
      (P := fun _ site => ∀ t ∈ site.acknowledged, site.CarriedOut (arrivals t) t)
      (fun t ht => (h.acknowledged server t ht).advance calls handler ledger)
      fun other _ => h.acknowledged other

/-- A server takes over a snapshot while it has nothing to lose. -/
theorem Kept.takeOver (h : c.Kept host arrivals) {server : Fin n} (ledger : Ledger)
    (hterm : (c.sites server).acknowledged = [])
    (hnone : ∀ t, host t = server → ¬ Pending (c.stages t)) :
    (c.setSite server ((c.sites server).takeOver ledger)).Kept host arrivals := by
  constructor
  · exact forall_setSite rfl fun other _ => h.replays other
  · intro t ht
    exact forall_setSite (P := fun other site => host t = other → site.CarriedOut (arrivals t) t)
      (fun hhost => absurd ht (hnone t hhost))
      (fun other _ hhost => hhost ▸ h.pending t ht) (host t) rfl
  · refine forall_setSite
      (P := fun _ site => ∀ t ∈ site.acknowledged, site.CarriedOut (arrivals t) t)
      (fun t ht => ?_) fun other _ => h.acknowledged other
    have ht : t ∈ (c.sites server).acknowledged := ht
    rw [hterm] at ht
    exact absurd ht List.not_mem_nil

/-- A server acknowledges what it has carried out. -/
theorem Kept.acknowledge (h : c.Kept host arrivals) {server : Fin n} {acknowledged : List Tid}
    {stages : Tid → Stage}
    (hnew : ∀ t ∈ acknowledged, (c.sites server).CarriedOut (arrivals t) t)
    (hpending : ∀ t, Pending (stages t) → Pending (c.stages t)) :
    Kept host arrivals
      { c.setSite server { c.sites server with acknowledged := acknowledged } with
        stages := stages } := by
  constructor
  · exact forall_setSite (h.replays server) fun other _ => h.replays other
  · intro t ht
    have hcarried := h.pending t (hpending t ht)
    exact forall_setSite (P := fun other site => host t = other → site.CarriedOut (arrivals t) t)
      (fun hhost => hhost ▸ hcarried) (fun other _ hhost => hhost ▸ hcarried) (host t) rfl
  · exact forall_setSite
      (P := fun _ site => ∀ t ∈ site.acknowledged, site.CarriedOut (arrivals t) t)
      hnew fun other _ => h.acknowledged other

section Step

variable [DecidableEq Tid]

/-- A handler's step.

The first case is the transfer itself, if the phase is the one that makes it; the others leave the
ledger as it is. -/
theorem Kept.handlerStep (h : c.Kept host arrivals) {t : Tid}
    {order : List (Σ _ : InAddr, ClientRecord)}
    (taken : c.handlerStep host arrivals t order = some c') : c'.Kept host arrivals := by
  unfold Cluster.handlerStep at taken
  split at taken
  · -- the snapshot is broadcast
    rename_i reply hstage
    obtain ⟨middle, hbroadcast, rfl⟩ := Option.map_eq_some_iff.mp taken
    obtain ⟨-, hsites, hstages⟩ := broadcastIf_same hbroadcast
    refine h.congr hsites fun t' ht' => ?_
    have ht' : Pending (Function.update middle.stages t (.broadcast reply) t') := ht'
    rw [hstages] at ht'
    by_cases hself : t' = t
    · subst hself
      rw [Function.update_self] at ht'
      obtain ⟨reply', hreply | hreply, hsuccess⟩ := ht'
      · cases hreply
      · cases hreply
        exact ⟨reply, Or.inl hstage, hsuccess⟩
    · rwa [Function.update_of_ne hself] at ht'
  · -- the handler works on the ledger
    rename_i phase _ hstage
    obtain ⟨⟨phase', ledger⟩, hphase, rfl⟩ := Option.map_eq_some_iff.mp taken
    have hledger := Phase.step_calls hphase
    refine h.advance hledger fun t' ht' => ?_
    by_cases hself : t' = t
    · subst hself
      rw [Function.update_self] at ht'
      obtain ⟨reply', hreply | hreply, hsuccess⟩ := ht'
      · cases hreply
        obtain ⟨hcalls, hstatus⟩ := Phase.step_success hphase hsuccess
        rw [hcalls]
        exact Or.inr ⟨rfl, (h.replays (host t')).carriedOut hstatus ledger⟩
      · cases hreply
    · rw [Function.update_of_ne hself] at ht'
      exact Or.inl ht'
  · -- the handler answers
    rename_i reply hstage
    cases taken
    refine h.acknowledge (fun t' ht' => ?_) fun t' ht' => ?_
    · split at ht'
      · rename_i hanswered
        rcases List.mem_cons.mp ht' with rfl | hold
        · exact h.pending t' ⟨reply, Or.inr hstage, hanswered.1⟩
        · exact h.acknowledged (host t) t' hold
      · exact h.acknowledged (host t) t' ht'
    · by_cases hself : t' = t
      · subst hself
        rw [Function.update_self] at ht'
        obtain ⟨reply', hreply | hreply, -⟩ := ht'
        · cases hreply
        · cases hreply
      · rwa [Function.update_of_ne hself] at ht'
  · cases taken

/-- One admitted step. -/
theorem Kept.step (h : c.Kept host arrivals) {action : ClusterAction n Tid}
    (hadmitted : c.Admitted peers host action)
    (taken : c.step peers host arrivals action = some c') : c'.Kept host arrivals := by
  cases action with
  | election action order =>
      obtain ⟨⟨server, result, net⟩, -, taken⟩ := Option.bind_eq_some_iff.mp taken
      obtain ⟨middle, hbroadcast, rfl⟩ := Option.map_eq_some_iff.mp taken
      obtain ⟨-, hsites, hstages⟩ := broadcastIf_same hbroadcast
      -- the turn may end a term, no ledger has changed by it
      have hturn : Kept host arrivals { middle with network := net.after peers server result } :=
        h.congr hsites fun t ht => hstages ▸ ht
      exact hturn.endTerms
  | handler t order => exact h.handlerStep taken
  | discover server clientIp order =>
      rw [Cluster.step] at taken
      split at taken
      · obtain ⟨-, hsites, hstages⟩ := broadcastIf_same taken
        exact (h.advance rfl fun t ht => Or.inl ht).congr hsites fun t ht => hstages ▸ ht
      · cases taken
  | kill server clientIp order =>
      obtain ⟨-, hsites, hstages⟩ := broadcastIf_same taken
      exact (h.advance rfl fun t ht => Or.inl ht).congr hsites fun t ht => hstages ▸ ht
  | load update =>
      rw [Cluster.step] at taken
      split at taken
      · cases hload : (c.sites update.receiver).ledger.listenForUpdates
          (addrToString (peers.address update.receiver)) (peers.address update.sender)
            update.datagram with
        | error fault =>
            simp only [hload] at taken
            cases taken
        | ok ledger =>
            simp only [hload, Option.some.injEq] at taken
            subst taken
            by_cases hforeign : Foreign peers update
            · -- a ledger is replaced: admitted only where nothing has been answered or is about to be
              rw [if_pos hforeign]
              obtain ⟨hterm, hnone⟩ := hadmitted hforeign
              exact (h.takeOver ledger hterm hnone).congr rfl fun t ht => ht
            · rw [if_neg hforeign]
              refine h.congr ?_ fun t ht => ht
              exact Function.update_eq_self update.receiver c.sites
      · cases taken

/-- **When acknowledged transfers are kept.**  Any number of servers, any election, any
requests, registrations and removals, snapshots in any order: as long as no server
receives another one's snapshot while it has acknowledged a transfer in its term as
coordinator, or is about to answer one, the ledger of a coordinator reflects every
transfer it has acknowledged in its term. -/
theorem acknowledged_transfers_kept {network : Network n} {ledgers : Fin n → Ledger}
    {actions : List (ClusterAction n Tid)}
    (run : Runs (Cluster.step peers host arrivals) (Admitted peers host) (start network ledgers)
      actions c) (server : Fin n) (t : Tid) (hacknowledged : t ∈ (c.sites server).acknowledged) :
    (c.sites server).Reflects (arrivals t) t := by
  have hkept : c.Kept host arrivals :=
    run.invariant (Kept host arrivals) (kept_start network ledgers)
      fun _ _ _ h hadmitted taken => h.step hadmitted taken
  exact ⟨hkept.replays server, hkept.acknowledged server t hacknowledged⟩

end Step

end System

/-! ## A snapshot that comes late -/

open Network (twoPeers twoServers)
open scoped Network

instance : DecidablePred Pending := fun stage =>
  match stage with
  | .handling (.replied reply) =>
      decidable_of_iff (reply.result = "SUCCESS".toList)
        ⟨fun h => ⟨reply, Or.inl rfl, h⟩, fun ⟨_, hstage, h⟩ => by
          rcases hstage with hstage | hstage <;> cases hstage
          exact h⟩
  | .broadcast reply =>
      decidable_of_iff (reply.result = "SUCCESS".toList)
        ⟨fun h => ⟨reply, Or.inr rfl, h⟩, fun ⟨_, hstage, h⟩ => by
          rcases hstage with hstage | hstage <;> cases hstage
          exact h⟩
  | .answered _ | .handling .started | .handling (.looked _) | .handling (.checked _ _) =>
      isFalse fun ⟨_, hstage, _⟩ => by rcases hstage with hstage | hstage <;> cases hstage

/-- The handler runs on server 1. -/
def onServerOne : Unit → Fin 2 := fun _ => 1

instance (c : Cluster 2 Unit) (action : ClusterAction 2 Unit) :
    Decidable (c.Admitted twoPeers onServerOne action) :=
  match action with
  | .load update =>
      inferInstanceAs (Decidable (Foreign twoPeers update →
        (c.sites update.receiver).acknowledged = [] ∧
          ∀ t : Unit, onServerOne t = update.receiver → ¬ Pending (c.stages t)))
  | .election .. | .handler .. | .discover .. | .kill .. => inferInstanceAs (Decidable True)

/-- The snapshot of server 0 after it has registered client 1. -/
def firstSnapshot : Update 2 := ⟨0, 1, "0 0 100000 # 1.0.0.0 100000 0 ; ".toList⟩

/-- Server 0 is elected and registers client 1. -/
def firstTerm : List (ClusterAction 2 Unit) :=
  [.election (.timeout 0 0 0) [], .election (.timeout 0 200 0) [],
    .discover 0 1 [⟨1, 1, 100000, 0⟩]]

/-- Server 1 is elected, registers both clients and transfers 40 from client 1 to client
2. -/
def secondTerm : List (ClusterAction 2 Unit) :=
  [.election (.timeout 1 0 0) [], .election (.timeout 1 200 0) [],
    .election (.deliver ⟨1, 0, .coordAnnouncement, 2⟩ 0 0) [],
    .discover 1 1 [⟨1, 1, 100000, 0⟩], .discover 1 2 [⟨1, 1, 100000, 0⟩, ⟨2, 2, 100000, 0⟩],
    .handler () [], .handler () [], .handler () [],
    .handler () [⟨1, 1, 99960, 1⟩, ⟨2, 2, 100040, 0⟩], .handler () []]

/-- Two servers that have not been elected, with empty ledgers. -/
def twoSites : Cluster 2 Unit := start twoServers fun _ => Ledger.empty

/-- If the snapshot of the first term comes before the second one, the transfer is kept. -/
theorem early_snapshot_keeps_transfer : ∃ c,
    Runs (step twoPeers onServerOne fun _ => firstRequest) (Admitted twoPeers onServerOne)
      twoSites (firstTerm ++ .load firstSnapshot :: secondTerm) c ∧ c.Coordinates 1 ∧
      (c.sites 1).Reflects firstRequest () := by
  have hrun : (perform (guarded (step twoPeers onServerOne fun _ => firstRequest)
      (Admitted twoPeers onServerOne)) twoSites
      (firstTerm ++ .load firstSnapshot :: secondTerm)).any
      (fun c => decide (c.Coordinates 1 ∧ () ∈ (c.sites 1).acknowledged)) = true := by
    decide +kernel
  obtain ⟨c, run, hlast⟩ := exists_runs_of_any_guarded hrun
  obtain ⟨hrole, hacknowledged⟩ := of_decide_eq_true hlast
  exact ⟨c, run, hrole, acknowledged_transfers_kept run 1 () hacknowledged⟩

/-- **A snapshot of the last coordinator undoes an acknowledged transfer.**

The datagram is the one that server 0 sent in the first term.  Nobody has lost it or repeated it;
it was slow. -/
theorem stale_snapshot_loses_transfer : ∃ c,
    Runs (step twoPeers onServerOne fun _ => firstRequest) Always twoSites
      (firstTerm ++ secondTerm ++ [.load firstSnapshot]) c ∧ c.Coordinates 1 ∧
      () ∈ (c.sites 1).acknowledged ∧
      (c.sites 1).ledger.records.lookup 1 = some ⟨1, 100000, 0⟩ ∧
      ¬ (c.sites 1).Reflects firstRequest () := by
  have hrun : (perform (step twoPeers onServerOne fun _ => firstRequest) twoSites
      (firstTerm ++ secondTerm ++ [.load firstSnapshot])).any
      (fun c => decide (c.Coordinates 1 ∧ () ∈ (c.sites 1).acknowledged ∧
        (c.sites 1).ledger.records.lookup 1 = some ⟨1, 100000, 0⟩ ∧
        (c.sites 1).since.length = 0)) = true := by
    decide +kernel
  obtain ⟨c, run, hlast⟩ := exists_runs_of_any hrun
  obtain ⟨hrole, hacknowledged, hrecord, hsince⟩ := of_decide_eq_true hlast
  refine ⟨c, run, hrole, hacknowledged, hrecord, ?_⟩
  rintro ⟨-, before, after, heq, -⟩
  rw [heq] at hsince
  simp at hsince

end Cluster

end Brix
