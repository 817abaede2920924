import Brix.Server.Conservation

/-!
# Transfers: the exact outcome, and any order

Two results about `make_transaction` on a ledger that nobody else is using, for
every record table that the lock table matches and whose balances together fit in
64 bits.

* What one transfer does, exit by exit: the status its checks come to, and as
  numbers what each status leaves changed (`makeTransaction_outcome`).
* A list of payments that every sender could make out of its own balance comes out
  the same in every order (`payments_any_order`).  A settled payment adds to two
  records and to the totals, so payments commute whether or not they are covered
  (`settle_comm`); that all of them are covered is the invariant of the run: what a
  client has still to pay is at most what it has (`Payable`).

### What is load-bearing

`exact_move` is where the bound is used: the sum of all balances fits in 64 bits, so the sum of
two of them does, and the addition to the receiver's balance does not wrap around.  The
subtraction needs no bound, since the transfer is covered.

For the second result the balances are not looked at as numbers at all.  A payment is three
changes, each of them an addition modulo some power of two, and such changes commute (`pay_comm`).
Only that each payment is carried out depends on the numbers, and `Payable` is kept by every
payment in whatever order: the sender has its amount less and as much less to pay, and the
receiver has more.
-/

namespace Brix

open LockProgram

namespace DbManager

variable {db : DbManager} {ip senderIp receiverIp : InAddr} {transferAmount : UInt64}
  {record sender receiver : ClientRecord}

/-! ## What a transfer changes -/

/-- What both kinds of change leave alone: the locks, the sum kept of all balances,
and every record but those of `parties`. -/
structure ChangesOnly (db db' : DbManager) (parties : Set InAddr) : Prop where
  clientLocks : db'.clientLocks = db.clientLocks
  totalBalance : db'.totalBalance = db.totalBalance
  others : ∀ ip, ip ∉ parties → db'.databaseRecords.lookup ip = db.databaseRecords.lookup ip

/-- A request that is counted and not carried out. -/
structure Counted (db db' : DbManager) (senderIp : InAddr) : Prop where
  only : ChangesOnly db db' {senderIp}
  totalTransferred : db'.totalTransferred = db.totalTransferred
  numTransactions : db'.numTransactions = db.numTransactions
  sender : ∃ record, db.databaseRecords.lookup senderIp = some record ∧
    db'.databaseRecords.lookup senderIp
      = some ⟨record.ip, record.balance, record.lastRequest + 1⟩

/-- A transfer that is carried out. -/
structure Settled (db db' : DbManager) (senderIp receiverIp : InAddr)
    (transferAmount : UInt64) : Prop where
  only : ChangesOnly db db' {senderIp, receiverIp}
  totalTransferred : db'.totalTransferred = db.totalTransferred + transferAmount.toUInt32
  numTransactions : db'.numTransactions = db.numTransactions + 1
  sender : ∃ record balance, db.databaseRecords.lookup senderIp = some record ∧
    db'.databaseRecords.lookup senderIp = some ⟨record.ip, balance, record.lastRequest + 1⟩ ∧
    balance.toNat + transferAmount.toNat = record.balance.toNat
  receiver : ∃ record balance, db.databaseRecords.lookup receiverIp = some record ∧
    db'.databaseRecords.lookup receiverIp = some ⟨record.ip, balance, record.lastRequest⟩ ∧
    balance.toNat = record.balance.toNat + transferAmount.toNat

/-- What a transfer with a given status may leave. -/
def Effect (db db' : DbManager) (senderIp receiverIp : InAddr) (transferAmount : UInt64) :
    Description → Prop
  | .success => Settled db db' senderIp receiverIp transferAmount
  | .insufficientBalance => Counted db db' senderIp
  | _ => db' = db

/-- A change of one record is a change of nothing else. -/
theorem changesOnly_modify {f : ClientRecord → ClientRecord} :
    ChangesOnly db (db.modify ip f) {ip} where
  clientLocks := modify_clientLocks _ _ _
  totalBalance := by
    rw [modify]
    cases db.databaseRecords.lookup ip <;> rfl
  others := fun _ hne => lookup_modify_of_ne f hne

/-- Two changes, one after the other. -/
theorem ChangesOnly.trans {db' db'' : DbManager} {parties parties' : Set InAddr}
    (h : ChangesOnly db db' parties) (h' : ChangesOnly db' db'' parties') :
    ChangesOnly db db'' (parties ∪ parties') where
  clientLocks := h'.clientLocks.trans h.clientLocks
  totalBalance := h'.totalBalance.trans h.totalBalance
  others := fun ip hne => by
    rw [Set.mem_union, not_or] at hne
    exact (h'.others ip hne.2).trans (h.others ip hne.1)

/-- A record's change leaves the totals, -/
theorem modify_totalTransferred {f : ClientRecord → ClientRecord} :
    (db.modify ip f).totalTransferred = db.totalTransferred := by
  rw [modify]
  cases db.databaseRecords.lookup ip <;> rfl

/-- both of them. -/
theorem modify_numTransactions {f : ClientRecord → ClientRecord} :
    (db.modify ip f).numTransactions = db.numTransactions := by
  rw [modify]
  cases db.databaseRecords.lookup ip <;> rfl

/-- The receiver of a settled transfer. -/
theorem lookup_settle_receiver (hself : senderIp ≠ receiverIp)
    (hreceiver : db.databaseRecords.lookup receiverIp = some receiver) :
    (db.settle senderIp receiverIp transferAmount).databaseRecords.lookup receiverIp
      = some (receiver.credit transferAmount) :=
  lookup_modify ((lookup_modify_of_ne _ (Ne.symm hself)).trans hreceiver)

/-- A settled transfer has two parties. -/
theorem changesOnly_settle :
    ChangesOnly db (db.settle senderIp receiverIp transferAmount) {senderIp, receiverIp} := by
  have hdebit : ChangesOnly db (db.modify senderIp
    (ClientRecord.debit transferAmount ∘ ClientRecord.count)) {senderIp} := changesOnly_modify
  have h := hdebit.trans (show ChangesOnly _ (DbManager.modify _ receiverIp
    (ClientRecord.credit transferAmount)) {receiverIp} from changesOnly_modify)
  exact ⟨h.clientLocks, h.totalBalance, h.others⟩

/-- A transfer that is covered moves its amount exactly. -/
theorem exact_move (hfits : sumOfBalances db.databaseRecords < 2 ^ 64)
    (hself : senderIp ≠ receiverIp)
    (hsender : db.databaseRecords.lookup senderIp = some sender)
    (hreceiver : db.databaseRecords.lookup receiverIp = some receiver)
    (hcovered : ¬ sender.balance < transferAmount) :
    (sender.balance - transferAmount).toNat + transferAmount.toNat = sender.balance.toNat ∧
      (receiver.balance + transferAmount).toNat
        = receiver.balance.toNat + transferAmount.toNat :=
  exactTransfer_of_fits db hfits (.makeTransaction senderIp receiverIp transferAmount)
    sender receiver hsender hreceiver hself hcovered

/-- And it is exact for both. -/
theorem settled_settle (hfits : sumOfBalances db.databaseRecords < 2 ^ 64)
    (hself : senderIp ≠ receiverIp)
    (hsender : db.databaseRecords.lookup senderIp = some sender)
    (hreceiver : db.databaseRecords.lookup receiverIp = some receiver)
    (hcovered : ¬ sender.balance < transferAmount) :
    Settled db (db.settle senderIp receiverIp transferAmount) senderIp receiverIp
      transferAmount := by
  obtain ⟨hdebit, hcredit⟩ := exact_move hfits hself hsender hreceiver hcovered
  refine ⟨changesOnly_settle, ?_, ?_, ⟨sender, _, hsender, lookup_settle_sender hself hsender,
    hdebit⟩, ⟨receiver, _, hreceiver, lookup_settle_receiver hself hreceiver, hcredit⟩⟩
  · show ((db.modify _ _).modify _ _).totalTransferred + _ = _
    rw [modify_totalTransferred, modify_totalTransferred]
  · show ((db.modify _ _).modify _ _).numTransactions + _ = _
    rw [modify_numTransactions, modify_numTransactions]

/-- A request that is counted and not carried out changes one counter. -/
theorem counted_modify (hsender : db.databaseRecords.lookup senderIp = some sender) :
    Counted db (db.modify senderIp ClientRecord.count) senderIp :=
  ⟨changesOnly_modify, modify_totalTransferred, modify_numTransactions, sender, hsender,
    lookup_modify hsender⟩

/-- What the status of a transfer says about the ledger it found. -/
theorem verdict_cases (db : DbManager) (senderIp receiverIp : InAddr) (transferAmount : UInt64) :
    (db.afterTransfer senderIp receiverIp transferAmount = db ∧
      db.verdict senderIp receiverIp transferAmount ≠ .success ∧
      db.verdict senderIp receiverIp transferAmount ≠ .insufficientBalance) ∨
    ∃ sender receiver, db.databaseRecords.lookup senderIp = some sender ∧
      db.databaseRecords.lookup receiverIp = some receiver ∧ senderIp ≠ receiverIp ∧
      ((db.verdict senderIp receiverIp transferAmount = .insufficientBalance ∧
          db.afterTransfer senderIp receiverIp transferAmount
            = db.modify senderIp ClientRecord.count) ∨
        (db.verdict senderIp receiverIp transferAmount = .success ∧
          ¬ sender.balance < transferAmount ∧
          db.afterTransfer senderIp receiverIp transferAmount
            = db.settle senderIp receiverIp transferAmount)) := by
  cases hsender : db.databaseRecords.lookup senderIp with
  | none =>
      have hverdict : db.verdict senderIp receiverIp transferAmount = .unknownSender := by
        rw [verdict, hsender]
      rw [afterTransfer, hverdict]
      exact Or.inl ⟨rfl, by simp⟩
  | some sender =>
      by_cases hzero : transferAmount = 0
      · rw [afterTransfer, verdict_zero hsender hzero]
        exact Or.inl ⟨rfl, by simp⟩
      by_cases hself : senderIp = receiverIp
      · rw [afterTransfer, verdict_self hsender hzero hself]
        exact Or.inl ⟨rfl, by simp⟩
      by_cases hreceiver : receiverIp ∈ db.databaseRecords
      · obtain ⟨receiver, hlookup⟩ := Finmap.mem_iff.mp hreceiver
        refine Or.inr ⟨sender, receiver, rfl, hlookup, hself, ?_⟩
        by_cases hshort : sender.balance < transferAmount
        · rw [afterTransfer, verdict_short hsender hzero hself hreceiver hshort]
          exact Or.inl ⟨rfl, rfl⟩
        · rw [afterTransfer, verdict_covered hsender hzero hself hreceiver hshort]
          exact Or.inr ⟨rfl, hshort, rfl⟩
      · rw [afterTransfer, verdict_unknownReceiver hsender hzero hself hreceiver]
        exact Or.inl ⟨rfl, by simp⟩

/-- Exit by exit. -/
theorem effect_afterTransfer (hfits : sumOfBalances db.databaseRecords < 2 ^ 64)
    (senderIp receiverIp : InAddr) (transferAmount : UInt64) :
    Effect db (db.afterTransfer senderIp receiverIp transferAmount) senderIp receiverIp
      transferAmount (db.verdict senderIp receiverIp transferAmount) := by
  rcases db.verdict_cases senderIp receiverIp transferAmount with
    ⟨hsame, hsuccess, hshort⟩ | ⟨sender, receiver, hsender, hreceiver, hself, hcase⟩
  · rw [hsame]
    generalize db.verdict senderIp receiverIp transferAmount = status at hsuccess hshort
    cases status <;> first | rfl | contradiction
  · rcases hcase with ⟨hverdict, hafter⟩ | ⟨hverdict, hcovered, hafter⟩
    · rw [hverdict, hafter]
      exact counted_modify hsender
    · rw [hverdict, hafter]
      exact settled_settle hfits hself hsender hreceiver hcovered

/-- A registered sender is answered with its record as the transfer leaves it. -/
theorem lookup_afterTransfer (hsender : senderIp ∈ db.databaseRecords) :
    (db.afterTransfer senderIp receiverIp transferAmount).databaseRecords.lookup senderIp
      = some (db.transferResponse senderIp receiverIp transferAmount).record := by
  have hmem : senderIp ∈
      (db.afterTransfer senderIp receiverIp transferAmount).databaseRecords := by
    rcases db.verdict_cases senderIp receiverIp transferAmount with
      ⟨hsame, -, -⟩ | ⟨_, _, -, -, -, ⟨-, hafter⟩ | ⟨-, -, hafter⟩⟩
    · rwa [hsame]
    · rwa [hafter, mem_modify]
    · rw [hafter]
      exact mem_modify.mpr (mem_modify.mpr hsender)
  obtain ⟨record, hrecord⟩ := Finmap.mem_iff.mp hmem
  rw [hrecord, transferResponse, getClientInfo_record hrecord]

/-- **All or nothing.**  Alone, from any tables with the same keys whose balances fit
in 64 bits, `make_transaction` takes no mutex that it does not release, returns the
status its checks come to, leaves exactly what goes with that status, and hands a
registered sender its record as it is left.

It is put together from `solo_makeTransaction`, which says what is left as an equation, and from
`effect_afterTransfer`, which says what that means in numbers. -/
theorem makeTransaction_outcome (hkeys : db.clientLocks = db.databaseRecords.keys)
    (hfits : sumOfBalances db.databaseRecords < 2 ^ 64) (senderIp receiverIp : InAddr)
    (transferAmount : UInt64) :
    ∃ response db',
      (makeTransaction senderIp receiverIp transferAmount).solo db ∅
        = some (.returned response, db', ∅) ∧
      response.statusCode = db.verdict senderIp receiverIp transferAmount ∧
      Effect db db' senderIp receiverIp transferAmount response.statusCode ∧
      (senderIp ∈ db.databaseRecords →
        db'.databaseRecords.lookup senderIp = some response.record) :=
  ⟨_, _, solo_makeTransaction hkeys senderIp receiverIp transferAmount, rfl,
    effect_afterTransfer hfits senderIp receiverIp transferAmount, lookup_afterTransfer⟩

end DbManager

/-- Two clients that have moved money before. -/
def twoBalances : DbManager where
  clientLocks := {1, 2}
  databaseRecords := (Finmap.singleton 1 ⟨1, 70, 4⟩).insert 2 ⟨2, 30, 9⟩
  totalTransferred := 500
  numTransactions := 13
  totalBalance := 100

namespace DbManager

/-- A transfer between them. -/
theorem twoBalances_outcome :
    ∃ response db', (makeTransaction 1 2 45).solo twoBalances ∅
        = some (.returned response, db', ∅) ∧
      response.statusCode = .success ∧ Settled twoBalances db' 1 2 45 ∧
      db'.databaseRecords.lookup 1 = some response.record := by
  obtain ⟨response, db', hsolo, hstatus, heffect, hrecord⟩ :=
    makeTransaction_outcome (show twoBalances.clientLocks = _ by decide) (by decide) 1 2 45
  have hverdict : twoBalances.verdict 1 2 45 = .success := by decide
  rw [hverdict] at hstatus
  rw [hstatus] at heffect
  exact ⟨response, db', hsolo, hstatus, heffect, hrecord (by decide)⟩

end DbManager

/-! ## Payments commute -/

/-- Both things that a payment does to a record: add to the balance, modulo `2 ^ 64`,
and count requests. -/
def ClientRecord.shift (change : UInt64) (requests : UInt32) (record : ClientRecord) :
    ClientRecord :=
  ⟨record.ip, record.balance + change, record.lastRequest + requests⟩

/-- What a payment does to its sender is one shift, -/
theorem ClientRecord.debit_comp_count (amount : UInt64) :
    ClientRecord.debit amount ∘ ClientRecord.count = ClientRecord.shift (-amount) 1 := by
  funext record
  simp only [Function.comp_apply, ClientRecord.debit, ClientRecord.count, ClientRecord.shift,
    UInt64.sub_eq_add_neg]

/-- and what it does to its receiver is another one. -/
theorem ClientRecord.credit_eq_shift (amount : UInt64) :
    ClientRecord.credit amount = ClientRecord.shift amount 0 := by
  funext record
  simp only [ClientRecord.credit, ClientRecord.shift, UInt32.add_zero]

/-- Shifts commute, since additions do. -/
theorem ClientRecord.shift_comm (change change' : UInt64) (requests requests' : UInt32) :
    Function.Commute (ClientRecord.shift change requests)
      (ClientRecord.shift change' requests') := by
  intro record
  have hbalance : record.balance + change' + change = record.balance + change + change' := by
    rw [UInt64.add_assoc, UInt64.add_comm change', ← UInt64.add_assoc]
  have hrequests : record.lastRequest + requests' + requests
      = record.lastRequest + requests + requests' := by
    rw [UInt32.add_assoc, UInt32.add_comm requests', ← UInt32.add_assoc]
  simp only [ClientRecord.shift, hbalance, hrequests]

namespace DbManager

variable {db : DbManager} {ip ip' : InAddr} {f g : ClientRecord → ClientRecord}

/-- So do changes of two records, or of one if they commute themselves, -/
theorem modify_comm (h : Function.Commute f g) :
    Function.Commute (fun db : DbManager => db.modify ip f) fun db => db.modify ip' g := by
  intro db
  show (db.modify ip' g).modify ip f = (db.modify ip f).modify ip' g
  by_cases hip : ip = ip'
  · subst hip
    rw [modify_modify, modify_modify, h.comp_eq]
  cases hrecord : db.databaseRecords.lookup ip with
  | none =>
      rw [modify_of_notMem f hrecord,
        modify_of_notMem f ((lookup_modify_of_ne g hip).trans hrecord)]
  | some record =>
      cases hrecord' : db.databaseRecords.lookup ip' with
      | none =>
          rw [modify_of_notMem g hrecord',
            modify_of_notMem g ((lookup_modify_of_ne f (Ne.symm hip)).trans hrecord')]
      | some record' =>
          rw [modify_of_mem f ((lookup_modify_of_ne g hip).trans hrecord),
            modify_of_mem g ((lookup_modify_of_ne f (Ne.symm hip)).trans hrecord'),
            modify_of_mem f hrecord, modify_of_mem g hrecord', setRecords_setRecords,
            setRecords_setRecords, setRecords_databaseRecords, setRecords_databaseRecords,
            Finmap.insert_insert_of_ne _ hip]

/-- the totals and a record, -/
theorem countTransfer_modify_comm (transferAmount : UInt64) :
    Function.Commute (fun db : DbManager => db.countTransfer transferAmount)
      fun db => db.modify ip f := by
  intro db
  show (db.modify ip f).countTransfer transferAmount
    = (db.countTransfer transferAmount).modify ip f
  cases hrecord : db.databaseRecords.lookup ip with
  | none =>
      have hrecord' : (db.countTransfer transferAmount).databaseRecords.lookup ip = none := hrecord
      rw [modify_of_notMem f hrecord, modify_of_notMem f hrecord']
  | some record =>
      have hrecord' : (db.countTransfer transferAmount).databaseRecords.lookup ip = some record :=
        hrecord
      rw [modify_of_mem f hrecord, modify_of_mem f hrecord']
      rfl

/-- and the totals twice. -/
theorem countTransfer_comm (transferAmount transferAmount' : UInt64) :
    Function.Commute (fun db : DbManager => db.countTransfer transferAmount)
      fun db => db.countTransfer transferAmount' := by
  intro db
  have htotal : db.totalTransferred + transferAmount'.toUInt32 + transferAmount.toUInt32
      = db.totalTransferred + transferAmount.toUInt32 + transferAmount'.toUInt32 := by
    rw [UInt32.add_assoc, UInt32.add_comm transferAmount'.toUInt32, ← UInt32.add_assoc]
  simp only [countTransfer, htotal]

end DbManager

/-- A payment from one client to another. -/
structure Payment where
  senderIp : InAddr
  receiverIp : InAddr
  amount : UInt64
  deriving DecidableEq, Repr

namespace Payment

/-- The call that makes a payment. -/
def call (payment : Payment) : DbCall :=
  .makeTransaction payment.senderIp payment.receiverIp payment.amount

/-- The state a payment leaves when it is covered. -/
def pay (db : DbManager) (payment : Payment) : DbManager :=
  db.settle payment.senderIp payment.receiverIp payment.amount

/-- A payment is three changes, one after the other. -/
theorem pay_eq (payment : Payment) :
    (fun db => pay db payment)
      = (fun db : DbManager => db.countTransfer payment.amount) ∘
        (fun db => db.modify payment.receiverIp (ClientRecord.shift payment.amount 0)) ∘
        fun db => db.modify payment.senderIp (ClientRecord.shift (-payment.amount) 1) := by
  funext db
  rw [pay, DbManager.settle, ClientRecord.debit_comp_count, ClientRecord.credit_eq_shift]
  rfl

/-- A change of one record commutes with a payment. -/
theorem modify_pay_comm (ip : InAddr) (change : UInt64) (requests : UInt32) (payment : Payment) :
    Function.Commute (fun db : DbManager => db.modify ip (ClientRecord.shift change requests))
      fun db => pay db payment := by
  rw [pay_eq]
  exact (DbManager.countTransfer_modify_comm _).symm.comp_right
    ((DbManager.modify_comm (ClientRecord.shift_comm _ _ _ _)).comp_right
      (DbManager.modify_comm (ClientRecord.shift_comm _ _ _ _)))

/-- So does a change of the totals. -/
theorem countTransfer_pay_comm (transferAmount : UInt64) (payment : Payment) :
    Function.Commute (fun db : DbManager => db.countTransfer transferAmount)
      fun db => pay db payment := by
  rw [pay_eq]
  exact (DbManager.countTransfer_comm _ _).comp_right
    ((DbManager.countTransfer_modify_comm _).comp_right
      (DbManager.countTransfer_modify_comm _))

/-- **Payments commute.** -/
theorem pay_comm (payment payment' : Payment) :
    Function.Commute (fun db => pay db payment) fun db => pay db payment' := by
  rw [pay_eq payment]
  exact (countTransfer_pay_comm _ _).comp_left
    ((modify_pay_comm _ _ _ _).comp_left (modify_pay_comm _ _ _ _))

/-- What a client is to pay in all. -/
def outgoing (payments : List Payment) (ip : InAddr) : ℕ :=
  (payments.map fun payment => if payment.senderIp = ip then payment.amount.toNat else 0).sum

/-- The first payment counts if it is the client's own. -/
theorem outgoing_cons (payment : Payment) (payments : List Payment) (ip : InAddr) :
    outgoing (payment :: payments) ip
      = (if payment.senderIp = ip then payment.amount.toNat else 0) + outgoing payments ip := by
  rw [outgoing, List.map_cons, List.sum_cons, outgoing]

/-- The order of the payments does not change what a client is to pay. -/
theorem outgoing_perm {payments payments' : List Payment} (h : payments.Perm payments')
    (ip : InAddr) : outgoing payments ip = outgoing payments' ip :=
  (h.map _).sum_eq

end Payment

/-- Payments between different registered clients, each of whom could make all of its
own out of the balance it has. -/
structure DbManager.Payable (db : DbManager) (payments : List Payment) : Prop where
  parties : ∀ payment ∈ payments, payment.senderIp ∈ db.databaseRecords ∧
    payment.receiverIp ∈ db.databaseRecords ∧ payment.senderIp ≠ payment.receiverIp ∧
    0 < payment.amount
  covered : ∀ ip record, db.databaseRecords.lookup ip = some record →
    Payment.outgoing payments ip ≤ record.balance.toNat

namespace DbManager

variable {db : DbManager} {payment : Payment} {payments : List Payment}

/-- Whether payments can be made does not depend on their order. -/
theorem Payable.perm (h : db.Payable payments) {payments' : List Payment}
    (hperm : payments'.Perm payments) : db.Payable payments' where
  parties := fun payment hmem => h.parties payment (hperm.mem_iff.mp hmem)
  covered := fun ip record hrecord => by
    rw [Payment.outgoing_perm hperm]
    exact h.covered ip record hrecord

/-- The first of the payments is carried out. -/
theorem Payable.verdict_head (h : db.Payable (payment :: payments)) :
    ∃ sender receiver, db.databaseRecords.lookup payment.senderIp = some sender ∧
      db.databaseRecords.lookup payment.receiverIp = some receiver ∧
      ¬ sender.balance < payment.amount ∧
      db.verdict payment.senderIp payment.receiverIp payment.amount = .success := by
  obtain ⟨hsender, hreceiver, hself, hpositive⟩ := h.parties payment List.mem_cons_self
  obtain ⟨sender, hlookup⟩ := Finmap.mem_iff.mp hsender
  obtain ⟨receiver, hlookup'⟩ := Finmap.mem_iff.mp hreceiver
  have hcovered := h.covered payment.senderIp sender hlookup
  rw [Payment.outgoing_cons, if_pos rfl] at hcovered
  have hle : ¬ sender.balance < payment.amount := by
    rw [UInt64.lt_iff_toNat_lt]
    omega
  have hzero : payment.amount ≠ 0 := by
    rintro hzero
    rw [hzero] at hpositive
    exact absurd hpositive (by decide)
  exact ⟨sender, receiver, hlookup, hlookup', hle,
    verdict_covered hlookup hzero hself hreceiver hle⟩

/-- A covered payment keeps the sum of all balances. -/
theorem sumOfBalances_pay (hfits : sumOfBalances db.databaseRecords < 2 ^ 64)
    (h : db.Payable (payment :: payments)) :
    sumOfBalances (payment.pay db).databaseRecords = sumOfBalances db.databaseRecords := by
  obtain ⟨sender, receiver, hsender, hreceiver, hcovered, -⟩ := h.verdict_head
  obtain ⟨-, -, hself, -⟩ := h.parties payment List.mem_cons_self
  obtain ⟨hdebit, hcredit⟩ := exact_move hfits hself hsender hreceiver hcovered
  have hother := (lookup_modify_of_ne (ClientRecord.debit payment.amount ∘ ClientRecord.count)
    (Ne.symm hself)).trans hreceiver
  have hrecords : (payment.pay db).databaseRecords
      = (db.databaseRecords.insert payment.senderIp
          (sender.count.debit payment.amount)).insert payment.receiverIp
          (receiver.credit payment.amount) := by
    show ((db.modify _ _).modify _ _).databaseRecords = _
    rw [modify_of_mem _ hother, modify_of_mem _ hsender]
    rfl
  rw [sumOfBalances, sumOfBalances, hrecords]
  exact Finmap.total_move (fun record : ClientRecord => record.balance.toNat) hself hsender
    hreceiver hdebit hcredit

/-- After the first payment the others can still be made: its sender has its amount
less and as much less to pay, its receiver has more. -/
theorem Payable.tail (hfits : sumOfBalances db.databaseRecords < 2 ^ 64)
    (h : db.Payable (payment :: payments)) : (payment.pay db).Payable payments := by
  obtain ⟨sender, receiver, hsender, hreceiver, hcovered, -⟩ := h.verdict_head
  obtain ⟨-, -, hself, -⟩ := h.parties payment List.mem_cons_self
  obtain ⟨hdebit, hcredit⟩ := exact_move hfits hself hsender hreceiver hcovered
  have hmem (ip : InAddr) :
      ip ∈ (payment.pay db).databaseRecords ↔ ip ∈ db.databaseRecords :=
    mem_modify.trans mem_modify
  refine ⟨?_, ?_⟩
  · intro other hother
    rw [hmem, hmem]
    exact h.parties other (List.mem_cons_of_mem _ hother)
  · intro ip record hrecord
    -- the payer has less to pay by what it paid, the payee only more to pay it from
    by_cases hpays : ip = payment.senderIp
    · subst hpays
      rw [Payment.pay, lookup_settle_sender hself hsender, Option.some.injEq] at hrecord
      have hbefore := h.covered _ sender hsender
      rw [Payment.outgoing_cons, if_pos rfl] at hbefore
      subst hrecord
      show _ ≤ (sender.balance - payment.amount).toNat
      omega
    · by_cases hpaid : ip = payment.receiverIp
      · subst hpaid
        rw [Payment.pay, lookup_settle_receiver hself hreceiver, Option.some.injEq] at hrecord
        have hbefore := h.covered _ receiver hreceiver
        rw [Payment.outgoing_cons, if_neg hself, Nat.zero_add] at hbefore
        subst hrecord
        show _ ≤ (receiver.balance + payment.amount).toNat
        omega
      · have hsame : (payment.pay db).databaseRecords.lookup ip = db.databaseRecords.lookup ip :=
          changesOnly_settle.others ip (not_or.mpr ⟨hpays, hpaid⟩)
        rw [hsame] at hrecord
        have hbefore := h.covered ip record hrecord
        rw [Payment.outgoing_cons, if_neg (Ne.symm hpays), Nat.zero_add] at hbefore
        exact hbefore

/-- The entry of a call that was carried out. -/
def CarriedOut (entry : DbCall × Outcome) : Prop :=
  ∃ response, entry.2 = .returned response ∧ response.statusCode = .success

/-- A run of payments that are covered carries each of them out. -/
theorem callAll_payments (hkeys : db.clientLocks = db.databaseRecords.keys)
    (hfits : sumOfBalances db.databaseRecords < 2 ^ 64) (h : db.Payable payments) :
    ∃ log, db.callAll (payments.map Payment.call) = some (log, payments.foldl Payment.pay db) ∧
      log.map Prod.fst = payments.map Payment.call ∧ ∀ entry ∈ log, CarriedOut entry := by
  induction payments generalizing db with
  | nil => exact ⟨[], rfl, rfl, by simp⟩
  | cons payment payments ih =>
      obtain ⟨_, _, -, -, -, hverdict⟩ := h.verdict_head
      have hafter : db.afterTransfer payment.senderIp payment.receiverIp payment.amount
          = payment.pay db := by
        rw [afterTransfer, hverdict, Payment.pay]
      have halone : payment.call.alone db
          = some (.returned (db.transferResponse payment.senderIp payment.receiverIp
              payment.amount), payment.pay db) := by
        rw [DbCall.alone, Payment.call, DbCall.body, solo_makeTransaction hkeys, hafter]
        exact if_pos rfl
      have hkeys' : (payment.pay db).clientLocks = (payment.pay db).databaseRecords.keys := by
        show ((db.modify _ _).modify _ _).clientLocks
          = ((db.modify _ _).modify _ _).databaseRecords.keys
        rw [modify_clientLocks, modify_clientLocks, modify_keys, modify_keys, hkeys]
      obtain ⟨log, hlog, hcalls, hdone⟩ :=
        ih hkeys' (by rwa [sumOfBalances_pay hfits h]) (h.tail hfits)
      refine ⟨(payment.call, .returned (db.transferResponse payment.senderIp payment.receiverIp
        payment.amount)) :: log, ?_, ?_, ?_⟩
      · rw [List.map_cons, callAll, halone, Option.bind_some]
        simp only [hlog, Option.map_some, List.foldl_cons]
      · rw [List.map_cons, List.map_cons, hcalls]
      · intro entry hentry
        rcases List.mem_cons.mp hentry with rfl | hentry
        · exact ⟨_, rfl, hverdict⟩
        · exact hdone entry hentry

/-- **Order independence.**  Payments that their senders could all make are carried
out in every order, and leave the same state in every order.

That the final state does not depend on the order is true of any payments (`pay_comm`).  That all
of them are carried out in every order is where `Payable` is needed, and it does not depend on the
order itself (`Payable.perm`). -/
theorem payments_any_order (hkeys : db.clientLocks = db.databaseRecords.keys)
    (hfits : sumOfBalances db.databaseRecords < 2 ^ 64) (h : db.Payable payments) :
    ∃ final, ∀ order : List Payment, order.Perm payments →
      ∃ log, db.callAll (order.map Payment.call) = some (log, final) ∧
        log.map Prod.fst = order.map Payment.call ∧ ∀ entry ∈ log, CarriedOut entry := by
  refine ⟨payments.foldl Payment.pay db, ?_⟩
  intro order hperm
  have hsame : order.foldl Payment.pay db = payments.foldl Payment.pay db :=
    hperm.foldl_eq' (fun payment _ payment' _ db => Payment.pay_comm payment' payment db) db
  rw [← hsame]
  exact callAll_payments hkeys hfits (h.perm hperm)

/-- The second payment is covered whether or not the first has come in. -/
def crossPayments : List Payment := [⟨1, 2, 60⟩, ⟨2, 1, 30⟩, ⟨1, 2, 10⟩]

/-- Each of the two could pay all of its own at once. -/
theorem twoBalances_payable : twoBalances.Payable crossPayments where
  parties := by decide
  covered := by
    intro ip record hrecord
    by_cases htwo : ip = 2
    · subst htwo
      cases hrecord
      decide
    by_cases hone : ip = 1
    · subst hone
      cases hrecord
      decide
    have hnone : twoBalances.databaseRecords.lookup ip = none := by
      show ((Finmap.singleton 1 _).insert 2 _).lookup ip = none
      rw [Finmap.lookup_insert_of_ne _ htwo]
      exact Finmap.lookup_eq_none.mpr fun h => hone (Finmap.mem_singleton _ _ _ |>.mp h)
    rw [hnone] at hrecord
    cases hrecord

/-- Payments that cross, in whatever order. -/
theorem crossPayments_any_order :
    ∃ final, ∀ order : List Payment, order.Perm crossPayments →
      ∃ log, twoBalances.callAll (order.map Payment.call) = some (log, final) ∧
        log.map Prod.fst = order.map Payment.call ∧ ∀ entry ∈ log, CarriedOut entry :=
  payments_any_order (by decide) (by decide) twoBalances_payable

end DbManager

end Brix
