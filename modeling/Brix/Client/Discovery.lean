import Brix.Common.Sockets

/-!
# Looking for the server

`client_discovery_protocol` and `extract_ip_and_port_from_response`.  A broadcast is sent up to
`max_retries` times, and every time one datagram or a timeout is waited for.  The first answer
that can be read ends the search.  The outputs are written then and only then.

### The design

The arrivals of a search are given, one for each attempt, and may be a timeout, an answer, or
anything else from anybody.  What the search does with them it does in order, and it stops at the
first one that it can read.

### What is load-bearing

A datagram that cannot be read is not harmless, because `recvfrom` has written its source over the
address that the search broadcasts to.  `Undiverted` says of a sequence of arrivals that this does
not matter: the bytes that are written are those that were there, or no attempt follows.
-/

namespace Brix

open Text

namespace Discovery

/-- The size of the receive buffer. -/
def MAXLINE : ℕ := 2048

end Discovery

/-- The results of `extract_ip_and_port_from_response` but 0.  `NULL` pointers are never
passed. -/
inductive ExtractError
  | notLocMsg
  | invalidIp
  | invalidPort
  | invalidFormat
  deriving DecidableEq, Repr

/-- `extract_ip_and_port_from_response`: the outputs, or the error. -/
def extractIpAndPortFromResponse (response : Text) : Except ExtractError (Text × Int32) :=
  if response.take 3 ≠ "LOC".toList then .error .notLocMsg
  else
    match strtok ' ' response with
    | _ :: ipStr :: portStr :: last :: _ =>
        if last ≠ "END".toList then .error .invalidFormat
        else if inetPton ipStr = none then .error .invalidIp
        else if atoi portStr ≤ 0 ∨ 65535 < atoi portStr then .error .invalidPort
        else .ok (ipStr, atoi portStr)
    | _ => .error .invalidFormat

/-- The value of a result other than 0. -/
def ExtractError.code : ExtractError → Int32
  | notLocMsg => -1
  | invalidIp => -2
  | invalidPort => -3
  | invalidFormat => -4

/-- An error is not reported as a success. -/
theorem ExtractError.code_ne_zero (problem : ExtractError) : problem.code ≠ 0 := by
  cases problem <;> decide

/-- A call of `extract_ip_and_port_from_response`: its result, and what its outputs hold then. -/
def extractInto (response : Text) (returnIp : Text) (returnPort : Int32) :
    Int32 × Text × Int32 :=
  match extractIpAndPortFromResponse response with
  | .ok (ipStr, port) => (0, ipStr, port)
  | .error problem => (problem.code, returnIp, returnPort)

/-- What a search comes to: where its broadcasts went, and the outputs if it returns 0. -/
structure Discovered where
  sent : List SockAddr
  found : Option (Text × Int32)

/-- The loop of `client_discovery_protocol`, with what arrives at each attempt. -/
def discoveryAttempts (servaddr : SockAddr) (len : Int32) : List (Option Datagram) → Discovered
  | [] => ⟨[], none⟩
  | arrival :: rest =>
      let receipt := recvfrom servaddr len arrival
      match receipt.text.map fun text =>
          extractIpAndPortFromResponse (inBuffer Discovery.MAXLINE text) with
      | some (.ok found) => ⟨[servaddr], some found⟩
      | _ =>
          let later := discoveryAttempts receipt.address receipt.len rest
          ⟨servaddr :: later.sent, later.found⟩

/-- The first `max_retries` arrivals; there are no attempts if it is not positive. -/
def firstArrivals (maxRetries : Int32) (arrivals : ℕ → Option Datagram) :
    List (Option Datagram) :=
  (List.range maxRetries.toInt.toNat).map arrivals

/-- `client_discovery_protocol`; `len` is what its uninitialised `len` happens to be. -/
def clientDiscoveryProtocol (broadcastIp : Text) (broadcastPort maxRetries : Int32)
    (len : Int32) (arrivals : ℕ → Option Datagram) : Discovered :=
  discoveryAttempts (createSockaddr broadcastIp broadcastPort) len
    (firstArrivals maxRetries arrivals)

/-- What a datagram says about where the server is. -/
def Datagram.answer (datagram : Datagram) : Option (Text × Int32) :=
  (extractIpAndPortFromResponse (inBuffer Discovery.MAXLINE datagram.text)).toOption

section Search

variable {address : SockAddr} {len : Int32} {datagram : Datagram}
  {arrivals : List (Option Datagram)}

/-- An attempt at which nothing arrives. -/
theorem discoveryAttempts_timedOut (rest : List (Option Datagram)) :
    discoveryAttempts address len (none :: rest)
      = ⟨address :: (discoveryAttempts address len rest).sent,
        (discoveryAttempts address len rest).found⟩ := by
  rw [discoveryAttempts]
  rfl

/-- An attempt with a length below zero, whatever arrives. -/
theorem discoveryAttempts_failed (hlen : len < 0) (arrival : Option Datagram)
    (rest : List (Option Datagram)) :
    discoveryAttempts address len (arrival :: rest)
      = ⟨address :: (discoveryAttempts address len rest).sent,
        (discoveryAttempts address len rest).found⟩ := by
  rw [discoveryAttempts, recvfrom_of_neg hlen]
  rfl

/-- An attempt whose answer can be read is the last one. -/
theorem discoveryAttempts_answered (hlen : ¬ len < 0) {found : Text × Int32}
    (hanswer : datagram.answer = some found) (rest : List (Option Datagram)) :
    discoveryAttempts address len (some datagram :: rest) = ⟨[address], some found⟩ := by
  rw [discoveryAttempts, recvfrom_text hlen]
  simp only [Option.map_some]
  rw [Datagram.answer] at hanswer
  cases hread : extractIpAndPortFromResponse (inBuffer Discovery.MAXLINE datagram.text) with
  | error problem =>
      rw [hread] at hanswer
      cases hanswer
  | ok found' =>
      rw [hread] at hanswer
      cases hanswer
      rfl

/-- After one whose answer cannot be read, the next broadcast goes where `recvfrom` says. -/
theorem discoveryAttempts_unreadable (hlen : ¬ len < 0) (hanswer : datagram.answer = none)
    (rest : List (Option Datagram)) :
    discoveryAttempts address len (some datagram :: rest)
      = ⟨address :: (discoveryAttempts (recvfrom address len (some datagram)).address 16
          rest).sent,
        (discoveryAttempts (recvfrom address len (some datagram)).address 16 rest).found⟩ := by
  rw [discoveryAttempts, recvfrom_text hlen, recvfrom_len hlen]
  simp only [Option.map_some]
  rw [Datagram.answer] at hanswer
  cases hread : extractIpAndPortFromResponse (inBuffer Discovery.MAXLINE datagram.text) with
  | error problem => rfl
  | ok found =>
      rw [hread] at hanswer
      cases hanswer

/-- With a length below zero every attempt fails, whatever arrives. -/
theorem discoveryAttempts_of_neg (hlen : len < 0) :
    (discoveryAttempts address len arrivals).found = none := by
  induction arrivals with
  | nil => rfl
  | cons arrival rest ih =>
      rw [discoveryAttempts_failed hlen]
      exact ih

/-- With any other, the first answer that can be read is the one. -/
theorem discoveryAttempts_of_nonneg (hlen : ¬ len < 0) :
    (discoveryAttempts address len arrivals).found
      = arrivals.findSome? fun arrival => arrival.bind Datagram.answer := by
  induction arrivals generalizing address len with
  | nil => rfl
  | cons arrival rest ih =>
      cases arrival with
      | none =>
          rw [discoveryAttempts_timedOut]
          exact ih hlen
      | some datagram =>
          rw [List.findSome?_cons, Option.bind_some]
          cases hanswer : datagram.answer with
          | none =>
              rw [discoveryAttempts_unreadable hlen hanswer]
              exact ih (by decide)
          | some found => rw [discoveryAttempts_answered hlen hanswer]

end Search

/-- What a search finds: the outputs are those of the first answer that can be read among the
first `max_retries` arrivals; the addresses that the datagrams come from do not matter. -/
theorem clientDiscoveryProtocol_found (broadcastIp : Text) (broadcastPort maxRetries : Int32)
    (len : Int32) (arrivals : ℕ → Option Datagram) :
    (clientDiscoveryProtocol broadcastIp broadcastPort maxRetries len arrivals).found
      = if len < 0 then none else
        (firstArrivals maxRetries arrivals).findSome? fun arrival =>
          arrival.bind Datagram.answer := by
  split
  · rename_i hlen
    exact discoveryAttempts_of_neg hlen
  · rename_i hlen
    exact discoveryAttempts_of_nonneg hlen

/-! ## The broadcasts -/

/-- No unreadable datagram leads the broadcasts astray: if another attempt comes after it, its
source agrees with the broadcast address in the bytes that `recvfrom` lets through.  These are
`len` for the first datagram of all, and all of them later. -/
def Undiverted (target : SockAddr) (len : Int32) (arrivals : List (Option Datagram)) : Prop :=
  ∀ before datagram next after, arrivals = before ++ some datagram :: next :: after →
    (∀ arrival ∈ before, arrival.bind Datagram.answer = none) → datagram.answer = none →
      ∀ i : Fin 16, ((i.val : ℤ) < len.toInt ∨ ∃ earlier, some earlier ∈ before) →
        datagram.source i = target i

section Broadcasts

variable {target : SockAddr} {len : Int32} {arrivals : List (Option Datagram)}
  {datagram : Datagram}

/-- The first broadcast goes to the address there is. -/
theorem discoveryAttempts_sent_cons (address : SockAddr) (len : Int32) (arrival : Option Datagram)
    (rest : List (Option Datagram)) :
    ∃ later, (discoveryAttempts address len (arrival :: rest)).sent = address :: later := by
  rw [discoveryAttempts]
  split
  · exact ⟨[], rfl⟩
  · exact ⟨_, rfl⟩

/-- There is at most one broadcast for each attempt. -/
theorem length_sent_le (address : SockAddr) (len : Int32) (arrivals : List (Option Datagram)) :
    (discoveryAttempts address len arrivals).sent.length ≤ arrivals.length := by
  induction arrivals generalizing address len with
  | nil => exact Nat.le_refl 0
  | cons arrival rest ih =>
      rw [discoveryAttempts]
      split
      · exact Nat.le_add_left 1 _
      · exact Nat.succ_le_succ (ih _ _)

/-- With a length below zero nothing is received, and nothing diverted. -/
theorem sent_of_neg (hlen : len < 0) :
    ∀ dest ∈ (discoveryAttempts target len arrivals).sent, dest = target := by
  induction arrivals with
  | nil => simp [discoveryAttempts]
  | cons arrival rest ih =>
      rw [discoveryAttempts_failed hlen]
      exact List.forall_mem_cons.mpr ⟨rfl, ih⟩

/-- A timeout writes nothing, -/
theorem undiverted_none {rest : List (Option Datagram)} :
    Undiverted target len (none :: rest) ↔ Undiverted target len rest := by
  constructor
  · intro h before datagram next after heq hbefore hanswer i hi
    refine h (none :: before) datagram next after (by rw [heq]; rfl) ?_ hanswer i ?_
    · exact List.forall_mem_cons.mpr ⟨rfl, hbefore⟩
    · exact hi.imp_right fun ⟨earlier, hmem⟩ => ⟨earlier, List.mem_cons_of_mem _ hmem⟩
  · intro h before datagram next after heq hbefore hanswer i hi
    cases before with
    | nil => cases heq
    | cons arrival before =>
        obtain ⟨rfl, hrest⟩ := List.cons.inj heq
        refine h before datagram next after hrest
          (fun arrival hmem => hbefore arrival (List.mem_cons_of_mem _ hmem)) hanswer i ?_
        exact hi.imp_right fun ⟨earlier, hmem⟩ =>
          ⟨earlier, (List.mem_cons.mp hmem).resolve_left (by simp)⟩

/-- after an answer there are no more attempts, -/
theorem undiverted_of_answer (hanswer : datagram.answer ≠ none) {rest : List (Option Datagram)} :
    Undiverted target len (some datagram :: rest) := by
  intro before datagram' next after heq hbefore hanswer'
  cases before with
  | nil =>
      cases heq
      exact absurd hanswer' hanswer
  | cons arrival before =>
      obtain ⟨rfl, -⟩ := List.cons.inj heq
      exact absurd (hbefore _ List.mem_cons_self) hanswer

/-- and after the last one neither. -/
theorem undiverted_single (arrival : Option Datagram) : Undiverted target len [arrival] := by
  intro before datagram next after heq
  cases before with
  | nil => cases heq
  | cons arrival before => simp at heq

/-- Anything else must be from where the search is sent to anyway, as far as the length lets it be
written. -/
theorem undiverted_of_unreadable (hanswer : datagram.answer = none) (next : Option Datagram)
    (rest : List (Option Datagram)) :
    Undiverted target len (some datagram :: next :: rest) ↔
      (∀ i : Fin 16, (i.val : ℤ) < len.toInt → datagram.source i = target i) ∧
        Undiverted target 16 (next :: rest) := by
  constructor
  · intro h
    refine ⟨fun i hi => h [] datagram next rest rfl (by simp) hanswer i (Or.inl hi), ?_⟩
    intro before datagram' next' after heq hbefore hanswer' i _
    exact h (some datagram :: before) datagram' next' after (by rw [heq]; rfl)
      (List.forall_mem_cons.mpr ⟨hanswer, hbefore⟩) hanswer' i
      (Or.inr ⟨datagram, List.mem_cons_self⟩)
  · rintro ⟨hfirst, h⟩ before datagram' next' after heq hbefore hanswer' i hi
    cases before with
    | nil =>
        cases heq
        exact hfirst i (hi.resolve_right (by simp))
    | cons arrival before =>
        obtain ⟨rfl, hrest⟩ := List.cons.inj heq
        have hsixteen : (i.val : ℤ) < (16 : Int32).toInt := by
          have hlt := i.isLt
          have hvalue : (16 : Int32).toInt = 16 := rfl
          omega
        exact h before datagram' next' after hrest
          (fun arrival hmem => hbefore arrival (List.mem_cons_of_mem _ hmem)) hanswer' i
          (Or.inl hsixteen)

/-- **When the broadcasts keep going where they should.**

The induction is on the arrivals.  The length is given for the first attempt only: after the first
datagram it is that of an address, so from then on the whole address is overwritten. -/
theorem sent_to_target_iff (hlen : ¬ len < 0) :
    (∀ dest ∈ (discoveryAttempts target len arrivals).sent, dest = target) ↔
      Undiverted target len arrivals := by
  induction arrivals generalizing len with
  | nil =>
      refine iff_of_true (by simp [discoveryAttempts]) ?_
      intro before datagram next after heq
      simp at heq
  | cons arrival rest ih =>
      cases arrival with
      | none =>
          rw [discoveryAttempts_timedOut, List.forall_mem_cons, undiverted_none, ← ih hlen]
          exact and_iff_right rfl
      | some datagram =>
          cases hanswer : datagram.answer with
          | some found =>
              rw [discoveryAttempts_answered hlen hanswer]
              exact iff_of_true (by simp) (undiverted_of_answer (by simp [hanswer]))
          | none =>
              rw [discoveryAttempts_unreadable hlen hanswer, List.forall_mem_cons,
                and_iff_right rfl]
              cases rest with
              | nil => exact iff_of_true (by simp [discoveryAttempts]) (undiverted_single _)
              | cons next rest =>
                  -- the next broadcast goes to the target only if the address is left as it was
                  rw [undiverted_of_unreadable hanswer, ← recvfrom_address_eq_iff hlen]
                  constructor
                  · intro h
                    obtain ⟨later, hlater⟩ := discoveryAttempts_sent_cons
                      (recvfrom target len (some datagram)).address 16 next rest
                    have haddress := h _ (by rw [hlater]; exact List.mem_cons_self)
                    rw [haddress] at h
                    exact ⟨haddress, (ih (by decide)).mp h⟩
                  · rintro ⟨haddress, h⟩
                    rw [haddress]
                    exact (ih (by decide)).mpr h

end Broadcasts

/-- A search broadcasts at most `max_retries` times, and to the broadcast address only, and it
finds what the first readable answer among the first `max_retries` arrivals says. -/
structure KeepsBroadcasting (broadcastIp : Text) (broadcastPort maxRetries : Int32)
    (len : Int32) (arrivals : ℕ → Option Datagram) : Prop where
  atMost : (clientDiscoveryProtocol broadcastIp broadcastPort maxRetries len
    arrivals).sent.length ≤ maxRetries.toInt.toNat
  toBroadcast : ∀ dest ∈ (clientDiscoveryProtocol broadcastIp broadcastPort maxRetries len
    arrivals).sent, dest = createSockaddr broadcastIp broadcastPort
  firstAnswer : (clientDiscoveryProtocol broadcastIp broadcastPort maxRetries len
    arrivals).found = (firstArrivals maxRetries arrivals).findSome? fun arrival =>
      arrival.bind Datagram.answer

/-- **When a search keeps broadcasting.**  It depends on what the length happens to be: below
zero, no answer is received, so there must be none; otherwise no unreadable datagram may divert
the broadcasts.

The two cases have nothing in common.  With a negative length `recvfrom` fails before it writes
anything, so every broadcast goes where it should and no answer is ever seen; otherwise the outcome
is always right and only the address is in question. -/
theorem keepsBroadcasting_iff (broadcastIp : Text) (broadcastPort maxRetries : Int32)
    (len : Int32) (arrivals : ℕ → Option Datagram) :
    KeepsBroadcasting broadcastIp broadcastPort maxRetries len arrivals ↔
      (len < 0 → ∀ i < maxRetries.toInt.toNat, ∀ datagram, arrivals i = some datagram →
        datagram.answer = none) ∧
      (¬ len < 0 → Undiverted (createSockaddr broadcastIp broadcastPort) len
        (firstArrivals maxRetries arrivals)) := by
  have hatMost : (clientDiscoveryProtocol broadcastIp broadcastPort maxRetries len
      arrivals).sent.length ≤ maxRetries.toInt.toNat := by
    refine (length_sent_le _ _ _).trans ?_
    rw [firstArrivals, List.length_map, List.length_range]
  have hfound := clientDiscoveryProtocol_found broadcastIp broadcastPort maxRetries len arrivals
  have hnone : ((firstArrivals maxRetries arrivals).findSome? fun arrival =>
        arrival.bind Datagram.answer) = none ↔
      ∀ i < maxRetries.toInt.toNat, ∀ datagram, arrivals i = some datagram →
        datagram.answer = none := by
    rw [List.findSome?_eq_none_iff, firstArrivals, List.forall_mem_map]
    simp only [List.mem_range, Option.bind_eq_none_iff]
  by_cases hlen : len < 0
  · rw [if_pos hlen] at hfound
    rw [imp_iff_right hlen, ← hnone]
    constructor
    · intro h
      exact ⟨h.firstAnswer.symm.trans hfound, fun hnot => absurd hlen hnot⟩
    · rintro ⟨hnoAnswer, -⟩
      exact ⟨hatMost, sent_of_neg hlen, hfound.trans hnoAnswer.symm⟩
  · rw [if_neg hlen] at hfound
    rw [imp_iff_right hlen, ← sent_to_target_iff hlen]
    constructor
    · intro h
      exact ⟨fun hneg => absurd hneg hlen, h.toBroadcast⟩
    · rintro ⟨-, hsent⟩
      exact ⟨hatMost, hsent, hfound⟩

/-- A stray datagram from 10.0.0.9. -/
def strayDatagram : Datagram := ⟨"HELLO".toList, createSockaddr "10.0.0.9".toList 9⟩

/-- **A stray datagram takes the place of the broadcast address**: the second attempt goes to
whoever has sent it. -/
theorem broadcast_diverted :
    (clientDiscoveryProtocol "255.255.255.255".toList 4000 2 16 fun _ => some strayDatagram).sent
        = [createSockaddr "255.255.255.255".toList 4000, createSockaddr "10.0.0.9".toList 9] ∧
      createSockaddr "10.0.0.9".toList 9 ≠ createSockaddr "255.255.255.255".toList 4000 := by
  decide +kernel

/-! ## The format of responses -/

/-- The documented format: `LOC`, an address, a port between 1 and 65535, and `END`. -/
def IsLocation (response ipStr : Text) (port : Int32) : Prop :=
  ∃ portStr, strtok ' ' response = ["LOC".toList, ipStr, portStr, "END".toList] ∧
    inetPton ipStr ≠ none ∧ IsNatural portStr ∧ 1 ≤ naturalValue portStr ∧
    naturalValue portStr ≤ 65535 ∧ port.toInt = naturalValue portStr

/-- A response is taken exactly if it has the documented format; then the outputs are what it
says, and otherwise what they were. -/
structure ExtractsExactly (response : Text) : Prop where
  success_iff : ∀ returnIp returnPort, (extractInto response returnIp returnPort).1 = 0 ↔
    ∃ ipStr port, IsLocation response ipStr port
  outputs : ∀ returnIp returnPort ipStr port, IsLocation response ipStr port →
    (extractInto response returnIp returnPort).2 = (ipStr, port)
  untouched : ∀ returnIp returnPort, (extractInto response returnIp returnPort).1 ≠ 0 →
    (extractInto response returnIp returnPort).2 = (returnIp, returnPort)

/-- A response in the format is not taken if there is a space in front.  One that is not in the
format is, if its first word only begins with `LOC`, if words follow `END`, or if the port only
begins with a number or is one that is narrowed to a port. -/
def Misparsed (response : Text) : Prop :=
  ((∃ ipStr port, IsLocation response ipStr port) ∧ response.head? = some ' ') ∨
  ∃ word ipStr portStr rest, response.take 3 = "LOC".toList ∧
    strtok ' ' response = word :: ipStr :: portStr :: "END".toList :: rest ∧
    inetPton ipStr ≠ none ∧ (0 < (atoi portStr).toInt ∧ (atoi portStr).toInt ≤ 65535) ∧
    ¬ (word = "LOC".toList ∧ rest = [] ∧ IsNatural portStr ∧ naturalValue portStr ≤ 65535)

section Format

variable {response ipStr : Text} {port : Int32}

/-- What is taken. -/
theorem extractIpAndPort_eq_ok_iff :
    extractIpAndPortFromResponse response = .ok (ipStr, port) ↔
      response.take 3 = "LOC".toList ∧ ∃ word portStr rest,
        strtok ' ' response = word :: ipStr :: portStr :: "END".toList :: rest ∧
        inetPton ipStr ≠ none ∧ (0 < (atoi portStr).toInt ∧ (atoi portStr).toInt ≤ 65535) ∧
        port = atoi portStr := by
  have hrange : ∀ n : Int32, ¬ (n ≤ 0 ∨ 65535 < n) ↔ 0 < n.toInt ∧ n.toInt ≤ 65535 := by
    intro n
    rw [not_or, Int32.not_le, Int32.not_lt, Int32.lt_iff_toInt_lt, Int32.le_iff_toInt_le]
    rfl
  unfold extractIpAndPortFromResponse
  constructor
  · intro h
    split at h
    · cases h
    · rename_i hloc
      refine ⟨not_not.mp hloc, ?_⟩
      split at h
      · rename_i word ip portStr last rest hwords
        split at h
        · cases h
        · rename_i hend
          obtain rfl := not_not.mp hend
          split at h
          · cases h
          · rename_i hip
            split at h
            · cases h
            · rename_i hport
              cases h
              exact ⟨word, portStr, rest, hwords, hip, (hrange _).mp hport, rfl⟩
      · cases h
  · rintro ⟨hloc, word, portStr, rest, hwords, hip, hport, rfl⟩
    rw [if_neg (not_not.mpr hloc), hwords]
    simp only [ne_eq, not_true_eq_false, if_false, if_neg hip, if_neg ((hrange _).mpr hport)]

/-- Whatever is taken, 0 is returned for it and for nothing else. -/
theorem extractInto_eq_zero_iff (returnIp : Text) (returnPort : Int32) :
    (extractInto response returnIp returnPort).1 = 0 ↔
      ∃ ipStr port, extractIpAndPortFromResponse response = .ok (ipStr, port) := by
  unfold extractInto
  cases extractIpAndPortFromResponse response with
  | ok found => exact iff_of_true rfl ⟨found.1, found.2, rfl⟩
  | error problem =>
      exact iff_of_false problem.code_ne_zero (by simp)

/-- A response that is read sets both outputs. -/
theorem extractInto_of_ok (h : extractIpAndPortFromResponse response = .ok (ipStr, port))
    (returnIp : Text) (returnPort : Int32) :
    extractInto response returnIp returnPort = (0, ipStr, port) := by
  rw [extractInto, h]

/-- The outputs are written at the very end. -/
theorem extractInto_untouched (returnIp : Text) (returnPort : Int32)
    (h : (extractInto response returnIp returnPort).1 ≠ 0) :
    (extractInto response returnIp returnPort).2 = (returnIp, returnPort) := by
  unfold extractInto at h ⊢
  cases hread : extractIpAndPortFromResponse response with
  | ok found =>
      rw [hread] at h
      exact absurd rfl h
  | error problem => rfl

/-- A response in the format, without a space in front, is taken for what it says. -/
theorem extract_of_isLocation (h : IsLocation response ipStr port)
    (hspace : response.head? ≠ some ' ') :
    extractIpAndPortFromResponse response = .ok (ipStr, port) := by
  obtain ⟨portStr, hwords, hip, hnatural, hlow, hhigh, hport⟩ := h
  have hvalue := atoi_of_isNatural hnatural (by omega)
  refine extractIpAndPort_eq_ok_iff.mpr ⟨?_, _, portStr, [], hwords, hip, ?_, ?_⟩
  · cases response with
    | nil => cases hwords
    | cons c rest =>
        have hc : c ≠ ' ' := fun heq => hspace (congrArg some heq)
        exact (List.prefix_iff_eq_take.mp (strtok_starts hc hwords)).symm
  · omega
  · rw [← Int32.toInt_inj, hport, hvalue]

/-- What is taken and not misparsed is in the format. -/
theorem isLocation_of_extract (hread : ¬ Misparsed response)
    (h : extractIpAndPortFromResponse response = .ok (ipStr, port)) :
    IsLocation response ipStr port := by
  obtain ⟨hloc, word, portStr, rest, hwords, hip, hport, rfl⟩ := extractIpAndPort_eq_ok_iff.mp h
  obtain ⟨rfl, rfl, hnatural, hfits⟩ : word = "LOC".toList ∧ rest = [] ∧ IsNatural portStr ∧
      naturalValue portStr ≤ 65535 := by
    by_contra hnot
    exact hread (Or.inr ⟨word, ipStr, portStr, rest, hloc, hwords, hip, hport, hnot⟩)
  have hvalue := atoi_of_isNatural hnatural (by omega)
  exact ⟨portStr, hwords, hip, hnatural, by omega, hfits, hvalue⟩

end Format

/-- **What the discovery client takes for an answer.**  The documented format and nothing else,
for all responses but the misparsed ones.

The documented format is stated without the functions of the source, with a grammar for the number
and a value for its digits.  So this compares two readers: `strtok`, `inet_pton` and `atoi` on the
one side, and what the comment above the function says on the other. -/
theorem extractsExactly_iff (response : Text) :
    ExtractsExactly response ↔ ¬ Misparsed response := by
  constructor
  · rintro h (⟨⟨ipStr, port, hlocation⟩, hspace⟩ |
      ⟨word, ipStr, portStr, rest, hloc, hwords, hip, hport, hnot⟩)
    · obtain ⟨_, _, htaken⟩ := (extractInto_eq_zero_iff [] 0).mp
        ((h.success_iff [] 0).mpr ⟨ipStr, port, hlocation⟩)
      have hloc := (extractIpAndPort_eq_ok_iff.mp htaken).1
      cases response with
      | nil => cases hspace
      | cons c rest =>
          obtain rfl := Option.some.inj hspace
          exact absurd (List.cons.inj hloc).1 (by decide)
    · have htaken := extractIpAndPort_eq_ok_iff.mpr
        ⟨hloc, word, portStr, rest, hwords, hip, hport, rfl⟩
      obtain ⟨_, _, portStr', hwords', -, hnatural, -, hhigh, -⟩ := (h.success_iff [] 0).mp
        ((extractInto_eq_zero_iff [] 0).mpr ⟨_, _, htaken⟩)
      rw [hwords] at hwords'
      cases hwords'
      exact hnot ⟨rfl, rfl, hnatural, hhigh⟩
  · intro hread
    have htaken : ∀ {ipStr port}, IsLocation response ipStr port →
        extractIpAndPortFromResponse response = .ok (ipStr, port) := by
      intro ipStr port hlocation
      refine extract_of_isLocation hlocation fun hspace => ?_
      exact hread (Or.inl ⟨⟨ipStr, port, hlocation⟩, hspace⟩)
    refine ⟨fun returnIp returnPort => ?_, fun returnIp returnPort ipStr port hlocation => ?_,
      extractInto_untouched⟩
    · rw [extractInto_eq_zero_iff]
      exact exists₂_congr fun ipStr port => ⟨isLocation_of_extract hread, htaken⟩
    · rw [extractInto_of_ok (htaken hlocation)]

/-- **A port of 2³² + 4000** is 4000, and what follows the port's digits or `END` is not looked
at. -/
theorem extractInto_misparses :
    (extractInto "LOC 10.0.0.1 4294971296 END".toList [] 0 = (0, "10.0.0.1".toList, 4000) ∧
      ∀ ipStr port, ¬ IsLocation "LOC 10.0.0.1 4294971296 END".toList ipStr port) ∧
    (extractInto "LOC 10.0.0.1 4000th END at last".toList [] 0 = (0, "10.0.0.1".toList, 4000) ∧
      ∀ ipStr port, ¬ IsLocation "LOC 10.0.0.1 4000th END at last".toList ipStr port) := by
  have hlarge : strtok ' ' "LOC 10.0.0.1 4294971296 END".toList
      = ["LOC".toList, "10.0.0.1".toList, "4294971296".toList, "END".toList] := by decide +kernel
  have htrailing : strtok ' ' "LOC 10.0.0.1 4000th END at last".toList
      = ["LOC".toList, "10.0.0.1".toList, "4000th".toList, "END".toList, "at".toList,
        "last".toList] := by decide +kernel
  refine ⟨⟨?_, ?_⟩, ⟨?_, ?_⟩⟩
  · exact extractInto_of_ok (extractIpAndPort_eq_ok_iff.mpr
      ⟨by decide, _, _, _, hlarge, by decide +kernel, by decide +kernel, by decide +kernel⟩) [] 0
  · rintro ipStr port ⟨portStr, hwords, -, -, -, hhigh, -⟩
    rw [hlarge] at hwords
    cases hwords
    exact absurd hhigh (by decide)
  · exact extractInto_of_ok (extractIpAndPort_eq_ok_iff.mpr
      ⟨by decide, _, _, _, htrailing, by decide +kernel, by decide +kernel, by decide +kernel⟩) [] 0
  · rintro ipStr port ⟨portStr, hwords, -⟩
    rw [htrailing] at hwords
    cases hwords

end Brix
