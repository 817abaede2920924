import Brix.Client.Discovery

/-!
# From a broadcast to the request server

`main` of the server checks its port, and two threads add one to it, each for itself: the greeter,
which prints the sum into the `LOC` answers, and the multiplexer, which binds to it.  The client
reads the answer with a range check of its own and builds its `servaddr` from it.

* `serverPort` — the ports that `main` accepts
* `locReply` — the greeter's answer
* `requestServer` — where the multiplexer is
* `leadsToServer_iff` — for which ports the client gets there

### The design

Two programs have to agree on an address without ever comparing notes, so both sides are written
out as the source has them: the server adds one to its port twice, in two threads, and the client
checks the range of what it is told once more.  The ports are of the machine's own 32 bits
throughout, since the one port for which the two sides disagree is where `main` still accepts what
the sum no longer is.
-/

namespace Brix

open Text

/-- The port that `main` makes of its argument: `none` if it returns, and an exception that it
does not catch. -/
def serverPort (argument : Text) : Except Fault (Option Int32) :=
  match stoi argument with
  | .ok port => if port < 0 ∨ 65535 < port then .ok none else .ok (some port)
  | .error .invalidArgument => .ok none
  | .error .outOfRange => .error .outOfRange
  | .error .undefinedBehaviour => .error .undefinedBehaviour

/-- The answer of `server_discovery_service`. -/
def serverDiscoveryReply (requestsServerIp : Text) (requestsServerPort : Int32) : Text :=
  "LOC".toList ++ ' ' :: (requestsServerIp ++ ' ' ::
    (showInt requestsServerPort.toInt ++ ' ' :: "END".toList))

/-- `start_server` of the greeter: the answer of a server with that address. -/
def locReply (selfIp : InAddr) (port : Int32) : Text :=
  serverDiscoveryReply (addrToString selfIp) (port + 1)

/-- `start_multiplexer_server` and `packet_multiplexer`: what the socket is bound to. -/
def multiplexerAddress (port : Int32) : SockAddr := createSockaddr "0.0.0.0".toList (port + 1)

/-- Where the multiplexer is for others: it is bound to all of the server's addresses. -/
def requestServer (selfIp : InAddr) (port : Int32) : SockAddr := fun i =>
  if 4 ≤ i.val ∧ i.val < 8 then UInt8.ofNat (octet selfIp (i.val - 4))
  else multiplexerAddress port i

/-- The client takes the answer, and the address it makes of it is the multiplexer's. -/
def LeadsToServer (selfIp : InAddr) (port : Int32) : Prop :=
  ∃ ipStr requestPort, extractIpAndPortFromResponse (locReply selfIp port)
    = .ok (ipStr, requestPort) ∧ createSockaddr ipStr requestPort = requestServer selfIp port

/-- `main` accepts what is a port. -/
theorem toInt_serverPort {argument : Text} {port : Int32}
    (h : serverPort argument = .ok (some port)) : 0 ≤ port.toInt ∧ port.toInt ≤ 65535 := by
  unfold serverPort at h
  split at h
  · rename_i n _
    split at h
    · cases h
    · rename_i hrange
      cases h
      rw [not_or, Int32.not_lt, Int32.not_lt, Int32.le_iff_toInt_le,
        Int32.le_iff_toInt_le] at hrange
      exact hrange
  · cases h
  · cases h
  · cases h

section Reply

variable {selfIp : InAddr} {port : Int32}

/-- The sum is a positive number, of a port. -/
theorem showInt_requestsPort (hlow : 0 ≤ port.toInt) (hhigh : port.toInt ≤ 65535) :
    (port + 1).toInt = port.toInt + 1 ∧
      showInt (port + 1).toInt = showNat (port.toInt.toNat + 1) := by
  have hsum : (port + 1).toInt = port.toInt + 1 := by
    have hone : (1 : Int32).toInt = 1 := rfl
    rw [Int32.toInt_add, hone]
    exact Int.bmod_eq_of_le (by omega) (by omega)
  refine ⟨hsum, ?_⟩
  rw [hsum, showInt, if_neg (by omega)]
  congr 1
  omega

/-- The tokens of the answer. -/
theorem strtok_locReply (hlow : 0 ≤ port.toInt) (hhigh : port.toInt ≤ 65535) :
    strtok ' ' (locReply selfIp port) = ["LOC".toList, addrToString selfIp,
      showNat (port.toInt.toNat + 1), "END".toList] := by
  have hip : ' ' ∉ addrToString selfIp := (isWord_addrToString selfIp).notMem (by decide)
  have hport : ' ' ∉ showNat (port.toInt.toNat + 1) := notMem_showNat (by decide) _
  rw [strtok, locReply, serverDiscoveryReply, (showInt_requestsPort hlow hhigh).2,
    List.splitOn_append_cons_self_of_not_mem (by decide),
    List.splitOn_append_cons_self_of_not_mem hip, List.splitOn_append_cons_self_of_not_mem hport,
    List.splitOn_eq_singleton (by decide), List.filter_eq_self]
  simp [(isWord_addrToString selfIp).1, showNat_ne_nil]

/-- The answer has the documented format while the sum is a port. -/
theorem isLocation_locReply (hlow : 0 ≤ port.toInt) (hhigh : port.toInt < 65535) :
    IsLocation (locReply selfIp port) (addrToString selfIp) (port + 1) := by
  obtain ⟨hsum, -⟩ := showInt_requestsPort hlow (by omega)
  have hvalue : naturalValue (showNat (port.toInt.toNat + 1)) = port.toInt.toNat + 1 :=
    ofDigitChars_showNat _
  refine ⟨showNat (port.toInt.toNat + 1), strtok_locReply hlow (by omega), ?_,
    isNatural_showNat _, ?_⟩
  · rw [inetPton_eq_some_iff.mpr rfl]
    simp
  · rw [hvalue, hsum]
    omega

/-- The answer of the last port is not taken. -/
theorem not_extract_locReply (hport : port = 65535) (ipStr : Text) (requestPort : Int32) :
    extractIpAndPortFromResponse (locReply selfIp port) ≠ .ok (ipStr, requestPort) := by
  subst hport
  intro h
  obtain ⟨-, word, portStr, rest, hwords, -, ⟨-, hrange⟩, -⟩ := extractIpAndPort_eq_ok_iff.mp h
  have htokens : strtok ' ' (locReply selfIp 65535) = ["LOC".toList, addrToString selfIp,
      "65536".toList, "END".toList] := strtok_locReply (by decide) (by decide)
  rw [htokens] at hwords
  cases hwords
  exact absurd hrange (by decide)

end Reply

/-- Only four bytes of a socket address depend on the ip. -/
theorem createSockaddr_eq_of_not {i : Fin 16} (hi : ¬ (4 ≤ i.val ∧ i.val < 8)) (ip ip' : Text)
    (port : Int32) : createSockaddr ip port i = createSockaddr ip' port i := by
  simp only [createSockaddr]
  split
  · rfl
  · rfl
  · rfl
  · rfl
  · have hout : ¬ i.val < 8 := by grind
    rw [if_neg hout, if_neg hout]

/-- And those four are the bytes that `inet_addr` makes of it. -/
theorem createSockaddr_address {i : Fin 16} (hi : 4 ≤ i.val ∧ i.val < 8) (ip : Text)
    (port : Int32) :
    createSockaddr ip port i = UInt8.ofNat (octet (inetAddr ip) (i.val - 4)) := by
  obtain ⟨n, hn⟩ := i
  have hlow : 4 ≤ n := hi.1
  have hhigh : n < 8 := hi.2
  interval_cases n <;> rfl

/-- The client's address is the multiplexer's. -/
theorem createSockaddr_addrToString (selfIp : InAddr) (port : Int32) :
    createSockaddr (addrToString selfIp) (port + 1) = requestServer selfIp port := by
  funext i
  by_cases hi : 4 ≤ i.val ∧ i.val < 8
  · rw [requestServer, if_pos hi, createSockaddr_address hi, inetAddr_addrToString]
  · rw [requestServer, if_neg hi]
    exact createSockaddr_eq_of_not hi _ _ _

/-- **Discovery leads to the request server**, whatever its address, for all base ports that
`main` accepts but the last one. -/
theorem leadsToServer_iff {argument : Text} {port : Int32}
    (haccepted : serverPort argument = .ok (some port)) (selfIp : InAddr) :
    LeadsToServer selfIp port ↔ port ≠ 65535 := by
  obtain ⟨hlow, hhigh⟩ := toInt_serverPort haccepted
  constructor
  · rintro ⟨ipStr, requestPort, h, -⟩ hport
    exact not_extract_locReply hport ipStr requestPort h
  · intro hne
    have hlt : port.toInt < 65535 := by
      refine lt_of_le_of_ne hhigh fun heq => hne (Int32.toInt_inj.mp ?_)
      rw [heq]
      rfl
    have hspace : (locReply selfIp port).head? ≠ some ' ' := by
      simp [locReply, serverDiscoveryReply]
    exact ⟨addrToString selfIp, port + 1,
      extract_of_isLocation (isLocation_locReply hlow hlt) hspace,
      createSockaddr_addrToString selfIp port⟩

/-- A server on port 4000. -/
theorem leadsToServer_4000 : LeadsToServer 0x0100007f 4000 := by
  have haccepted : serverPort "4000".toList = .ok (some 4000) := by rfl
  exact (leadsToServer_iff haccepted 0x0100007f).mpr (by decide)

/-- **The last port.**  `main` accepts it, and no client takes the server's answers. -/
theorem not_leadsToServer_last :
    serverPort "65535".toList = .ok (some 65535) ∧ ¬ LeadsToServer 0x0100007f 65535 := by
  refine ⟨by rfl, ?_⟩
  rintro ⟨ipStr, requestPort, h, -⟩
  exact not_extract_locReply rfl ipStr requestPort h

end Brix
