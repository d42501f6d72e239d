/-
# Forwarding an indirect query

`indirect_respond` sends a `FORWARD_QUERY` to each host of the client's entry, and
`forward_respond` on this host builds a socket address for the client, of the family in which
the packet has come.  An address of 4 bytes goes through both families; one of 16 bytes is
dropped where the packet comes over IPv4.
-/
import Xdm.DirectService
import Xdm.Xdmcp.Messages

namespace Xdm

open Prog

variable {w : World} {s : State} {fd : Int} {sender : Netaddr} {names : List ARRAY8}
variable {addr port : ARRAY8} {connectionType : CARD16}

/-! ### Sending -/

/-- The hosts to which the indirect query of a client is forwarded. -/
def forwardHosts (w : World) (s : State) (addr : ARRAY8) (connectionType : CARD16) :
    List ARRAY8 :=
  (forEachMatchingIndirectHost w s.database (choiceOf w s addr connectionType) addr
    connectionType).calls

/-- The packets for these hosts, when the client is not local. -/
def forwards (addr port : ARRAY8) (names : List ARRAY8) (hosts : List ARRAY8) : List Event :=
  hosts.filterMap fun host =>
    (forwardAddr host).map fun dest => .send dest (.forwardQuery addr port names)

lemma sendForwards_eq (w : World) (addr port : ARRAY8) (names hosts : List ARRAY8) (s : State) :
    (hosts.forM (sendForward w false addr port names)) s =
      some ((), { s with out := s.out ++ forwards addr port names hosts }) := by
  induction hosts generalizing s with
  | nil =>
    rw [forwards, List.filterMap_nil, List.append_nil]
    rfl
  | cons host hosts ih =>
    change ((sendForward w false addr port names host) s).bind (fun p =>
      (hosts.forM (sendForward w false addr port names)) p.2) = _
    unfold sendForward
    cases hdest : forwardAddr host with
    | none =>
      have hskip : forwards addr port names (host :: hosts) = forwards addr port names hosts := by
        rw [forwards, List.filterMap_cons_none (by rw [hdest]; rfl), forwards]
      rw [hskip]
      exact ih s
    | some dest =>
      have hsend : forwards addr port names (host :: hosts) =
          .send dest (.forwardQuery addr port names) :: forwards addr port names hosts := by
        rw [forwards, List.filterMap_cons_some (by rw [hdest]; rfl), forwards]
      rw [hsend]
      refine (ih _).trans ?_
      rw [List.append_assoc]
      rfl

/-- `indirect_respond` sends the packets to the hosts, in this order. -/
lemma answerIndirect_eq (w : World) (s : State) (names : List ARRAY8)
    (hsender : convertAddr sender.sa = (some connectionType, addr))
    (hremote : isLocalAddress w addr connectionType = false) :
    ∃ s' es, answerIndirect w sender names s = some ((), s') ∧
      s'.out = s.out ++ forwards addr (netaddrPort sender.sa) names
        (forwardHosts w s addr connectionType) ++ es := by
  have hclient : clientAddress sender.sa = (addr, netaddrPort sender.sa, connectionType) := by
    rw [clientAddress, hsender]
    rfl
  unfold answerIndirect
  rw [hclient]
  dsimp only
  rw [bind_of_eq_some _ (choiceFor_eq ..), get_bind, hremote,
    bind_of_eq_some _ (sendForwards_eq ..), State.askedChoice_database, State.askedChoice_out]
  split
  · obtain ⟨s', hrespond, -, -, hrest⟩ := allQueryRespond_eq w _ names .indirectQuery hsender
    exact ⟨s', _, hrespond, hrest⟩
  · exact ⟨_, [], rfl, (List.append_nil _).symm⟩

/-! ### Receiving -/

/-- The address bytes and the port of an IPv4 or IPv6 client, with the family that
`ConvertAddr` gives them. -/
lemma convertAddr_inet {sa : SockAddr}
    (h : netaddrFamily sa = .inet ∨ netaddrFamily sa = .inet6) :
    (∃ p : Octets 2, netaddrPort sa = p.1) ∧
      ((∃ a : Octets 4, convertAddr sa = (some familyInternet, a.1)) ∨
        ∃ a : Octets 16, isV4Mapped a.1 = false ∧
          convertAddr sa = (some familyInternet6, a.1)) := by
  cases sa with
  | inet p a => exact ⟨⟨p, rfl⟩, Or.inl ⟨a, rfl⟩⟩
  | inet6 p a scope =>
    refine ⟨⟨p, rfl⟩, ?_⟩
    cases hmapped : isV4Mapped a.1 with
    | true =>
      have hlen : (a.1.drop 12).length = 4 := by rw [List.length_drop, a.2]
      refine Or.inl ⟨⟨a.1.drop 12, hlen⟩, ?_⟩
      simp only [convertAddr, netaddrAddress, netaddrFamily, hmapped, if_true, hlen]
    | false =>
      refine Or.inr ⟨a, hmapped, ?_⟩
      have hlen : a.1.length ≠ 4 := by
        rw [a.2]
        decide
      simp only [convertAddr, netaddrAddress, netaddrFamily, hmapped, Bool.false_eq_true, if_false,
        hlen]
  | unspec | unix | other => simp [netaddrFamily] at h

/-- `forward_respond` rebuilds the client from an address of 4 bytes, over both families. -/
lemma forwardedClient_of_4 {family : AddrFamily} (hfamily : family = .inet ∨ family = .inet6)
    (a : Octets 4) (p : Octets 2) (names : List ARRAY8) :
    ∃ client, forwardedClient family ⟨a.1, p.1, names⟩ = some client ∧
      convertAddr client.sa = (some familyInternet, a.1) ∧ netaddrPort client.sa = p.1 := by
  obtain ⟨a, ha⟩ := a
  obtain ⟨p, hp⟩ := p
  rcases hfamily with rfl | rfl
  · refine ⟨⟨.inet ⟨p, hp⟩ ⟨a, ha⟩, 16⟩, ?_, rfl, rfl⟩
    simp only [forwardedClient, octets?, ha, hp, dif_pos]
    rfl
  · -- the IPv4-mapped address
    have hlen : ([0, 0, 0, 0, 0, 0, 0, 0, 0, 0, 0xff, 0xff] ++ a).length = 16 := by
      rw [List.length_append, ha]
      rfl
    refine ⟨⟨.inet6 ⟨p, hp⟩ ⟨_, hlen⟩ 0, 28⟩, ?_, ?_, rfl⟩
    · simp only [forwardedClient, octets?, ha, if_true, hlen, hp, dif_pos]
      rfl
    · change (if a.length = 4 then _ else _, a) = _
      rw [if_pos ha]

/-- It rebuilds the client from an address of 16 bytes over IPv6. -/
lemma forwardedClient_of_16 (a : Octets 16) (p : Octets 2) (names : List ARRAY8)
    (hmapped : isV4Mapped a.1 = false) :
    ∃ client, forwardedClient .inet6 ⟨a.1, p.1, names⟩ = some client ∧
      convertAddr client.sa = (some familyInternet6, a.1) ∧ netaddrPort client.sa = p.1 := by
  obtain ⟨a, ha⟩ := a
  obtain ⟨p, hp⟩ := p
  have hlen : a.length ≠ 4 := by omega
  refine ⟨⟨.inet6 ⟨p, hp⟩ ⟨a, ha⟩ 0, 28⟩, ?_, ?_, rfl⟩
  · simp only [forwardedClient, if_neg hlen]
    simp only [octets?, ha, hp, dif_pos]
    rfl
  · simp only [convertAddr, netaddrAddress, netaddrFamily, hmapped, Bool.false_eq_true, if_false,
      hlen]

/-- Over IPv4 it rejects an address of 16 bytes. -/
lemma forwardedClient_inet_of_16 (a : Octets 16) (port : ARRAY8) (names : List ARRAY8) :
    forwardedClient .inet ⟨a.1, port, names⟩ = none := by
  have hlen : a.1.length ≠ 4 := by
    rw [a.2]
    decide
  simp only [forwardedClient, octets?, dif_neg hlen]
  rfl

/-- The datagram of a `FORWARD_QUERY` that fits into the buffer is taken for it. -/
lemma packetIn_forwardQuery (W : XdmcpWriter) (hnames : names.length < 2 ^ 8)
    (hfits : 6 + (Message.forwardQuery addr port names).size ≤ xdmMaxMsglen) :
    packetIn ((Message.forwardQuery addr port names).datagram W) =
      some (.forwardQuery ⟨addr, port, names⟩) := by
  have hlength := Message.toNat_headerLength_of_fits hfits
  have hdatagram := Message.datagram_eq W hfits
  rw [Message.size_forwardQuery] at hfits hlength
  have hlen : (Packet.forwardQuery ⟨addr, port, names⟩).fields.length =
      5 + addr.length + port.length + sizeARRAYofARRAY8 names := by
    rw [Packet.length_fields, Packet.expectedLen, ForwardQuery.expectedLen]
    dsimp only
    omega
  refine packetIn_eq_some.2 ⟨⟨ARRAY8.fits_of_le ?_, ARRAY8.fits_of_le ?_, hnames, ?_⟩, ?_, [], ?_⟩
  · dsimp only
    omega
  · dsimp only
    omega
  · intro name hname
    have hle : name.length ≤ sizeARRAYofARRAY8 names := length_le_size hname
    exact ARRAY8.fits_of_le (by omega)
  · rw [hlen]
    rw [xdmMaxMsglen] at hfits
    omega
  · rw [hdatagram, Message.header, hlength, ← hlen, List.append_nil]
    rfl

/-- What `forward_respond` does with such a packet. -/
lemma processRequestSocket_forwardQuery (W : XdmcpWriter) (w : World) (fd : Int)
    (forwarder : Netaddr) (hnames : names.length < 2 ^ 8)
    (hfits : 6 + (Message.forwardQuery addr port names).size ≤ xdmMaxMsglen) :
    processRequestSocket w fd forwarder ((Message.forwardQuery addr port names).datagram W) =
      match forwardedClient (netaddrFamily forwarder.sa) ⟨addr, port, names⟩ with
      | some client => allQueryRespond w client names .forwardQuery
      | none => pure () := by
  rw [processRequestSocket_eq, packetIn_forwardQuery W hnames hfits]
  rfl

/-- Two socket addresses name the same client: `ConvertAddr` gives the same family and bytes,
and the ports are the same. -/
def SockAddr.SameClient (sa sa' : SockAddr) : Prop :=
  convertAddr sa = convertAddr sa' ∧ netaddrPort sa = netaddrPort sa'

/-- Whether `all_query_respond` is reached, by the size of the address and the family in which
the packet comes. -/
lemma forwardQuery_received (W : XdmcpWriter) (w : World) (fd : Int) (forwarder : Netaddr)
    (hclient : netaddrFamily sender.sa = .inet ∨ netaddrFamily sender.sa = .inet6)
    (hsender : convertAddr sender.sa = (some connectionType, addr)) (hnames : names.length < 2 ^ 8)
    (hfits : 6 + (Message.forwardQuery addr (netaddrPort sender.sa) names).size ≤ xdmMaxMsglen)
    (hforwarder : netaddrFamily forwarder.sa = .inet ∨ netaddrFamily forwarder.sa = .inet6) :
    if addr.length = 4 ∨ netaddrFamily forwarder.sa = .inet6 then
      ∃ client, client.sa.SameClient sender.sa ∧ processRequestSocket w fd forwarder
          ((Message.forwardQuery addr (netaddrPort sender.sa) names).datagram W) =
        allQueryRespond w client names .forwardQuery
    else processRequestSocket w fd forwarder
      ((Message.forwardQuery addr (netaddrPort sender.sa) names).datagram W) = pure () := by
  rw [processRequestSocket_forwardQuery W w fd forwarder hnames hfits]
  obtain ⟨⟨p, hp⟩, ⟨a, ha⟩ | ⟨a, hmapped, ha⟩⟩ := convertAddr_inet hclient
  · obtain ⟨rfl, rfl⟩ : connectionType = familyInternet ∧ addr = a.1 := by
      simpa using hsender.symm.trans ha
    rw [if_pos (Or.inl a.2), hp]
    obtain ⟨client, hforwarded, hconvert, hport⟩ := forwardedClient_of_4 hforwarder a p names
    exact ⟨client, ⟨hconvert.trans ha.symm, hport.trans hp.symm⟩, by rw [hforwarded]⟩
  · obtain ⟨rfl, rfl⟩ : connectionType = familyInternet6 ∧ addr = a.1 := by
      simpa using hsender.symm.trans ha
    have hlen : a.1.length ≠ 4 := by
      rw [a.2]
      decide
    rcases hforwarder with hinet | hinet6
    · rw [if_neg (by simp [hlen, hinet]), hinet, forwardedClient_inet_of_16]
    · rw [if_pos (Or.inr hinet6), hinet6, hp]
      obtain ⟨client, hforwarded, hconvert, hport⟩ := forwardedClient_of_16 a p names hmapped
      exact ⟨client, ⟨hconvert.trans ha.symm, hport.trans hp.symm⟩, by rw [hforwarded]⟩

/-- A host with an address of 4 or 16 bytes can be sent to. -/
lemma forwardAddr_of_length {host : ARRAY8} (h : host.length = 4 ∨ host.length = 16) :
    ∃ dest, forwardAddr host = some dest := by
  unfold forwardAddr octets?
  rcases h with h | h
  · have htake : (host.take 4).length = 4 := by rw [List.length_take, h]; rfl
    rw [if_pos (Or.inl h), dif_pos htake]
    exact ⟨_, rfl⟩
  · have htake : (host.take 16).length = 16 := by rw [List.length_take, h]; rfl
    rw [if_neg (by omega), if_pos (Or.inl h), dif_pos htake]
    exact ⟨_, rfl⟩

/-! ### An entry with one forward host -/

/-- The line `* fwd` of an access file, where `fwd` has the address `10.0.0.9`. -/
def World.forwarding : World :=
  { World.withAccess "* fwd\n".toList with
    getaddrinfo := fun _ => [.inet xdmUdpPort ⟨[10, 0, 0, 9], rfl⟩] }

def forwardEntry : DisplayEntry :=
  ⟨.pattern "*".toList, false, false, false, [⟨.address [10, 0, 0, 9], 1⟩]⟩

/-- The host that forwards, as the other one sees it. -/
def Netaddr.forwarder : Netaddr := ⟨.inet xdmUdpPort ⟨[10, 0, 0, 1], rfl⟩, 16⟩

/-- The database that the daemon reads from that file when it starts. -/
lemma exists_forwarding_run : ∃ h s, DaemonRun Config.plain 0 h s ∧ s.database = [forwardEntry] :=
  exists_run_of_exec [.startUp World.forwarding] (by decide +kernel)

lemma forwardHosts_forwardEntry (hdatabase : s.database = [forwardEntry])
    (hmatch : matchesClient w addr connectionType forwardEntry = true)
    (hhost : isLocalAddress w [10, 0, 0, 9] connectionType = false) :
    forwardHosts w s addr connectionType = [[10, 0, 0, 9]] := by
  have hentry : indirectEntry w [forwardEntry] addr connectionType = some forwardEntry := by
    unfold indirectEntry
    refine List.find?_cons_of_pos ?_
    exact decide_eq_true ⟨by decide, hmatch⟩
  simp only [forwardHosts, forEachMatchingIndirectHost, hdatabase, hentry]
  simp [forwardEntry, scanHostlist, scanHost, HostScan.join, HostScan.append, hhost]

/-! ### Forwarding -/

/-- An indirect query of a client that is not local is forwarded to every host with an address
of 4 or 16 bytes.  If this `FORWARD_QUERY` fits into the buffer, the receiving host answers it
as a forwarded query of the same client with the same names, where the client has an address
of 4 bytes, as every IPv4 and IPv4-mapped one, or the packet comes over IPv6; where a client
with an address of 16 bytes is forwarded over IPv4 it does nothing. -/
theorem forward_received (W : XdmcpWriter) (w : World) (fd : Int) (sender : Netaddr) (s : State)
    {bytes : ARRAY8} (hclient : netaddrFamily sender.sa = .inet ∨ netaddrFamily sender.sa = .inet6)
    (hquery : packetIn bytes = some (.indirectQuery names))
    (hsender : convertAddr sender.sa = (some connectionType, addr))
    (hremote : isLocalAddress w addr connectionType = false) :
    ∃ s', processRequestSocket w fd sender bytes s = some ((), s') ∧
      ∀ host ∈ forwardHosts w s addr connectionType, host.length = 4 ∨ host.length = 16 →
        ∃ dest ∈ forwardAddr host, ∃ m, Event.send dest m ∈ s'.out ∧
          m = .forwardQuery addr (netaddrPort sender.sa) names ∧
          (6 + m.size ≤ xdmMaxMsglen → ∀ w' fd' forwarder,
            netaddrFamily forwarder.sa = .inet ∨ netaddrFamily forwarder.sa = .inet6 →
            if addr.length = 4 ∨ netaddrFamily forwarder.sa = .inet6 then
              ∃ client, client.sa.SameClient sender.sa ∧
                processRequestSocket w' fd' forwarder (m.datagram W) =
                  allQueryRespond w' client names .forwardQuery
            else processRequestSocket w' fd' forwarder (m.datagram W) = pure ()) := by
  obtain ⟨s', es, hanswer, hout⟩ := answerIndirect_eq w s names hsender hremote
  obtain ⟨hnames, -, -⟩ := packetIn_eq_some.1 hquery
  refine ⟨s', ?_, fun host hhost hlen => ?_⟩
  · rw [processRequestSocket_eq, hquery]
    exact hanswer
  · obtain ⟨dest, hdest⟩ := forwardAddr_of_length hlen
    refine ⟨dest, hdest, .forwardQuery addr (netaddrPort sender.sa) names, ?_, rfl,
      fun hfits w' fd' forwarder => forwardQuery_received W w' fd' forwarder hclient hsender
        hnames.length hfits⟩
    have hsent : Event.send dest (.forwardQuery addr (netaddrPort sender.sa) names) ∈
        forwards addr (netaddrPort sender.sa) names (forwardHosts w s addr connectionType) :=
      List.mem_filterMap.2 ⟨host, hhost, by rw [hdest]; rfl⟩
    rw [hout]
    exact List.mem_append_left _ (List.mem_append_right _ hsent)

/-- The query of an IPv4 client is forwarded, and answered on the other host. -/
theorem forward_guest : ∃ h s s', DaemonRun Config.plain 0 h s ∧
    processRequestSocket (World.lan 20 7) 3 Netaddr.guest [0, 1, 0, 3, 0, 1, 0] s = some ((), s') ∧
    ∃ dest m client, Event.send dest m ∈ s'.out ∧ client.sa.SameClient Netaddr.guest.sa ∧
      processRequestSocket (World.lan 20 7) 3 Netaddr.forwarder
          (m.datagram (Writer.cutting UInt8 xdmMaxMsglen)) =
        allQueryRespond (World.lan 20 7) client [] .forwardQuery := by
  obtain ⟨h, s, run, hdatabase⟩ := exists_forwarding_run
  have hsender : convertAddr Netaddr.guest.sa = (some familyInternet, [10, 0, 0, 2]) := rfl
  have hhosts : forwardHosts (World.lan 20 7) s [10, 0, 0, 2] familyInternet = [[10, 0, 0, 9]] :=
    forwardHosts_forwardEntry hdatabase (by decide) (by decide)
  have hquery : packetIn [0, 1, 0, 3, 0, 1, 0] = some (.indirectQuery []) := rfl
  obtain ⟨s', hrun, hreceived⟩ := forward_received (Writer.cutting UInt8 xdmMaxMsglen)
    (World.lan 20 7) 3 Netaddr.guest s (.inl rfl) hquery hsender (by decide)
  obtain ⟨dest, -, m, hsend, rfl, hm⟩ :=
    hreceived [10, 0, 0, 9] (by rw [hhosts]; decide) (.inl rfl)
  have hfits : 6 + (Message.forwardQuery [10, 0, 0, 2] (netaddrPort Netaddr.guest.sa) []).size ≤
      xdmMaxMsglen := by
    rw [Message.size_forwardQuery]
    decide
  have hforwarder := hm hfits (World.lan 20 7) 3 Netaddr.forwarder (.inl rfl)
  rw [if_pos (.inl rfl)] at hforwarder
  obtain ⟨client, hclient, hrespond⟩ := hforwarder
  exact ⟨h, s, s', run, hrun, dest, _, client, hsend, hclient, hrespond⟩

/-! ### Queries that are lost -/

/-- The client of an `INDIRECT_QUERY` is not local, the query is forwarded, and the packet is
dropped on a host that gets it over IPv4. -/
def ForwardLost (w : World) (s : State) (sender : Netaddr) (bytes : ARRAY8) : Prop :=
  ∃ names connectionType addr s', packetIn bytes = some (.indirectQuery names) ∧
    convertAddr sender.sa = (some connectionType, addr) ∧
    isLocalAddress w addr connectionType = false ∧
    processRequestSocket w 3 sender bytes s = some ((), s') ∧
    ∃ dest m, Event.send dest m ∈ s'.out ∧
      ∀ (W : XdmcpWriter) w' fd forwarder, netaddrFamily forwarder.sa = .inet →
        processRequestSocket w' fd forwarder (m.datagram W) = pure ()

/-- A display at an IPv6 address. -/
def Netaddr.guest6 : Netaddr :=
  ⟨.inet6 ⟨[0x80, 1], rfl⟩ ⟨[0x20, 1, 0xd, 0xb8, 0, 0, 0, 0, 0, 0, 0, 0, 0, 0, 0, 2], rfl⟩ 0, 28⟩

lemma forwardLost_of {bytes : ARRAY8} (hdatabase : s.database = [forwardEntry])
    (hquery : packetIn bytes = some (.indirectQuery names))
    (hsender : convertAddr sender.sa = (some connectionType, addr))
    (hremote : isLocalAddress w addr connectionType = false)
    (hmatch : matchesClient w addr connectionType forwardEntry = true)
    (hhost : isLocalAddress w [10, 0, 0, 9] connectionType = false)
    (hlost : ∀ (W : XdmcpWriter) w' fd forwarder, netaddrFamily forwarder.sa = .inet →
      processRequestSocket w' fd forwarder ((Message.forwardQuery addr (netaddrPort sender.sa)
        names).datagram W) = pure ()) : ForwardLost w s sender bytes := by
  have hhosts : forwardHosts w s addr connectionType = [[10, 0, 0, 9]] :=
    forwardHosts_forwardEntry hdatabase hmatch hhost
  obtain ⟨s', es, hanswer, hout⟩ := answerIndirect_eq w s names hsender hremote
  refine ⟨names, connectionType, addr, s', hquery, hsender, hremote, ?_,
    .inet xdmUdpPort ⟨[10, 0, 0, 9], rfl⟩, _, ?_, hlost⟩
  · rw [processRequestSocket_eq, hquery]
    exact hanswer
  · rw [hout, hhosts]
    exact List.mem_append_left _ (List.mem_append_right _ (List.mem_singleton.2 rfl))

/-- A query with one name that fills its datagram cannot be forwarded. -/
lemma longName_lost {name : ARRAY8} (hname : name.length = 8183) :
    packetIn (Packet.indirectQuery [name]).datagram = some (.indirectQuery [name]) ∧
      (Packet.indirectQuery [name]).datagram.length = xdmMaxMsglen ∧
      ∀ W : XdmcpWriter,
        packetIn ((Message.forwardQuery [10, 0, 0, 2] [0x80, 0] [name]).datagram W) = none := by
  have hsize : sizeARRAYofARRAY8 [name] = 8185 := by simp [sizeARRAYofARRAY8, hname]
  have hlen : (Packet.indirectQuery [name]).fields.length = 8186 := by
    rw [Packet.length_fields, Packet.expectedLen, hsize]
  have hfits : FitsARRAYofARRAY8 [name] := by
    refine ⟨Nat.one_lt_two_pow (by decide), fun a ha => ?_⟩
    rw [List.mem_singleton.1 ha, ARRAY8.Fits, hname]
    decide
  refine ⟨packetIn_eq_some.2 ⟨hfits, by rw [hlen]; decide, [], (List.append_nil _).symm⟩, ?_,
    fun W => ?_⟩
  · rw [Packet.datagram, List.length_append, hlen, length_writeHeader]
    rfl
  · have hforward : (Message.forwardQuery [10, 0, 0, 2] [0x80, 0] [name]).size = 8196 := by
      rw [Message.size_forwardQuery, hsize]
      rfl
    refine Message.packetIn_datagram_of_not_fits W ?_ ?_
    · rw [hforward]
      decide
    · rw [hforward]
      decide

/-- From a state that the daemon reaches when it starts, the query of an IPv6 client is lost on
a host that gets it over IPv4; and so is the query of an IPv4 client with a name of 8183 bytes,
which comes in a datagram of 8192 bytes. -/
theorem forward_lost : ∃ h s, DaemonRun Config.plain 0 h s ∧
    ForwardLost (World.lan 20 7) s Netaddr.guest6 [0, 1, 0, 3, 0, 1, 0] ∧
    ∃ bytes, bytes.length = xdmMaxMsglen ∧ ForwardLost (World.lan 20 7) s Netaddr.guest bytes := by
  obtain ⟨h, s, run, hdatabase⟩ := exists_forwarding_run
  refine ⟨h, s, run, ?_, ?_⟩
  · have hquery : packetIn [0, 1, 0, 3, 0, 1, 0] = some (.indirectQuery []) := rfl
    refine forwardLost_of hdatabase hquery rfl (by decide) (by decide) (by decide)
      fun W w fd forwarder hinet => ?_
    rw [processRequestSocket_forwardQuery W w fd forwarder (by decide) (by
      rw [Message.size_forwardQuery]
      decide), hinet]
    rfl
  · obtain ⟨name, hname⟩ : ∃ name : ARRAY8, name.length = 8183 :=
      ⟨List.replicate 8183 0, List.length_replicate⟩
    obtain ⟨hquery, hbytes, hlost⟩ := longName_lost hname
    have hsender : convertAddr Netaddr.guest.sa = (some familyInternet, [10, 0, 0, 2]) := rfl
    refine ⟨_, hbytes, forwardLost_of hdatabase hquery hsender (by decide) (by decide) (by decide)
      fun W w fd forwarder _ => ?_⟩
    change processRequestSocket w fd forwarder
      ((Message.forwardQuery [10, 0, 0, 2] [0x80, 0] [name]).datagram W) = _
    rw [processRequestSocket_eq, hlost W]
    rfl

end Xdm
