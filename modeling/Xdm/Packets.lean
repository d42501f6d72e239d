/-
# Which packets are accepted

`ProcessRequestSocket` dispatches seven opcodes.  Each of the handlers reads the fields of
its packet and compares the length in the header with a sum of its own; `Packet` is what it
has read when it goes on.  `packet_accepted_iff` says that the sums are right: a datagram is
taken for a packet if and only if it begins with the encoding of this packet.
-/
import Xdm.Daemon
import Xdm.Xdmcp.Wire

namespace Xdm

open Prog

/-! ### Opcodes -/

/-- The number of an opcode in a packet header. -/
def XdmOpCode.toCARD16 : XdmOpCode → CARD16
  | .broadcastQuery => 1
  | .query => 2
  | .indirectQuery => 3
  | .forwardQuery => 4
  | .willing => 5
  | .unwilling => 6
  | .request => 7
  | .accept => 8
  | .decline => 9
  | .manage => 10
  | .refuse => 11
  | .failed => 12
  | .keepalive => 13
  | .alive => 14

lemma ofCARD16_toCARD16 (opcode : XdmOpCode) :
    XdmOpCode.ofCARD16 opcode.toCARD16 = some opcode := by
  cases opcode <;> rfl

lemma eq_toCARD16 {n : CARD16} {opcode : XdmOpCode} (h : XdmOpCode.ofCARD16 n = some opcode) :
    n = opcode.toCARD16 := by
  unfold XdmOpCode.ofCARD16 at h
  rw [← UInt16.toNat_inj]
  split at h
  case h_15 => exact nomatch h
  all_goals
    obtain rfl := Option.some.inj h
    assumption

/-! ### Packets -/

/-- What a handler has read when it goes past its length check. -/
inductive Packet
  | broadcastQuery (authenticationNames : List ARRAY8)
  | query (authenticationNames : List ARRAY8)
  | indirectQuery (authenticationNames : List ARRAY8)
  | forwardQuery (q : ForwardQuery)
  | request (r : Request)
  | manage (m : Manage)
  | keepalive (k : KeepAlive)

namespace Packet

def opcode : Packet → XdmOpCode
  | broadcastQuery _ => .broadcastQuery
  | query _ => .query
  | indirectQuery _ => .indirectQuery
  | forwardQuery _ => .forwardQuery
  | request _ => .request
  | manage _ => .manage
  | keepalive _ => .keepalive

/-- The canonical encoding of the fields. -/
def fields : Packet → ARRAY8
  | broadcastQuery names | query names | indirectQuery names => writeARRAYofARRAY8 names
  | forwardQuery q => q.fields
  | request r => r.fields
  | manage m => m.fields
  | keepalive k => k.fields

/-- The sum with which the handler compares the length in the header. -/
def expectedLen : Packet → Nat
  | broadcastQuery names | query names | indirectQuery names => 1 + sizeARRAYofARRAY8 names
  | forwardQuery q => q.expectedLen
  | request r => r.expectlen
  | manage m => m.expectlen
  | keepalive _ => 6

/-- The arrays are within the limits of the format. -/
def Fits : Packet → Prop
  | broadcastQuery names | query names | indirectQuery names => FitsARRAYofARRAY8 names
  | forwardQuery q => q.Fits
  | request r => r.Fits
  | manage m => ARRAY8.Fits m.displayClass
  | keepalive _ => True

/-- Each sum is the size of the encoding. -/
lemma length_fields (p : Packet) : p.fields.length = p.expectedLen := by
  cases p with
  | broadcastQuery names | query names | indirectQuery names =>
    exact length_writeARRAYofARRAY8 names
  | forwardQuery q =>
    simp only [fields, expectedLen, ForwardQuery.fields, ForwardQuery.expectedLen,
      List.length_append, length_writeARRAY8, length_writeARRAYofARRAY8, List.length_nil]
    omega
  | request r =>
    simp only [fields, expectedLen, Request.fields, Request.expectlen, List.length_append,
      length_writeCARD16, length_writeARRAY16, length_writeARRAY8, length_writeARRAYofARRAY8,
      List.length_nil]
    omega
  | manage m =>
    simp only [fields, expectedLen, Manage.fields, Manage.expectlen, List.length_append,
      length_writeCARD32, length_writeCARD16, length_writeARRAY8, List.length_nil]
    omega
  | keepalive k => rfl

end Packet

/-- The fields that the handler of an opcode reads. -/
def readFields : XdmOpCode → Reading Packet
  | .broadcastQuery => Packet.broadcastQuery <$> readARRAYofARRAY8
  | .query => Packet.query <$> readARRAYofARRAY8
  | .indirectQuery => Packet.indirectQuery <$> readARRAYofARRAY8
  | .forwardQuery => Packet.forwardQuery <$> readForwardQuery
  | .request => Packet.request <$> readRequest
  | .manage => Packet.manage <$> readManage
  | .keepalive => Packet.keepalive <$> readKeepAlive
  | _ => failure

/-- The fields of the packets that `f` makes, if these are the packets with the opcode. -/
lemma codec_packet {α : Type} {valid : α → Prop} {write : α → ARRAY8} {read : Reading α}
    {opcode : XdmOpCode} (f : α → Packet) (h : Codec valid write read)
    (hsurj : ∀ p : Packet, p.opcode = opcode → ∃ a, p = f a) (hop : ∀ a, (f a).opcode = opcode)
    (hfits : ∀ a, (f a).Fits ↔ valid a) (hfields : ∀ a, (f a).fields = write a) :
    Codec (fun p => p.opcode = opcode ∧ p.Fits) Packet.fields (f <$> read) := by
  refine h.map f (fun p => ⟨?_, ?_⟩) fun a _ => hfields a
  · rintro ⟨hp, hpfits⟩
    obtain ⟨a, rfl⟩ := hsurj p hp
    exact ⟨a, rfl, (hfits a).1 hpfits⟩
  · rintro ⟨a, rfl, ha⟩
    exact ⟨hop a, (hfits a).2 ha⟩

lemma codec_readFields (opcode : XdmOpCode) :
    Codec (fun p => p.opcode = opcode ∧ p.Fits) Packet.fields (readFields opcode) := by
  cases opcode with
  | broadcastQuery =>
    exact codec_packet Packet.broadcastQuery codec_readARRAYofARRAY8
      (by rintro (_ | _) <;> simp [Packet.opcode]) (fun _ => rfl) (fun _ => Iff.rfl) fun _ => rfl
  | query =>
    exact codec_packet Packet.query codec_readARRAYofARRAY8
      (by rintro (_ | _) <;> simp [Packet.opcode]) (fun _ => rfl) (fun _ => Iff.rfl) fun _ => rfl
  | indirectQuery =>
    exact codec_packet Packet.indirectQuery codec_readARRAYofARRAY8
      (by rintro (_ | _) <;> simp [Packet.opcode]) (fun _ => rfl) (fun _ => Iff.rfl) fun _ => rfl
  | forwardQuery =>
    exact codec_packet Packet.forwardQuery codec_readForwardQuery
      (by rintro (_ | _) <;> simp [Packet.opcode]) (fun _ => rfl) (fun _ => Iff.rfl) fun _ => rfl
  | request =>
    exact codec_packet Packet.request codec_readRequest
      (by rintro (_ | _) <;> simp [Packet.opcode]) (fun _ => rfl) (fun _ => Iff.rfl) fun _ => rfl
  | manage =>
    exact codec_packet Packet.manage codec_readManage
      (by rintro (_ | _) <;> simp [Packet.opcode]) (fun _ => rfl) (fun _ => Iff.rfl) fun _ => rfl
  | keepalive =>
    exact codec_packet Packet.keepalive codec_readKeepAlive
      (by rintro (_ | _) <;> simp [Packet.opcode]) (fun _ => rfl) (fun _ => Iff.rfl) fun _ => rfl
  | willing | unwilling | accept | decline | refuse | failed | alive =>
    -- no handler reads such a packet
    refine ⟨fun p rest h => ?_, fun _ _ _ h => nomatch h⟩
    cases p <;> cases h.1

/-! ### Accepting a packet -/

/-- The packet with a given opcode, if the length in the header is the one the handler
expects. -/
def acceptFields (opcode : XdmOpCode) (length : Nat) (payload : ARRAY8) : Option Packet :=
  match readFields opcode payload with
  | none => none
  | some (p, _) => if length = p.expectedLen then some p else none

/-- The packet that a datagram is taken for. -/
def packetIn (datagram : ARRAY8) : Option Packet :=
  match readHeader datagram with
  | none => none
  | some (header, payload) =>
    if header.version = xdmProtocolVersion then
      match XdmOpCode.ofCARD16 header.opcode with
      | none => none
      | some opcode => acceptFields opcode header.length.toNat payload
    else none

/-- What the handler of a packet does behind its length check. -/
def Packet.respond (w : World) (fd : Int) (sender : Netaddr) : Packet → M Unit
  | broadcastQuery names => allQueryRespond w sender names .broadcastQuery
  | query names => allQueryRespond w sender names .query
  | indirectQuery names => answerIndirect w sender names
  | forwardQuery q => answerForward w sender q
  | request r => answerRequest w sender r
  | manage m => answerManage w fd sender m
  | keepalive k => answerKeepAlive sender k

/-- A handler that compares the length with the sum for what it reads. -/
lemma eq_acceptFields {α : Type} {opcode : XdmOpCode} {f : α → Packet} {read : Reading α}
    {length : Nat} {payload : ARRAY8} {handler : M Unit} {respond : Packet → M Unit}
    (hread : readFields opcode = f <$> read) (hnone : read payload = none → handler = pure ())
    (hsome : ∀ a rest, read payload = some (a, rest) →
      handler = if length = (f a).expectedLen then respond (f a) else pure ()) :
    handler = (acceptFields opcode length payload).elim (pure ()) respond := by
  have hfields : readFields opcode payload = (read payload).bind fun p => some (f p.1, p.2) := by
    rw [hread]
    rfl
  unfold acceptFields
  cases hp : read payload with
  | none => simp [hfields, hp, hnone hp]
  | some p =>
    simp only [hfields, hp, Option.bind_some]
    rw [hsome p.1 p.2 hp]
    split <;> rfl

/-- `ProcessRequestSocket` acts on the packet of a datagram, and on nothing else. -/
lemma processRequestSocket_eq (w : World) (fd : Int) (sender : Netaddr) (datagram : ARRAY8) :
    processRequestSocket w fd sender datagram =
      (packetIn datagram).elim (pure ()) (Packet.respond w fd sender) := by
  unfold processRequestSocket packetIn
  cases hheader : readHeader datagram with
  | none => rfl
  | some read =>
    obtain ⟨header, payload⟩ := read
    by_cases hversion : header.version = xdmProtocolVersion
    swap
    · simp only [hversion, if_false]
      rfl
    simp only [hversion, if_true]
    cases hopcode : XdmOpCode.ofCARD16 header.opcode with
    | none => rfl
    | some opcode =>
      cases opcode with
      | broadcastQuery | query =>
        exact eq_acceptFields rfl (fun h => by simp [directQueryRespond, h])
          fun _ _ h => by simp only [directQueryRespond, h]; rfl
      | indirectQuery =>
        exact eq_acceptFields rfl (fun h => by simp [indirectRespond, h])
          fun _ _ h => by simp only [indirectRespond, h]; rfl
      | forwardQuery =>
        exact eq_acceptFields rfl (fun h => by simp [forwardRespond, h])
          fun _ _ h => by simp only [forwardRespond, h]; rfl
      | request =>
        exact eq_acceptFields rfl (fun h => by simp [requestRespond, h])
          fun _ _ h => by simp only [requestRespond, h]; rfl
      | manage =>
        exact eq_acceptFields rfl (fun h => by simp [Xdm.manage, h])
          fun _ _ h => by simp only [Xdm.manage, h]; rfl
      | keepalive =>
        exact eq_acceptFields rfl (fun h => by simp [sendAlive, h])
          fun _ _ h => by simp only [sendAlive, h]; rfl
      | willing | unwilling | accept | decline | refuse | failed | alive => rfl

/-- The packet of an input, with the world and the sender. -/
def Input.packet? : Input → Option (World × Netaddr × Packet)
  | .datagram w _ sender bytes => (packetIn bytes).map fun p => (w, sender, p)
  | _ => none

lemma operation_of_packet {i : Input} {w : World} {sender : Netaddr} {p : Packet}
    (h : i.packet? = some (w, sender, p)) : ∃ fd, i.operation = p.respond w fd sender := by
  cases i with
  | datagram w' fd sender' bytes =>
    obtain ⟨p', hp', heq⟩ := Option.map_eq_some_iff.1 h
    obtain ⟨rfl, rfl, rfl⟩ := heq
    refine ⟨fd, ?_⟩
    change processRequestSocket _ fd _ bytes = _
    rw [processRequestSocket_eq, hp']
    rfl
  | _ => exact nomatch h

/-! ### Exactly the encodings -/

/-- The canonical encoding of a packet: the header announces the size of the fields. -/
def Packet.datagram (p : Packet) : ARRAY8 :=
  writeHeader p.opcode.toCARD16 p.fields.length ++ p.fields

lemma acceptFields_eq_some {opcode : XdmOpCode} {length : Nat} {payload : ARRAY8} {p : Packet} :
    acceptFields opcode length payload = some p ↔ p.opcode = opcode ∧ p.Fits ∧
      length = p.fields.length ∧ ∃ rest, payload = p.fields ++ rest := by
  unfold acceptFields
  rw [p.length_fields]
  constructor
  · intro h
    split at h
    · exact nomatch h
    · next q rest hread =>
      split_ifs at h with hlen
      obtain rfl := Option.some.inj h
      obtain ⟨⟨hopcode, hfits⟩, hpayload⟩ := (codec_readFields opcode).eq_write _ _ _ hread
      exact ⟨hopcode, hfits, hlen, rest, hpayload⟩
  · rintro ⟨hopcode, hfits, hlen, rest, rfl⟩
    rw [(codec_readFields opcode).read_write p rest ⟨hopcode, hfits⟩]
    exact if_pos hlen

/-- A header with the version of the protocol, as it is written. -/
lemma readHeader_eq_some {datagram payload : ARRAY8} {header : XdmcpHeader} :
    readHeader datagram = some (header, payload) ∧ header.version = xdmProtocolVersion ↔
      datagram = writeHeader header.opcode header.length.toNat ++ payload ∧
        header.version = xdmProtocolVersion := by
  rw [codec_readHeader.read_eq_some]
  refine and_congr_left fun hversion => ?_
  simp [writeHeader, hversion]

lemma readHeader_writeHeader (opcode length : CARD16) (payload : ARRAY8) :
    readHeader (writeHeader opcode length.toNat ++ payload) =
      some (⟨xdmProtocolVersion, opcode, length⟩, payload) := by
  have hheader := @readHeader_eq_some (writeHeader opcode length.toNat ++ payload) payload
    ⟨xdmProtocolVersion, opcode, length⟩
  exact (hheader.2 ⟨rfl, rfl⟩).1

/-- A datagram is taken for a packet if and only if it begins with the encoding of this
packet. -/
lemma packetIn_eq_some {datagram : ARRAY8} {p : Packet} : packetIn datagram = some p ↔
    p.Fits ∧ p.fields.length < 2 ^ 16 ∧ ∃ rest, datagram = p.datagram ++ rest := by
  constructor
  · intro h
    unfold packetIn at h
    split at h
    · exact nomatch h
    next header payload hheader =>
    split_ifs at h with hversion
    split at h
    · exact nomatch h
    next opcode hopcode =>
    obtain ⟨hp, hfits, hlen, rest, rfl⟩ := acceptFields_eq_some.1 h
    obtain ⟨hdatagram, -⟩ := readHeader_eq_some.1 ⟨hheader, hversion⟩
    refine ⟨hfits, hlen ▸ header.length.toNat_lt, rest, ?_⟩
    rw [hdatagram, hlen, eq_toCARD16 hopcode, ← hp, Packet.datagram, List.append_assoc]
  · rintro ⟨hfits, hlt, rest, rfl⟩
    have hlen : p.fields.length.toUInt16.toNat = p.fields.length := by
      simpa [Nat.toUInt16] using hlt
    have hread := readHeader_writeHeader p.opcode.toCARD16 p.fields.length.toUInt16
      (p.fields ++ rest)
    rw [hlen, ← List.append_assoc] at hread
    unfold packetIn
    rw [Packet.datagram, hread]
    simp only [if_true, ofCARD16_toCARD16]
    exact acceptFields_eq_some.2 ⟨rfl, hfits, hlen, rest, rfl⟩

/-- For every datagram: `ProcessRequestSocket` does what the handler of a packet does behind
its length check, or nothing, and it takes the datagram for a packet if and only if the arrays
of the packet are within the limits of the format and the datagram begins with the encoding
of the packet, whose header has the length of its fields. -/
theorem packet_accepted_iff (w : World) (fd : Int) (sender : Netaddr) (datagram : ARRAY8) :
    processRequestSocket w fd sender datagram =
        (packetIn datagram).elim (pure ()) (Packet.respond w fd sender) ∧
      ∀ p, packetIn datagram = some p ↔
        p.Fits ∧ p.fields.length < 2 ^ 16 ∧ ∃ rest, datagram = p.datagram ++ rest :=
  ⟨processRequestSocket_eq w fd sender datagram, fun _ => packetIn_eq_some⟩

/-- A `QUERY` without names and with one byte behind it is accepted. -/
theorem trailing_byte_accepted : ∃ datagram names,
    packetIn datagram = some (.query names) ∧
    (∀ w fd sender, processRequestSocket w fd sender datagram =
      allQueryRespond w sender names .query) ∧
    datagram ≠ (Packet.query names).datagram :=
  ⟨[0, 1, 0, 2, 0, 1, 0, 0], [], rfl, fun _ _ _ => rfl, by decide⟩

end Xdm
