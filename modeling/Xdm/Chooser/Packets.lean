/-
# The packets of the chooser

The chooser (`chooser/chooser.c`) has encoders and decoders of its own: `InitXDMCP` prepares
the queries, and `ReceivePacket` takes the answers of the daemon.  `chooser_speaks_xdmcp` says
that they fit to those of `xdm/xdmcp.c`, in both directions.
-/
import Xdm.Xdmcp.Messages

namespace Xdm

open Prog

/-! ### Receiving answers -/

/-- What `ReceivePacket` passes to `AddHostname`, besides the address of the sender. -/
structure HostReport where
  hostname : ARRAY8
  status : ARRAY8
  willing : Bool
deriving DecidableEq

/-- The fields of a `WILLING`: authentication name, host name and status. -/
def readWilling : Reading (ARRAY8 × ARRAY8 × ARRAY8) := do
  let authenticationName ← readARRAY8
  let hostname ← readARRAY8
  let status ← readARRAY8
  pure (authenticationName, hostname, status)

/-- The fields of an `UNWILLING`: host name and status. -/
def readUnwilling : Reading (ARRAY8 × ARRAY8) := do
  let hostname ← readARRAY8
  let status ← readARRAY8
  pure (hostname, status)

/-- `ReceivePacket`, up to the call of `AddHostname`. -/
def receivePacket (datagram : ARRAY8) : Option HostReport :=
  match readHeader datagram with
  | none => none
  | some (header, payload) =>
    if header.version = xdmProtocolVersion then
      match XdmOpCode.ofCARD16 header.opcode with
      | some .willing =>
        match readWilling payload with
        | none => none
        | some ((authenticationName, hostname, status), _) =>
          if header.length.toNat =
              6 + authenticationName.length + hostname.length + status.length then
            some ⟨hostname, status, header.opcode = XdmOpCode.willing.toCARD16⟩
          else none
      | some .unwilling =>
        match readUnwilling payload with
        | none => none
        | some ((hostname, status), _) =>
          if header.length.toNat = 4 + hostname.length + status.length then
            some ⟨hostname, status, header.opcode = XdmOpCode.willing.toCARD16⟩
          else none
      | _ => none
    else none

/-! ### Preparing queries -/

/-- A packet that `InitXDMCP` prepares, for one of the two opcodes. -/
def initQuery (W : XdmcpWriter) (opcode : XdmOpCode) (authenticationNames : List ARRAY8) :
    ARRAY8 :=
  W.write [writeHeader opcode.toCARD16 (addSizes 1 authenticationNames).toNat,
    writeARRAYofARRAY8 authenticationNames]

def broadcastBuffer (W : XdmcpWriter) (authenticationNames : List ARRAY8) : ARRAY8 :=
  initQuery W .broadcastQuery authenticationNames

def directBuffer (W : XdmcpWriter) (authenticationNames : List ARRAY8) : ARRAY8 :=
  initQuery W .query authenticationNames

/-! ### From the daemon to the chooser -/

lemma codec_readWilling : Codec
    (fun a => ARRAY8.Fits a.1 ∧ ARRAY8.Fits a.2.1 ∧ ARRAY8.Fits a.2.2)
    (fun a => (Message.willing a.1 a.2.1 a.2.2).fields.flatten) readWilling := by
  refine codec_readARRAY8.bind (fun a : ARRAY8 × ARRAY8 × ARRAY8 => a.1) (fun _ h => h.1)
    fun _ hname => ?_
  change Codec _ (fun a : ARRAY8 × ARRAY8 × ARRAY8 => writeARRAY8 a.2.1 ++
    (writeARRAY8 a.2.2 ++ [])) _
  refine codec_readARRAY8.bind (fun a : ARRAY8 × ARRAY8 × ARRAY8 => a.2.1) (fun _ h => h.2.2.1)
    fun _ hhostname => ?_
  refine codec_readARRAY8.bind (fun a : ARRAY8 × ARRAY8 × ARRAY8 => a.2.2) (fun _ h => h.2.2.2.2)
    fun _ hstatus => ?_
  refine (Codec.pure _).congr (fun a => ⟨?_, ?_⟩) fun _ _ => rfl
  · rintro ⟨rfl, rfl, rfl, -⟩
    rfl
  · rintro rfl
    exact ⟨rfl, rfl, rfl, hname, hhostname, hstatus⟩

lemma codec_readUnwilling : Codec (fun a => ARRAY8.Fits a.1 ∧ ARRAY8.Fits a.2)
    (fun a => (Message.unwilling a.1 a.2).fields.flatten) readUnwilling := by
  refine codec_readARRAY8.bind (fun a : ARRAY8 × ARRAY8 => a.1) (fun _ h => h.1)
    fun _ hhostname => ?_
  change Codec _ (fun a : ARRAY8 × ARRAY8 => writeARRAY8 a.2 ++ []) _
  refine codec_readARRAY8.bind (fun a : ARRAY8 × ARRAY8 => a.2) (fun _ h => h.2.2)
    fun _ hstatus => ?_
  refine (Codec.pure _).congr (fun a => ⟨?_, ?_⟩) fun _ _ => rfl
  · rintro ⟨rfl, rfl, -⟩
    rfl
  · rintro rfl
    exact ⟨rfl, rfl, hhostname, hstatus⟩

/-- A `WILLING` that fits into the buffer is accepted. -/
lemma receivePacket_willing (W : XdmcpWriter) {authenticationName hostname status : ARRAY8}
    (h : 12 + authenticationName.length + hostname.length + status.length ≤ xdmMaxMsglen) :
    receivePacket ((Message.willing authenticationName hostname status).datagram W) =
      some ⟨hostname, status, true⟩ := by
  have hsize : 6 + (Message.willing authenticationName hostname status).size ≤ xdmMaxMsglen := by
    rw [Message.size_willing]
    omega
  have han : ARRAY8.Fits authenticationName := ARRAY8.fits_of_le (by omega)
  have hhostname : ARRAY8.Fits hostname := ARRAY8.fits_of_le (by omega)
  have hstatus : ARRAY8.Fits status := ARRAY8.fits_of_le (by omega)
  have hread := codec_readWilling.read_write (authenticationName, hostname, status) []
    ⟨han, hhostname, hstatus⟩
  have hlength := Message.toNat_headerLength_of_fits hsize
  rw [List.append_nil] at hread
  rw [Message.size_willing] at hlength
  unfold receivePacket
  rw [Message.readHeader_datagram W hsize]
  simp only [if_true, Message.opcode, ofCARD16_toCARD16, hread, hlength, decide_true]

/-- So is an `UNWILLING`. -/
lemma receivePacket_unwilling (W : XdmcpWriter) {hostname status : ARRAY8}
    (h : 10 + hostname.length + status.length ≤ xdmMaxMsglen) :
    receivePacket ((Message.unwilling hostname status).datagram W) =
      some ⟨hostname, status, false⟩ := by
  have hsize : 6 + (Message.unwilling hostname status).size ≤ xdmMaxMsglen := by
    rw [Message.size_unwilling]
    omega
  have hhostname : ARRAY8.Fits hostname := ARRAY8.fits_of_le (by omega)
  have hstatus : ARRAY8.Fits status := ARRAY8.fits_of_le (by omega)
  have hread := codec_readUnwilling.read_write (hostname, status) [] ⟨hhostname, hstatus⟩
  have hlength := Message.toNat_headerLength_of_fits hsize
  rw [List.append_nil] at hread
  rw [Message.size_unwilling] at hlength
  unfold receivePacket
  rw [Message.readHeader_datagram W hsize]
  simp only [if_true, Message.opcode, ofCARD16_toCARD16, hread, hlength]
  rfl

/-! ### From the chooser to the daemon -/

/-- What fits into the buffer is the encoding of a packet. -/
lemma initQuery_eq (W : XdmcpWriter) (opcode : XdmOpCode) {names : List ARRAY8}
    (hsize : 7 + sizeARRAYofARRAY8 names ≤ xdmMaxMsglen) :
    initQuery W opcode names =
      writeHeader opcode.toCARD16 (1 + sizeARRAYofARRAY8 names) ++ writeARRAYofARRAY8 names := by
  rw [xdmMaxMsglen] at hsize
  have hlength : (addSizes 1 names).toNat = 1 + sizeARRAYofARRAY8 names := by
    rw [← UInt16.ofNat_one, addSizes_eq, UInt16.toNat_ofNat']
    omega
  rw [initQuery, W.write_eq_flatten, hlength, List.flatten_cons, List.flatten_cons,
    List.flatten_nil, List.append_nil]
  simp only [List.flatten_cons, List.flatten_nil, List.length_append, length_writeHeader,
    length_writeARRAYofARRAY8, List.length_nil, xdmMaxMsglen]
  omega

/-- A query is accepted with the names it has been prepared for. -/
lemma packetIn_initQuery (W : XdmcpWriter) {p : Packet} {names : List ARRAY8}
    (hfields : p.fields = writeARRAYofARRAY8 names) (hp : p.Fits ↔ FitsARRAYofARRAY8 names)
    (hlength : names.length < 2 ^ 8) (hsize : 7 + sizeARRAYofARRAY8 names ≤ xdmMaxMsglen) :
    packetIn (initQuery W p.opcode names) = some p := by
  have hnames : FitsARRAYofARRAY8 names := by
    refine ⟨hlength, fun name hname => ARRAY8.fits_of_le ?_⟩
    have := length_le_size hname
    omega
  have hlen : p.fields.length = 1 + sizeARRAYofARRAY8 names := by
    rw [hfields, length_writeARRAYofARRAY8]
  refine packetIn_eq_some.2 ⟨hp.2 hnames, ?_, [], ?_⟩
  · rw [xdmMaxMsglen] at hsize
    omega
  · rw [initQuery_eq W p.opcode hsize, List.append_nil, Packet.datagram, hlen, hfields]

/-- The chooser accepts every `WILLING` and `UNWILLING` that fits into the buffer, and passes
the host name and the status on, with the flag for `WILLING` only; and `xdm` answers the
`QUERY` and the `BROADCAST_QUERY` that the chooser prepares for a list of authentication names
as queries with these names. -/
theorem chooser_speaks_xdmcp (W : XdmcpWriter) :
    (∀ authenticationName hostname status,
      12 + authenticationName.length + hostname.length + status.length ≤ xdmMaxMsglen →
      receivePacket ((Message.willing authenticationName hostname status).datagram W) =
        some ⟨hostname, status, true⟩) ∧
    (∀ hostname status, 10 + hostname.length + status.length ≤ xdmMaxMsglen →
      receivePacket ((Message.unwilling hostname status).datagram W) =
        some ⟨hostname, status, false⟩) ∧
    ∀ names : List ARRAY8, names.length < 2 ^ 8 → 7 + sizeARRAYofARRAY8 names ≤ xdmMaxMsglen →
      ∀ w fd sender,
        processRequestSocket w fd sender (directBuffer W names) =
          allQueryRespond w sender names .query ∧
        processRequestSocket w fd sender (broadcastBuffer W names) =
          allQueryRespond w sender names .broadcastQuery := by
  refine ⟨fun an hostname status h => receivePacket_willing W h,
    fun hostname status h => receivePacket_unwilling W h, fun names hlength hsize w fd sender => ?_⟩
  have hquery : packetIn (directBuffer W names) = some (.query names) :=
    packetIn_initQuery W (p := .query names) rfl Iff.rfl hlength hsize
  have hbroadcast : packetIn (broadcastBuffer W names) = some (.broadcastQuery names) :=
    packetIn_initQuery W (p := .broadcastQuery names) rfl Iff.rfl hlength hsize
  constructor
  · rw [processRequestSocket_eq, hquery]
    rfl
  · rw [processRequestSocket_eq, hbroadcast]
    rfl

/-- The answer of a host `h` that is willing. -/
theorem chooser_hears_host :
    receivePacket ((Message.willing [] [104] [79, 75]).datagram (Writer.cutting UInt8 _)) =
      some ⟨[104], [79, 75], true⟩ :=
  (chooser_speaks_xdmcp (Writer.cutting UInt8 _)).1 [] [104] [79, 75] (by decide)

end Xdm
