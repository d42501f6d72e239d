/-
# The bytes of the packets that are sent

Each encoder of `xdm/xdmcp.c` computes a header length of its own and writes the fields one
by one, without looking at what the writers of libXdmcp return.  The header length is the
size of the fields as a `CARD16`; the datagram has all the fields if and only if they fit
into the buffer behind the header.
-/
import Mathlib.Algebra.Order.BigOperators.Group.List
import Mathlib.Algebra.Order.Group.Nat
import Xdm.Lib.Writer
import Xdm.Packets

namespace Xdm

open Prog

/-- `XDM_MAX_MSGLEN`, the size of the buffer. -/
def xdmMaxMsglen : Nat := 8192

/-- The functions `XdmcpWrite…` of libXdmcp. -/
abbrev XdmcpWriter : Type := Writer UInt8 xdmMaxMsglen

/-- The `length` of an `ARRAY8`. -/
def ARRAY8.size (a : ARRAY8) : CARD16 := a.length.toUInt16

/-- What fits into the buffer has a length that fits its field. -/
lemma ARRAY8.fits_of_le {a : ARRAY8} (h : a.length ≤ xdmMaxMsglen) : ARRAY8.Fits a :=
  Nat.lt_of_le_of_lt h (by decide)

lemma length_le_size {names : List ARRAY8} {name : ARRAY8} (h : name ∈ names) :
    name.length ≤ sizeARRAYofARRAY8 names := by
  have hmem : 2 + name.length ∈ names.map fun a => 2 + a.length := List.mem_map_of_mem h
  exact Nat.le_trans (Nat.le_add_left _ _) (List.le_sum_of_mem hmem)

/-- The loop that adds up the sizes of an `ARRAYofARRAY8`. -/
def addSizes (length : CARD16) (arrays : List ARRAY8) : CARD16 :=
  arrays.foldl (fun length a => length + (2 + ARRAY8.size a)) length

namespace Message

def opcode : Message → XdmOpCode
  | forwardQuery .. => .forwardQuery
  | willing .. => .willing
  | unwilling .. => .unwilling
  | accept .. => .accept
  | decline .. => .decline
  | refuse .. => .refuse
  | failed .. => .failed
  | alive .. => .alive

/-- `header.length`. -/
def headerLength : Message → CARD16
  | forwardQuery clientAddress clientPort authenticationNames =>
    addSizes (0 + (2 + ARRAY8.size clientAddress) + (2 + ARRAY8.size clientPort) + 1)
      authenticationNames
  | willing authenticationName hostname status =>
    6 + ARRAY8.size authenticationName + ARRAY8.size hostname + ARRAY8.size status
  | unwilling hostname status => 4 + ARRAY8.size hostname + ARRAY8.size status
  | accept _ authenticationName authenticationData authorizationName authorizationData =>
    4 + (2 + ARRAY8.size authenticationName) + (2 + ARRAY8.size authenticationData) +
      (2 + ARRAY8.size authorizationName) + (2 + ARRAY8.size authorizationData)
  | decline status authenticationName authenticationData =>
    0 + (2 + ARRAY8.size status) + (2 + ARRAY8.size authenticationName) +
      (2 + ARRAY8.size authenticationData)
  | refuse _ => 4
  | failed _ status => 6 + ARRAY8.size status
  | alive _ _ => 5

/-- What is given to the writers after the header, in this order. -/
def fields : Message → List ARRAY8
  | forwardQuery clientAddress clientPort authenticationNames =>
    [writeARRAY8 clientAddress, writeARRAY8 clientPort, writeARRAYofARRAY8 authenticationNames]
  | willing authenticationName hostname status =>
    [writeARRAY8 authenticationName, writeARRAY8 hostname, writeARRAY8 status]
  | unwilling hostname status => [writeARRAY8 hostname, writeARRAY8 status]
  | accept sessionID authenticationName authenticationData authorizationName
      authorizationData =>
    [writeCARD32 sessionID, writeARRAY8 authenticationName, writeARRAY8 authenticationData,
      writeARRAY8 authorizationName, writeARRAY8 authorizationData]
  | decline status authenticationName authenticationData =>
    [writeARRAY8 status, writeARRAY8 authenticationName, writeARRAY8 authenticationData]
  | refuse sessionID => [writeCARD32 sessionID]
  | failed sessionID status => [writeCARD32 sessionID, writeARRAY8 status]
  | alive sessionRunning sessionID => [[sessionRunning], writeCARD32 sessionID]

/-- The header, as `XdmcpWriteHeader` writes it. -/
def header (m : Message) : ARRAY8 := writeHeader m.opcode.toCARD16 m.headerLength.toNat

/-- What `XdmcpFlush` sends. -/
def datagram (W : XdmcpWriter) (m : Message) : ARRAY8 := W.write (m.header :: m.fields)

/-- The number of bytes that have been written after the header. -/
def written (W : XdmcpWriter) (m : Message) : Nat := (m.datagram W).length - 6

/-- The size of all the fields. -/
def size (m : Message) : Nat := m.fields.flatten.length

end Message

/-- The loop adds the size of the array. -/
lemma addSizes_eq (n : Nat) (arrays : List ARRAY8) :
    addSizes (UInt16.ofNat n) arrays = UInt16.ofNat (n + sizeARRAYofARRAY8 arrays) := by
  induction arrays generalizing n with
  | nil => rfl
  | cons a arrays ih =>
    have hstep : UInt16.ofNat n + (2 + ARRAY8.size a) = UInt16.ofNat (n + (2 + a.length)) := by
      rw [UInt16.ofNat_add, UInt16.ofNat_add]
      rfl
    rw [addSizes, List.foldl_cons, hstep]
    refine (ih (n + (2 + a.length))).trans (congrArg UInt16.ofNat ?_)
    rw [sizeARRAYofARRAY8, sizeARRAYofARRAY8, List.map_cons, List.sum_cons]
    omega

namespace Message

/-! ### Sizes -/

section

variable (clientAddress clientPort authenticationName authenticationData authorizationName
  authorizationData hostname status : ARRAY8) (authenticationNames : List ARRAY8)
  (sessionID : CARD32) (sessionRunning : UInt8)

@[simp] lemma size_forwardQuery : (forwardQuery clientAddress clientPort authenticationNames).size =
    5 + clientAddress.length + clientPort.length + sizeARRAYofARRAY8 authenticationNames := by
  simp [size, fields]
  omega

@[simp] lemma size_willing : (willing authenticationName hostname status).size =
    6 + authenticationName.length + hostname.length + status.length := by
  simp [size, fields]
  omega

@[simp] lemma size_unwilling :
    (unwilling hostname status).size = 4 + hostname.length + status.length := by
  simp [size, fields]
  omega

@[simp] lemma size_accept : (accept sessionID authenticationName authenticationData
    authorizationName authorizationData).size = 12 + authenticationName.length +
      authenticationData.length + authorizationName.length + authorizationData.length := by
  simp [size, fields]
  omega

@[simp] lemma size_decline : (decline status authenticationName authenticationData).size =
    6 + status.length + authenticationName.length + authenticationData.length := by
  simp [size, fields]
  omega

@[simp] lemma size_refuse : (refuse sessionID).size = 4 := rfl

@[simp] lemma size_failed : (failed sessionID status).size = 6 + status.length := by
  simp [size, fields]
  omega

@[simp] lemma size_alive : (alive sessionRunning sessionID).size = 5 := rfl

end

/-! ### The header length -/

/-- Every encoder announces the size of its fields. -/
lemma headerLength_eq (m : Message) : m.headerLength = UInt16.ofNat m.size := by
  have hsize : ∀ a : ARRAY8, ARRAY8.size a = UInt16.ofNat a.length := fun _ => rfl
  cases m with
  | forwardQuery clientAddress clientPort authenticationNames =>
    have hfirst : (0 + (2 + ARRAY8.size clientAddress) + (2 + ARRAY8.size clientPort) + 1 :
        CARD16) = UInt16.ofNat (2 + clientAddress.length + (2 + clientPort.length) + 1) := by
      simp only [hsize, UInt16.ofNat_add, UInt16.reduceOfNat, UInt16.zero_add]
    rw [headerLength, hfirst, addSizes_eq, size_forwardQuery]
    exact congrArg UInt16.ofNat (by omega)
  | refuse | alive => rfl
  | willing | unwilling | failed =>
    simp only [headerLength, size_willing, size_unwilling, size_failed, hsize, UInt16.ofNat_add,
      UInt16.reduceOfNat]
  | accept | decline =>
    simp only [headerLength, size_accept, size_decline, hsize, UInt16.ofNat_add,
      UInt16.reduceOfNat]
    grind

/-- The sum does not wrap as long as the fields are not too large for a `CARD16`. -/
lemma toNat_headerLength {m : Message} (h : m.size < 2 ^ 16) : m.headerLength.toNat = m.size := by
  rw [headerLength_eq, UInt16.toNat_ofNat']
  exact Nat.mod_eq_of_lt h

/-! ### The bytes -/

lemma length_header (m : Message) : m.header.length = 6 := rfl

/-- The size of everything that is given to the writers. -/
lemma length_flatten (m : Message) : (m.header :: m.fields).flatten.length = 6 + m.size := by
  rw [List.flatten_cons, List.length_append, length_header, size]

/-- A packet that fits into the buffer is sent as a whole. -/
lemma datagram_eq (W : XdmcpWriter) {m : Message} (h : 6 + m.size ≤ xdmMaxMsglen) :
    m.datagram W = m.header ++ m.fields.flatten := by
  rw [datagram, W.write_eq_flatten (by rwa [length_flatten]), List.flatten_cons]

lemma toNat_headerLength_of_fits {m : Message} (h : 6 + m.size ≤ xdmMaxMsglen) :
    m.headerLength.toNat = m.size := by
  refine toNat_headerLength ?_
  rw [xdmMaxMsglen] at h
  omega

/-- The header and the fields of such a packet are read back. -/
lemma readHeader_datagram (W : XdmcpWriter) {m : Message} (h : 6 + m.size ≤ xdmMaxMsglen) :
    readHeader (m.datagram W) =
      some (⟨xdmProtocolVersion, m.opcode.toCARD16, m.headerLength⟩, m.fields.flatten) := by
  rw [m.datagram_eq W h]
  exact readHeader_writeHeader m.opcode.toCARD16 m.headerLength m.fields.flatten

/-- The header is always there. -/
lemma datagram_eq_append (W : XdmcpWriter) (m : Message) :
    ∃ part, m.datagram W = m.header ++ part ∧ part.length = m.written W ∧
      6 + m.written W ≤ xdmMaxMsglen := by
  have hle : m.header.length ≤ xdmMaxMsglen := by
    rw [length_header]
    decide
  obtain ⟨part, hsize, hpart⟩ := W.write_cons m.fields hle
  rw [← datagram] at hpart
  have hlen : part.length = m.written W := by
    rw [written, hpart, List.length_append, length_header]
    omega
  rw [length_header, hlen] at hsize
  exact ⟨part, hpart, hlen, hsize⟩

/-- All fields are written if and only if they fit behind the header. -/
lemma written_eq_size_iff (W : XdmcpWriter) (m : Message) :
    m.written W = m.size ↔ 6 + m.size ≤ xdmMaxMsglen := by
  obtain ⟨part, hpart, hlen, -⟩ := m.datagram_eq_append W
  rw [← length_flatten, ← W.length_write_eq_iff, length_flatten, ← datagram, hpart,
    List.length_append, length_header, hlen]
  omega

/-- A packet that does not fit into the buffer is accepted by nobody. -/
lemma packetIn_datagram_of_not_fits (W : XdmcpWriter) {m : Message} (hlt : m.size < 2 ^ 16)
    (h : ¬ 6 + m.size ≤ xdmMaxMsglen) : packetIn (m.datagram W) = none := by
  obtain ⟨part, hpart, hlen, hsize⟩ := m.datagram_eq_append W
  unfold packetIn
  rw [hpart, header, readHeader_writeHeader]
  simp only [if_true, ofCARD16_toCARD16]
  cases hp : acceptFields m.opcode m.headerLength.toNat part with
  | none => rfl
  | some p =>
    obtain ⟨-, -, hannounced, rest, hfields⟩ := acceptFields_eq_some.1 hp
    have hle := congrArg List.length hfields
    rw [toNat_headerLength hlt] at hannounced
    rw [List.length_append] at hle
    omega

end Message

end Xdm
