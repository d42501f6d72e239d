/-
Reading the fields of a packet.

These are the readers of libXdmcp: numbers in network byte order, arrays after their
length, and failure when the packet ends too early.
-/
import Xdm.Base
import Xdm.Lib.Prog

namespace Xdm

/-- A reader takes bytes off the front of the buffer. -/
abbrev Reading (α : Type) : Type := Prog ARRAY8 α

def readCARD8 : Reading UInt8 := fun bs =>
  match bs with
  | b :: bs => some (b, bs)
  | [] => none

def readCARD16 : Reading CARD16 := do
  let hi ← readCARD8
  let lo ← readCARD8
  pure (hi.toUInt16 <<< 8 ||| lo.toUInt16)

def readCARD32 : Reading CARD32 := do
  let hi ← readCARD16
  let lo ← readCARD16
  pure (hi.toUInt32 <<< 16 ||| lo.toUInt32)

/-- The next `n` items. -/
def readMany {α : Type} (item : Reading α) : Nat → Reading (List α)
  | 0 => pure []
  | n + 1 => do
    let a ← item
    let rest ← readMany item n
    pure (a :: rest)

def readARRAY8 : Reading ARRAY8 := do
  let length ← readCARD16
  readMany readCARD8 length.toNat

def readARRAY16 : Reading (List CARD16) := do
  let length ← readCARD8
  readMany readCARD16 length.toNat

def readARRAYofARRAY8 : Reading (List ARRAY8) := do
  let length ← readCARD8
  readMany readARRAY8 length.toNat

structure XdmcpHeader where
  version : CARD16
  opcode : CARD16
  length : CARD16

/-- `XDM_PROTOCOL_VERSION`. -/
def xdmProtocolVersion : CARD16 := 1

def readHeader : Reading XdmcpHeader := do
  let version ← readCARD16
  let opcode ← readCARD16
  let length ← readCARD16
  pure ⟨version, opcode, length⟩

/-- The number of bytes an array of `ARRAY8` takes, without the byte for its length. -/
def sizeARRAYofARRAY8 (arrays : List ARRAY8) : Nat :=
  (arrays.map fun a => 2 + a.length).sum

/-! ### The packets with fields of their own -/

structure Request where
  displayNumber : CARD16
  connectionTypes : List CARD16
  connectionAddresses : List ARRAY8
  authenticationName : ARRAY8
  authenticationData : ARRAY8
  authorizationNames : List ARRAY8
  manufacturerDisplayID : ARRAY8

def readRequest : Reading Request := do
  let displayNumber ← readCARD16
  let connectionTypes ← readARRAY16
  let connectionAddresses ← readARRAYofARRAY8
  let authenticationName ← readARRAY8
  let authenticationData ← readARRAY8
  let authorizationNames ← readARRAYofARRAY8
  let manufacturerDisplayID ← readARRAY8
  pure ⟨displayNumber, connectionTypes, connectionAddresses, authenticationName,
    authenticationData, authorizationNames, manufacturerDisplayID⟩

/-- `expectlen` of `request_respond`. -/
def Request.expectlen (r : Request) : Nat :=
  2 + (1 + 2 * r.connectionTypes.length) + 1 + sizeARRAYofARRAY8 r.connectionAddresses +
    (2 + r.authenticationName.length) + (2 + r.authenticationData.length) + 1 +
    sizeARRAYofARRAY8 r.authorizationNames + (2 + r.manufacturerDisplayID.length)

structure Manage where
  sessionID : CARD32
  displayNumber : CARD16
  displayClass : ARRAY8

def readManage : Reading Manage := do
  let sessionID ← readCARD32
  let displayNumber ← readCARD16
  let displayClass ← readARRAY8
  pure ⟨sessionID, displayNumber, displayClass⟩

/-- `expectlen` of `manage`. -/
def Manage.expectlen (m : Manage) : Nat := 4 + 2 + (2 + m.displayClass.length)

structure ForwardQuery where
  clientAddress : ARRAY8
  clientPort : ARRAY8
  authenticationNames : List ARRAY8

def readForwardQuery : Reading ForwardQuery := do
  let clientAddress ← readARRAY8
  let clientPort ← readARRAY8
  let authenticationNames ← readARRAYofARRAY8
  pure ⟨clientAddress, clientPort, authenticationNames⟩

/-- `expectedLen` of `forward_respond`. -/
def ForwardQuery.expectedLen (q : ForwardQuery) : Nat :=
  (2 + q.clientAddress.length) + (2 + q.clientPort.length) + 1 +
    sizeARRAYofARRAY8 q.authenticationNames

structure KeepAlive where
  displayNumber : CARD16
  sessionID : CARD32

def readKeepAlive : Reading KeepAlive := do
  let displayNumber ← readCARD16
  let sessionID ← readCARD32
  pure ⟨displayNumber, sessionID⟩

/-! ### Writing -/

def writeCARD16 (n : CARD16) : ARRAY8 := [(n >>> 8).toUInt8, n.toUInt8]

def writeCARD32 (n : CARD32) : ARRAY8 :=
  writeCARD16 (n >>> 16).toUInt16 ++ writeCARD16 n.toUInt16

def writeARRAY8 (a : ARRAY8) : ARRAY8 := writeCARD16 a.length.toUInt16 ++ a

def writeARRAY16 (a : List CARD16) : ARRAY8 := a.length.toUInt8 :: a.flatMap writeCARD16

def writeARRAYofARRAY8 (a : List ARRAY8) : ARRAY8 := a.length.toUInt8 :: a.flatMap writeARRAY8

def writeHeader (opcode : CARD16) (length : Nat) : ARRAY8 :=
  writeCARD16 xdmProtocolVersion ++ writeCARD16 opcode ++ writeCARD16 length.toUInt16

/-- The datagram with which a display asks for a session. -/
def Request.datagram (r : Request) : ARRAY8 :=
  writeHeader 7 r.expectlen ++ writeCARD16 r.displayNumber ++ writeARRAY16 r.connectionTypes ++
    writeARRAYofARRAY8 r.connectionAddresses ++ writeARRAY8 r.authenticationName ++
    writeARRAY8 r.authenticationData ++ writeARRAYofARRAY8 r.authorizationNames ++
    writeARRAY8 r.manufacturerDisplayID

/-- The datagram with which it asks to be managed. -/
def Manage.datagram (m : Manage) : ARRAY8 :=
  writeHeader 10 m.expectlen ++ writeCARD32 m.sessionID ++ writeCARD16 m.displayNumber ++
    writeARRAY8 m.displayClass

end Xdm
