/-
Queries (`xdm/xdmcp.c`): `QUERY`, `BROADCAST_QUERY`, `INDIRECT_QUERY` and
`FORWARD_QUERY`.
-/
import Xdm.Auth
import Xdm.Choose
import Xdm.Xdmcp.Buffer
import Xdm.Xdmcp.Replies

namespace Xdm

/-- `ClientAddress`: address, port and connection type of a sender.  The family `-1`
becomes a `CARD16`. -/
def clientAddress (sa : SockAddr) : ARRAY8 × ARRAY8 × CARD16 :=
  let (family, addr) := convertAddr sa
  (addr, netaddrPort sa, family.getD 65535)

/-! ### Answering a query -/

/-- The part of `all_query_respond` after the indirect client is noted or forgotten. -/
def answerQuery (w : World) (sender : Netaddr) (authenticationNames : List ARRAY8)
    (addr : ARRAY8) (connectionType : CARD16) (type : XdmOpCode) : M Unit := do
  let s ← get
  let authenticationName := chooseAuthentication s.config authenticationNames
  let (ret, status) := willing w s.config s.database addr connectionType type
  if ret then sendWilling w sender authenticationName status
  else if type = .query then sendUnwilling w sender status

def allQueryRespond (w : World) (sender : Netaddr) (authenticationNames : List ARRAY8)
    (type : XdmOpCode) : M Unit := do
  match convertAddr sender.sa with
  | (none, _) => pure ()
  | (some connectionType, addr) =>
    if type = .indirectQuery then rememberIndirectClient w addr connectionType
    else forgetIndirectClient addr connectionType
    answerQuery w sender authenticationNames addr connectionType type

/-- `query_respond` and `broadcast_respond`. -/
def directQueryRespond (w : World) (sender : Netaddr) (length : Nat) (payload : ARRAY8)
    (type : XdmOpCode) : M Unit :=
  match readARRAYofARRAY8 payload with
  | none => pure ()
  | some (authenticationNames, _) =>
    if length = 1 + sizeARRAYofARRAY8 authenticationNames then
      allQueryRespond w sender authenticationNames type
    else pure ()

/-! ### Indirect queries -/

def octets? (n : Nat) (bs : List UInt8) : Option (Octets n) :=
  if h : bs.length = n then some ⟨bs, h⟩ else none

/-- `htons (XDM_UDP_PORT)`. -/
def xdmUdpPort : Octets 2 := ⟨[0, 177], rfl⟩

/-- An interface index as it is kept behind a host address, in host byte order. -/
def ifindexOf (bs : List UInt8) : UInt32 :=
  bs.foldr (fun b n => n <<< 8 ||| b.toUInt32) 0

/-- The socket address `sendForward` sends to, by the length of the host address. -/
def forwardAddr (address : ARRAY8) : Option SockAddr :=
  if address.length = 4 ∨ address.length = 8 then
    (octets? 4 (address.take 4)).map fun a => .inet xdmUdpPort a
  else if address.length = 16 ∨ address.length = 20 then
    (octets? 16 (address.take 16)).map fun a =>
      .inet6 xdmUdpPort a (ifindexOf (address.drop 16))
  else none

/-- `sendForward` with `adjustAddress`: if the client is local, the packet names the
address this host would use towards the destination. -/
def sendForward (w : World) (isLocal : Bool) (clientAddr clientPort : ARRAY8)
    (authenticationNames : List ARRAY8) (address : ARRAY8) : M Unit :=
  match forwardAddr address with
  | none => pure ()
  | some dest =>
    let cAddr := match isLocal, w.getClientAddress dest with
      | true, some own => (clientAddress own).1
      | _, _ => clientAddr
    emit (.send dest (.forwardQuery cAddr clientPort authenticationNames))

/-- `IndirectChoice` for the client of a scan that asks for it. -/
def choiceFor (w : World) (addr : ARRAY8) (connectionType : CARD16) : M (Option ARRAY8) := do
  let s ← get
  if asksChoice w s.database addr connectionType then indirectChoice w addr connectionType
  else pure none

/-- `indirect_respond` for a packet of the right length. -/
def answerIndirect (w : World) (sender : Netaddr) (names : List ARRAY8) : M Unit := do
  let (addr, port, connectionType) := clientAddress sender.sa
  let isLocal := isLocalAddress w addr connectionType
  let choice ← choiceFor w addr connectionType
  let s ← get
  let scan := forEachMatchingIndirectHost w s.database choice addr connectionType
  scan.calls.forM (sendForward w isLocal addr port names)
  if scan.haveLocalhost then allQueryRespond w sender names .indirectQuery

def indirectRespond (w : World) (sender : Netaddr) (length : Nat) (payload : ARRAY8) :
    M Unit :=
  match readARRAYofARRAY8 payload with
  | none => pure ()
  | some (names, _) =>
    if length = 1 + sizeARRAYofARRAY8 names then answerIndirect w sender names else pure ()

/-! ### Forwarded queries -/

/-- The client that a forwarded query is from, as a socket address of the family in which
the query arrived. -/
def forwardedClient (family : AddrFamily) (q : ForwardQuery) : Option Netaddr :=
  match family with
  | .inet => do
    let addr ← octets? 4 q.clientAddress
    let port ← octets? 2 q.clientPort
    pure ⟨.inet port addr, 16⟩
  | .inet6 => do
    let addr ← octets? 16 (if q.clientAddress.length = 4 then
      [0, 0, 0, 0, 0, 0, 0, 0, 0, 0, 0xff, 0xff] ++ q.clientAddress else q.clientAddress)
    let port ← octets? 2 q.clientPort
    pure ⟨.inet6 port addr 0, 28⟩
  | .unix =>
    if 108 ≤ q.clientAddress.length then none
    else some ⟨.unix (q.clientAddress.takeWhile (· ≠ 0)), 110⟩
  | _ => none

/-- `forward_respond` for a packet of the right length. -/
def answerForward (w : World) (sender : Netaddr) (q : ForwardQuery) : M Unit :=
  match forwardedClient (netaddrFamily sender.sa) q with
  | some client => allQueryRespond w client q.authenticationNames .forwardQuery
  | none => pure ()

def forwardRespond (w : World) (sender : Netaddr) (length : Nat) (payload : ARRAY8) :
    M Unit :=
  match readForwardQuery payload with
  | none => pure ()
  | some (q, _) => if length = q.expectedLen then answerForward w sender q else pure ()

end Xdm
