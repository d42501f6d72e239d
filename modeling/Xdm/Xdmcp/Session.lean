/-
From `REQUEST` to a session (`xdm/xdmcp.c`): `request_respond`, `manage`, `send_alive`.
-/
import Xdm.Dm
import Xdm.Xdmcp.Query

namespace Xdm

/-! ### `REQUEST` -/

/-- `NextSessionID`, as the `CARD32` it is passed on as. -/
def nextSessionID : M CARD32 := do
  let s ← get
  set { s with globalSessionID := s.globalSessionID + 1 }
  pure (UInt32.ofNat (s.globalSessionID + 1))

def outOfMemory : ARRAY8 := bytesOf "Out of memory".toList
def noValidAddr : ARRAY8 := bytesOf "No valid address".toList
def noValidAuth : ARRAY8 := bytesOf "No valid authorization".toList
def noAuthentic : ARRAY8 := bytesOf "XDM has no authentication key".toList

/-- The proto-display of a new session, or the reason to decline it. -/
def newSession (w : World) (sender : Netaddr) (r : Request) : M (ProtoDisplay ⊕ ARRAY8) := do
  match convertAddr sender.sa with
  | (none, _) => pure (.inr noValidAddr)
  | (some family, addr) =>
    let s ← get
    match accept w s.config s.database addr family with
    | some reason => pure (.inr reason)
    | none =>
      let selected := selectConnectionTypeIndex w addr family r.connectionTypes
        r.connectionAddresses
      -- the array of no addresses is a null pointer
      if r.connectionAddresses = [] ∧ selected.2 ≠ [] then failure
      else match selected.1 with
      | none => pure (.inr noValidAddr)
      | some c =>
        let sessionID ← nextSessionID
        match ← newProtoDisplay w sender r.displayNumber c.connectionType
            c.connectionAddress sessionID with
        | none => pure (.inr outOfMemory)
        | some pdpy => pure (.inl pdpy)

/-- The index of the authorization name to use; behind the end of an empty list. -/
def authorizationIndex (cfg : Config) (r : Request) : Option Nat :=
  if r.authorizationNames = [] then some 0
  else selectAuthorizationTypeIndex cfg r.authenticationName r.authorizationNames

/-- Give the proto-display the authorization at index `j`, and what the packet says of it. -/
def grantAuthorization (w : World) (cfg : Config) (pdpy : ProtoDisplay) (r : Request)
    (j : Nat) : Option (ProtoDisplay × Option Xauth) :=
  match r.authorizationNames[j]? with
  | none => some (pdpy, none)
  | some name => (setProtoDisplayAuthorization w cfg pdpy name).map fun pdpy =>
      (pdpy, pdpy.xdmcpAuthorization.or pdpy.fileAuthorization)

/-- The part of `request_respond` that is the same for a new and a known proto-display. -/
def authorizeRequest (w : World) (sender : Netaddr) (r : Request) (pdpy : ProtoDisplay) :
    M Unit := do
  let s ← get
  match authorizationIndex s.config r with
  | none =>
    sendDecline sender r.authenticationName r.authenticationData noValidAuth
    disposeProtoDisplay pdpy.addr
  | some j =>
    match checkAuthentication w s.config pdpy r.manufacturerDisplayID r.authenticationName
        r.authenticationData with
    | (false, _, authenticationData) =>
      sendDecline sender r.authenticationName authenticationData noAuthentic
      disposeProtoDisplay pdpy.addr
    | (true, pdpy, authenticationData) =>
      match grantAuthorization w s.config pdpy r j with
      | none => failure
      | some (pdpy, auth) =>
        writeProtoDisplay pdpy
        sendAccept sender pdpy.sessionID r.authenticationName authenticationData
          ((auth.map Xauth.name).getD []) ((auth.map Xauth.data).getD [])

/-- `request_respond` for a packet of the right length. -/
def answerRequest (w : World) (sender : Netaddr) (r : Request) : M Unit := do
  let s ← get
  match findProtoDisplay sender r.displayNumber s.protoDisplays with
  | some pdpy => authorizeRequest w sender r pdpy
  | none =>
    match ← newSession w sender r with
    | .inl pdpy => authorizeRequest w sender r pdpy
    | .inr reason => sendDecline sender r.authenticationName r.authenticationData reason

def requestRespond (w : World) (sender : Netaddr) (length : Nat) (payload : ARRAY8) :
    M Unit :=
  match readRequest payload with
  | none => pure ()
  | some (r, _) => if length = r.expectlen then answerRequest w sender r else pure ()

/-! ### `MANAGE` -/

/-- The class of a display, a C string; none if the packet has an empty one. -/
def classOf (displayClass : ARRAY8) : Option Str :=
  if displayClass = [] then none
  else some ((displayClass.takeWhile (· ≠ 0)).map fun b => Char.ofNat b.toNat)

/-- `NetworkAddressToName` for a proto-display. -/
def nameOf (w : World) (cfg : Config) (sender : Netaddr) (pdpy : ProtoDisplay) : Option Str :=
  if w.alloc.name then
    networkAddressToName w cfg pdpy.connectionType pdpy.connectionAddress sender.sa
      pdpy.displayNumber
  else none

/-- Terminate the active session for a display name. -/
def terminateActive (name : Str) : M Unit := do
  let s ← get
  match findDisplayByName name s.displays with
  | some d => stopDisplay d.addr
  | none => pure ()

/-- Whether the chooser is to run on the display of a sender: it has sent an indirect
query, which is forgotten now, and has made no choice yet. -/
def chooserFor (w : World) (addr : ARRAY8) (connectionType : CARD16) : M Bool := do
  let s ← get
  if isIndirectClient addr connectionType s.indirectUsers then
    forgetIndirectClient addr connectionType
    let choice ← choiceFor w addr connectionType
    let s ← get
    pure (useChooser w s.database choice addr connectionType)
  else pure false

/-- Hand the authorization of the proto-display over to the display.  Where there is no
memory for it the display is freed, and stays in the list. -/
def installAuthorization (w : World) (sender : Netaddr) (sessionID : CARD32) (name : Str)
    (d : Nat) (pdpy : ProtoDisplay) : M Bool :=
  match pdpy.fileAuthorization with
  | none => pure true
  | some auth => do
    if w.alloc.authorizations then
      writeDisplay d fun display => { display with authorizations := [auth] }
      pure true
    else
      modify fun s => { s with freed := d :: s.freed }
      sendFailedTo sender name sessionID "out of memory".toList
      pure false

/-- The display of an XDMCP session, as `manage` fills it in. -/
def fillDisplay (fd : Int) (sender : Netaddr) (pdpy : ProtoDisplay) (display : Display) :
    Display :=
  { display with
    displayType := ⟨.foreign, .transient, .fromXDMCP⟩
    sessionID := pdpy.sessionID
    fromAddr := sender
    displayNumber := pdpy.displayNumber
    useChooser := false
    xdmcpFd := fd }

/-- The part of `manage` for a packet with the session ID of the proto-display: it turns
the proto-display into a display and starts it. -/
def startManaged (w : World) (fd : Int) (sender : Netaddr) (m : Manage)
    (pdpy : ProtoDisplay) : M Unit := do
  let s ← get
  match nameOf w s.config sender pdpy with
  | none => sendFailedTo sender "(no name)".toList m.sessionID "out of memory".toList
  | some name =>
    terminateActive name
    if w.alloc.className ∧ w.alloc.fromSave ∧ w.alloc.newDisplay then
      let d ← newDisplay name (classOf m.displayClass)
      writeDisplay d (fillDisplay fd sender pdpy)
      let (addr, _, connectionType) := clientAddress sender.sa
      let chooser ← chooserFor w addr connectionType
      writeDisplay d fun display => { display with
        useChooser := chooser
        clientAddr := addr
        connectionType := connectionType }
      if ← installAuthorization w sender m.sessionID name d pdpy then
        disposeProtoDisplay pdpy.addr
        startDisplay w d
    else sendFailedTo sender name m.sessionID "out of memory".toList

/-- `manage` for a packet of the right length. -/
def answerManage (w : World) (fd : Int) (sender : Netaddr) (m : Manage) : M Unit := do
  let s ← get
  match findProtoDisplay sender m.displayNumber s.protoDisplays with
  | some pdpy =>
    if pdpy.sessionID = m.sessionID then startManaged w fd sender m pdpy
    else sendRefuse sender m.sessionID
  | none =>
    -- a session may have been started that the display does not know of yet
    match findDisplayByAddress sender m.displayNumber s.displays with
    | some d => if d.sessionID = m.sessionID then pure () else sendRefuse sender m.sessionID
    | none => sendRefuse sender m.sessionID

def manage (w : World) (fd : Int) (sender : Netaddr) (length : Nat) (payload : ARRAY8) :
    M Unit :=
  match readManage payload with
  | none => pure ()
  | some (m, _) => if length = m.expectlen then answerManage w fd sender m else pure ()

/-! ### `KEEPALIVE` -/

/-- `send_alive` for a packet of the right length. -/
def answerKeepAlive (sender : Netaddr) (k : KeepAlive) : M Unit := do
  let s ← get
  let found := (findDisplayBySessionID k.sessionID s.displays).or
    (findDisplayByAddress sender k.displayNumber s.displays)
  match found.filter fun d => d.status = .running with
  | some d =>
    emit (.send sender.sa (.alive (if d.sessionID = k.sessionID then 1 else 0) d.sessionID))
  | none => emit (.send sender.sa (.alive 0 0))

def sendAlive (sender : Netaddr) (length : Nat) (payload : ARRAY8) : M Unit :=
  match readKeepAlive payload with
  | none => pure ()
  | some (k, _) => if length = 6 then answerKeepAlive sender k else pure ()

end Xdm
