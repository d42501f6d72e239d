/-
The sockets of the daemon (`xdm/socket.c`): the chooser socket, and one socket with multicast
groups for each address of the `LISTEN` lines.

The kernel answers `socket` and `bind` as it likes.  The other calls (`listen`, `setsockopt`) may
fail as well, which is only logged, so they leave no trace here but the changes of multicast
memberships.  All allocations are taken to succeed.
-/
import Xdm.Access.Reader
import Xdm.Lib.Keyed
import Xdm.Lib.Prog

namespace Xdm

/-! ### Descriptors -/

/-- A `sockaddr_in` or `sockaddr_in6` as `CreateSocklistEntry` makes it; the number of bytes
tells which. -/
structure InetAddr where
  port : Octets 2
  data : ARRAY8
  length : data.length = 4 ∨ data.length = 16
deriving DecidableEq

def InetAddr.family (addr : InetAddr) : AddrFamily :=
  if addr.data.length = 4 then .inet else .inet6

/-- A socket that the process has open, and what it is bound to. -/
structure OpenSocket where
  fd : Nat
  bound : Option InetAddr
deriving DecidableEq

/-- The answers to `socket` and `bind`.  They can depend on the number of calls before and on
the sockets that are open. -/
structure SocketKernel where
  socket : Nat → List OpenSocket → AddrFamily → Option Nat
  bind : Nat → List OpenSocket → InetAddr → Bool

def fdSet (fd : Nat) (mask : List Nat) : List Nat := if fd ∈ mask then mask else fd :: mask

def fdClr (fd : Nat) (mask : List Nat) : List Nat := mask.filter fun x => x ≠ fd

/-- `FD_ANYSET`.  It looks at as many bytes as a pointer has. -/
def fdAnyset (mask : List Nat) : Bool := mask.any fun fd => fd < 64

/-! ### Sockets -/

/-- An entry of a list `mcastgroups`. -/
structure McastGroup where
  addr : InetAddr
  ref : Bool

/-- An entry of the list `listensocks`. -/
structure ListenSock where
  addr : InetAddr
  mcastgroups : List McastGroup
  fd : Nat
  ref : Bool

def McastGroup.data (g : McastGroup) : ARRAY8 := g.addr.data

def ListenSock.data (s : ListenSock) : ARRAY8 := s.addr.data

/-- A call of `ChangeMcastMembership`. -/
structure Membership where
  socket : InetAddr
  fd : Nat
  group : InetAddr
  join : Bool

structure Sockets where
  listensocks : List ListenSock
  wellKnownSocketsMask : List Nat
  wellKnownSocketsMax : Nat
  /-- `CloseMask` and `max` of `dm.c` -/
  closeMask : List Nat
  closeMax : Nat
  chooserFd : Option Nat
  process : List OpenSocket
  /-- the calls of `socket` and `bind` so far -/
  calls : Nat
  memberships : List Membership

/-- The state of a process that has opened no sockets yet. -/
def Sockets.start : Sockets := ⟨[], [], 0, [], 0, none, [], 0, []⟩

/-- What does not change while the sockets are updated. -/
structure SocketEnv where
  requestPort : UInt16
  /-- `XDM_DEFAULT_MCAST_ADDR6`, if the build defines it -/
  defaultMcastAddress : Option (Octets 16)
  /-- the bytes of `aliasName` that stand where an address has its `length` -/
  macroLength : Str → Nat
  kernel : SocketKernel

variable (env : SocketEnv)

def SocketEnv.socket (family : AddrFamily) : Prog Sockets (Option Nat) := do
  let s ← get
  let fd := env.kernel.socket s.calls s.process family
  set { s with
    calls := s.calls + 1
    process := (fd.map fun fd => OpenSocket.mk fd none).toList ++ s.process }
  pure fd

def SocketEnv.bind (fd : Nat) (addr : InetAddr) : Prog Sockets Bool := do
  let s ← get
  let ok := env.kernel.bind s.calls s.process addr
  set { s with
    calls := s.calls + 1
    process :=
      if ok then Keyed.modify OpenSocket.fd fd (fun x => { x with bound := some addr }) s.process
      else s.process }
  pure ok

def closeFd (fd : Nat) : Prog Sockets Unit :=
  modify fun s => { s with process := Keyed.erase OpenSocket.fd fd s.process }

def registerCloseOnFork (fd : Nat) : Prog Sockets Unit :=
  modify fun s => { s with closeMask := fdSet fd s.closeMask, closeMax := max s.closeMax fd }

/-- What `CreateListeningSocket` and `CreateWellKnownSockets` do with a descriptor that is to be
waited for. -/
def addWellKnownSocket (fd : Nat) : Prog Sockets Unit :=
  modify fun s => { s with
    wellKnownSocketsMax := max s.wellKnownSocketsMax fd
    wellKnownSocketsMask := fdSet fd s.wellKnownSocketsMask }

/-- The rest of `CreateWellKnownSockets`, when `socket` has been called. -/
def setChooserFd (chooserFd : Option Nat) : Prog Sockets Unit := do
  modify fun s => { s with chooserFd := chooserFd }
  match chooserFd with
  | some fd => addWellKnownSocket fd
  | none => pure ()

def createWellKnownSockets : Prog Sockets Unit := do
  if env.requestPort ≠ 0 then
    match ← env.socket .inet6 with
    | some fd => setChooserFd (some fd)
    | none => setChooserFd (← env.socket .inet)

/-- `CreateListeningSocket`; no descriptor stands for `-1`. -/
def createListeningSocket (addr : InetAddr) : Prog Sockets (Option Nat) := do
  if env.requestPort = 0 then pure none
  else
    match ← env.socket addr.family with
    | none => pure none
    | some fd =>
      registerCloseOnFork fd
      if ← env.bind fd addr then
        addWellKnownSocket fd
        pure (some fd)
      else
        closeFd fd
        pure none

/-- `DestroyListeningSocket`; the rest of it frees what the entry has. -/
def destroyListeningSocket (s : ListenSock) : Prog Sockets Unit := do
  modify fun t => { t with wellKnownSocketsMask := fdClr s.fd t.wellKnownSocketsMask }
  closeFd s.fd

/-- `FindInList`: the addresses are of the same family if they have as many bytes. -/
def findInList {α : Type} (data : α → ARRAY8) (list : List α) (addr : ARRAY8) : Option α :=
  list.find? fun s => data s = addr

def portBytes (port : UInt16) : Octets 2 := ⟨[(port >>> 8).toUInt8, port.toUInt8], rfl⟩

/-- `CreateSocklistEntry`; none for an address that is neither of IPv4 nor of IPv6. -/
def createSocklistEntry (addr : ARRAY8) : Option InetAddr :=
  if h : addr.length = 4 ∨ addr.length = 16 then some ⟨portBytes env.requestPort, addr, h⟩
  else none

/-! ### The addresses of the `LISTEN` lines -/

/-- An `ARRAY8` that `ForEachListenAddr` passes on. -/
inductive ListenAddr
  | bytes (data : ARRAY8)
  /-- the pointer `data` is null -/
  | null (length : Nat)

def ListenAddr.length : ListenAddr → Nat
  | bytes data => data.length
  | null length => length

/-- `entry.hostAddress`, whatever the entry is.  Where nothing has been stored it is all zeros,
and where there is a macro the bytes of its name's address are read as the length. -/
def HostOrAlias.hostAddress : HostOrAlias → ListenAddr
  | .address hostAddress => .bytes hostAddress
  | .alias aliasName => .null (env.macroLength aliasName)
  | .broadcast => .null 0
  | .chooser => .null 0
  | .noBroadcast => .null 0
  | .anyAddr => .null 0

/-- Read the bytes of an address.  There is no reading through a null pointer, and addresses that
have neither 4 nor 16 bytes are not read. -/
def ListenAddr.read : ListenAddr → Prog Sockets ARRAY8
  | bytes data => pure data
  | null length =>
    if length = 4 ∨ length = 16 then failure else pure (List.replicate length 0)

/-- `ForEachListenAddr`, with what `*closure` is before and after each call. -/
def forEachListenAddr {γ : Type} (listenfunction mcastfunction : ListenAddr → γ → Prog Sockets γ)
    (database : List DisplayEntry) (closure : γ) : Prog Sockets γ := do
  let closure ← eachLine database closure
  if database.any fun d => d.entry = .listen then pure closure
  else
    let closure ← listenfunction (.null 0) closure
    match env.defaultMcastAddress with
    | some addr => mcastfunction (.bytes addr.1) closure
    | none => pure closure
where
  eachLine : List DisplayEntry → γ → Prog Sockets γ
    | [], closure => pure closure
    | d :: database, closure => do
      let closure ← if d.entry = .listen then eachHost d.hosts closure else pure closure
      eachLine database closure
  eachHost : List HostEntry → γ → Prog Sockets γ
    | [], closure => pure closure
    | h :: hosts, closure => do
      let closure ← listenfunction (h.entry.hostAddress env) closure
      eachGroup hosts closure
  eachGroup : List HostEntry → γ → Prog Sockets γ
    | [], closure => pure closure
    | h :: hosts, closure => do
      let closure ← mcastfunction (h.entry.hostAddress env) closure
      eachGroup hosts closure

/-! ### `UpdateListenSockets` -/

def in6addrAny : ARRAY8 := List.replicate 16 0
def inaddrAny : ARRAY8 := List.replicate 4 0

/-- The rest of `UpdateListener` for an address that is no wildcard.  The socket that `*closure`
points to then is known by its address. -/
def openListener (addr : ARRAY8) : Prog Sockets (Option ARRAY8) := do
  let t ← get
  match findInList ListenSock.data t.listensocks addr with
  | some s =>
    set { t with
      listensocks := Keyed.modify ListenSock.data s.data (fun s => { s with ref := true })
        t.listensocks }
    pure (some s.data)
  | none =>
    match createSocklistEntry env addr with
    | none => pure none
    | some sock =>
      match ← createListeningSocket env sock with
      | none => pure none
      | some fd =>
        modify fun t => { t with listensocks := ⟨sock, [], fd, true⟩ :: t.listensocks }
        pure (some sock.data)

/-- `UpdateListener`: a wildcard is for IPv6 or, if this does not work, for IPv4. -/
def updateListener (addr : ListenAddr) (_closure : Option ARRAY8) :
    Prog Sockets (Option ARRAY8) := do
  if addr.length = 0 then
    match ← openListener env in6addrAny with
    | some data => pure (some data)
    | none => openListener env inaddrAny
  else
    let addr ← addr.read
    openListener env addr

def changeMcastMembership (s : ListenSock) (g : McastGroup) (join : Bool) : Prog Sockets Unit :=
  modify fun t => { t with memberships := t.memberships ++ [⟨s.addr, s.fd, g.addr, join⟩] }

def updateMcastGroup (addr : ListenAddr) (closure : Option ARRAY8) :
    Prog Sockets (Option ARRAY8) := do
  let t ← get
  match closure.bind (findInList ListenSock.data t.listensocks) with
  | none => pure closure
  | some s =>
    let addr ← addr.read
    match findInList McastGroup.data s.mcastgroups addr with
    | some g =>
      writeGroups s (Keyed.modify McastGroup.data g.data (fun g => { g with ref := true })
        s.mcastgroups)
    | none =>
      match createSocklistEntry env addr with
      | none => pure ()
      | some group =>
        changeMcastMembership s ⟨group, true⟩ true
        writeGroups s (⟨group, true⟩ :: s.mcastgroups)
    pure closure
where
  writeGroups (s : ListenSock) (groups : List McastGroup) : Prog Sockets Unit :=
    modify fun t => { t with
      listensocks := Keyed.modify ListenSock.data s.data
        (fun s => { s with mcastgroups := groups }) t.listensocks }

def clearRefs (s : ListenSock) : ListenSock :=
  { s with
    ref := false
    mcastgroups := s.mcastgroups.map fun g => { g with ref := false } }

/-- Leave the groups that are not marked; those that stay. -/
def sweepGroups (s : ListenSock) : List McastGroup → Prog Sockets (List McastGroup)
  | [] => pure []
  | g :: groups => do
    if g.ref then
      let groups ← sweepGroups s groups
      pure (g :: groups)
    else
      changeMcastMembership s g false
      sweepGroups s groups

/-- Close the sockets that are not marked; those that stay. -/
def sweepSockets : List ListenSock → Prog Sockets (List ListenSock)
  | [] => pure []
  | s :: socks => do
    if s.ref then
      let groups ← sweepGroups s s.mcastgroups
      let socks ← sweepSockets socks
      pure ({ s with mcastgroups := groups } :: socks)
    else
      destroyListeningSocket s
      sweepSockets socks

def updateListenSockets (database : List DisplayEntry) : Prog Sockets Unit := do
  modify fun t => { t with listensocks := t.listensocks.map clearRefs }
  let _ ← forEachListenAddr env (updateListener env) (updateMcastGroup env) database none
  let t ← get
  let socks ← sweepSockets t.listensocks
  modify fun t => { t with listensocks := socks }

def closeListenSockets : Prog Sockets Unit := do
  let t ← get
  t.listensocks.forM destroyListeningSocket
  modify fun t => { t with listensocks := [] }

def destroyWellKnownSockets : Prog Sockets Unit := do
  let t ← get
  match t.chooserFd with
  | some fd =>
    closeFd fd
    modify fun t => { t with
      wellKnownSocketsMask := fdClr fd t.wellKnownSocketsMask
      chooserFd := none }
  | none => pure ()
  closeListenSockets

def anyWellKnownSockets (t : Sockets) : Bool :=
  t.chooserFd.isSome || fdAnyset t.wellKnownSocketsMask

end Xdm
