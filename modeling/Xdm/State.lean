/-
The state of the daemon: the display list, the proto-display list, the clients and
choices of indirect queries, the access database, and the processes it has forked.

A `struct display` and a `struct protoDisplay` are known by their address; addresses are
handed out by a counter and never used again, so that a pointer to a freed structure is
one that no element of the list has.
-/
import Xdm.Access.Control
import Xdm.Lib.Prog
import Xdm.Lib.Keyed

namespace Xdm

/-! ### Displays (`include/dm.h`) -/

inductive DisplayStatus
  | running
  | notRunning
  | zombie
  | phoenix
deriving DecidableEq, Repr

inductive Location
  | foreign
  | localHost
deriving DecidableEq, Repr

inductive Lifetime
  | transient
  | permanent
deriving DecidableEq, Repr

inductive Origin
  | fromXDMCP
  | fromFile
deriving DecidableEq, Repr

structure DisplayType where
  location : Location
  lifetime : Lifetime
  origin : Origin
deriving DecidableEq, Repr

inductive FileState
  | newEntry
  | oldEntry
  | missingEntry
deriving DecidableEq, Repr

/-- An `Xauth`: the protocol name and the data.  Its family is always `FamilyWild`. -/
structure Xauth where
  name : ARRAY8
  data : ARRAY8
deriving DecidableEq

/-- A `struct display`.  `addr` is its own address. -/
structure Display where
  addr : Nat
  name : Str
  className : Option Str
  displayType : DisplayType
  argv : Option (List Str)
  status : DisplayStatus
  pid : Pid
  serverPid : Pid
  state : FileState
  startTries : Int
  lastReserv : Time
  reservTries : Int
  sessionID : CARD32
  fromAddr : Netaddr
  displayNumber : CARD16
  useChooser : Bool
  clientAddr : ARRAY8
  connectionType : CARD16
  xdmcpFd : Int
  /-- The authorizations `MANAGE` hands over; those made for a local server are not
  recorded here. -/
  authorizations : List Xauth
  resources : ServerResources

/-- A `struct protoDisplay`.  `addr` is its own address, `address` the sender's. -/
structure ProtoDisplay where
  addr : Nat
  address : Netaddr
  date : Time
  displayNumber : CARD16
  connectionType : CARD16
  connectionAddress : ARRAY8
  sessionID : CARD32
  fileAuthorization : Option Xauth
  xdmcpAuthorization : Option Xauth
  authenticationData : ARRAY8
  key : ARRAY8

/-- A record of a client that has sent an indirect query (`IndirectUsersRec`). -/
structure IndirectUser where
  client : ARRAY8
  connectionType : CARD16

/-- A `ChoiceRec`: the host a client has chosen. -/
structure Choice where
  client : ARRAY8
  connectionType : CARD16
  choice : ARRAY8
  time : Time

/-! ### What the daemon does to the world -/

/-- The packets it sends. -/
inductive Message
  | forwardQuery (clientAddress clientPort : ARRAY8) (authenticationNames : List ARRAY8)
  | willing (authenticationName hostname status : ARRAY8)
  | unwilling (hostname status : ARRAY8)
  | accept (sessionID : CARD32) (authenticationName authenticationData
      authorizationName authorizationData : ARRAY8)
  | decline (status authenticationName authenticationData : ARRAY8)
  | refuse (sessionID : CARD32)
  | failed (sessionID : CARD32) (status : ARRAY8)
  | alive (sessionRunning : UInt8) (sessionID : CARD32)
deriving DecidableEq

inductive Event
  | send (dest : SockAddr) (message : Message)
  | kill (pid : Pid) (signal : Int)
  /-- A store into a `struct display` that has been freed. -/
  | writeFreed (addr : Nat)
deriving DecidableEq

/-- The kernel: the processes the daemon has forked and not yet waited for, and its
answers to come. -/
structure Kernel where
  children : List Pid
  forks : List (Option Pid)
  pauses : List Bool

/-- The state of the daemon.  `out` is what the current operation has done, oldest
first. -/
structure State where
  config : Config
  database : List DisplayEntry
  displays : List Display
  protoDisplays : List ProtoDisplay
  /-- `globalSessionID`, an `unsigned long` of which only the low 32 bits are used. -/
  globalSessionID : Nat
  indirectUsers : List IndirectUser
  choices : List Choice
  kernel : Kernel
  /-- The next address the allocator hands out. -/
  nextAddr : Nat
  /-- Structures that have been freed. -/
  freed : List Nat
  out : List Event

/-- The daemon's functions are programs over its state. -/
abbrev M (α : Type) : Type := Prog State α

def emit (e : Event) : M Unit := modify fun s => { s with out := s.out ++ [e] }

/-! ### Following pointers to displays -/

abbrev modifyAt (a : Nat) (f : Display → Display) (l : List Display) : List Display :=
  Keyed.modify Display.addr a f l

abbrev eraseAt (a : Nat) (l : List Display) : List Display := Keyed.erase Display.addr a l

/-- The structure `d` points to. -/
def readDisplay (d : Nat) : M Display := do
  let s ← get
  match Keyed.find Display.addr d s.displays with
  | some display => pure display
  | none => failure

/-- Store into the structure `d` points to. -/
def writeDisplay (d : Nat) (f : Display → Display) : M Unit := do
  let s ← get
  match Keyed.find Display.addr d s.displays with
  | some _ => set { s with displays := modifyAt d f s.displays }
  | none => emit (.writeFreed d)

end Xdm
