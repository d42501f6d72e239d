/-
# The basic data of the daemon

The types of `X11/Xmd.h`, `X11/Xdmcp.h` and `sys/socket.h` that xdm works with, and the
world around it: the host name resolver, the network interfaces, the clock, the files it
reads and the answers of the kernel to `fork`.  The build modelled is the default one,
with `TCPCONN`, `UNIXCONN` and `IPv6` defined.
-/
import Mathlib.Algebra.Group.Int.Defs
import Mathlib.Algebra.GroupWithZero.Nat
import Mathlib.Data.List.Basic

namespace Xdm

/-- A C string, without its terminating NUL. -/
abbrev Str : Type := List Char

/-- An `ARRAY8` of libXdmcp: its `length` is the length of the list. -/
abbrev ARRAY8 : Type := List UInt8

abbrev CARD16 : Type := UInt16
abbrev CARD32 : Type := UInt32

/-- The bytes of a string of ASCII characters. -/
def bytesOf (s : Str) : ARRAY8 := s.map fun c => c.toNat.toUInt8

/-! ### Host address families (`X11/X.h`, `X11/Xauth.h`) -/

def familyInternet : CARD16 := 0
def familyInternet6 : CARD16 := 6
def familyLocalHost : CARD16 := 252
def familyLocal : CARD16 := 256
def familyWild : CARD16 := 65535

/-! ### Socket addresses -/

/-- Exactly `n` bytes. -/
abbrev Octets (n : Nat) : Type := { bs : List UInt8 // bs.length = n }

/-- The address families of `sys/socket.h`. -/
inductive AddrFamily
  | unspec
  | unix
  | inet
  | inet6
  | other (n : Nat)
deriving DecidableEq, Repr

/-- A `struct sockaddr`: port and address are in network byte order, `path` is
`sun_path` up to its NUL. -/
inductive SockAddr
  | unspec
  | unix (path : List UInt8)
  | inet (port : Octets 2) (addr : Octets 4)
  | inet6 (port : Octets 2) (addr : Octets 16) (scope : UInt32)
  | other (family : Nat)
deriving DecidableEq

/-- An `XdmcpNetaddr` with its length, as `recvfrom` gives it. -/
structure Netaddr where
  sa : SockAddr
  len : Nat
deriving DecidableEq

/-- The opcodes of XDMCP packets (`X11/Xdmcp.h`). -/
inductive XdmOpCode
  | broadcastQuery
  | query
  | indirectQuery
  | forwardQuery
  | willing
  | unwilling
  | request
  | accept
  | decline
  | manage
  | refuse
  | failed
  | keepalive
  | alive
deriving DecidableEq, Repr

/-- The opcode with a given number in a packet header. -/
def XdmOpCode.ofCARD16 (n : CARD16) : Option XdmOpCode :=
  match n.toNat with
  | 1 => some .broadcastQuery
  | 2 => some .query
  | 3 => some .indirectQuery
  | 4 => some .forwardQuery
  | 5 => some .willing
  | 6 => some .unwilling
  | 7 => some .request
  | 8 => some .accept
  | 9 => some .decline
  | 10 => some .manage
  | 11 => some .refuse
  | 12 => some .failed
  | 13 => some .keepalive
  | 14 => some .alive
  | _ => none

/-- A process id; `-1` stands for none, as in the source. -/
abbrev Pid : Type := Int

/-- A time in seconds. -/
abbrev Time : Type := Int

def sigterm : Int := 15
def sigcont : Int := 18

/-- The resources of `LoadDMResources` that the modelled functions read. -/
structure Config where
  /-- The servers file, or a single server line if it does not start with `/`. -/
  servers : Str
  /-- The name of the access file; empty if there is none. -/
  accessFile : Str
  autoRescan : Bool
  removeDomainname : Bool
  sourceAddress : Bool
  choiceTimeout : Time
  /-- The program whose output tells why the host is willing; empty if there is none. -/
  willing : Str
  /-- Whether the daemon was built with `HASXDMAUTH`. -/
  hasXdmAuth : Bool
deriving DecidableEq

/-- The server resources of a display that `LoadServerResources` reads. -/
structure ServerResources where
  serverAttempts : Int
  startAttempts : Int
  reservAttempts : Int
  terminateServer : Bool
  resetSignal : Int
  termSignal : Int
  resetForAuth : Bool
  authorize : Bool
deriving DecidableEq

/-- Which of the allocations that the daemon makes and checks succeed. -/
structure Alloc where
  newProtoDisplay : Bool
  indirectUser : Bool
  /-- The display name that `NetworkAddressToName` returns. -/
  name : Bool
  /-- In `manage`: the class, the copy of the sender's address, the display, and the
  array of authorizations. -/
  className : Bool
  fromSave : Bool
  newDisplay : Bool
  authorizations : Bool
deriving DecidableEq

/-- No allocation fails. -/
def Alloc.ok : Alloc := ⟨true, true, true, true, true, true, true⟩

/-- What the C library, the kernel and the file system answer while one operation of the
daemon runs.  `getaddrinfo` and `getifaddrs` give the empty list where the C functions
fail. -/
structure World where
  getaddrinfo : Str → List SockAddr
  /-- `ai_canonname` of the first answer of `getaddrinfo`. -/
  canonname : Str → Str
  gethostbyaddr : AddrFamily → ARRAY8 → Option Str
  getnameinfo : SockAddr → Option Str
  inetNtop : AddrFamily → ARRAY8 → Option Str
  getifaddrs : List SockAddr
  localHostname : Str
  /-- The address a socket connected to the given one is bound to. -/
  getClientAddress : SockAddr → Option SockAddr
  time : Time
  /-- The text of the access file, if it can be opened. -/
  accessText : Option Str
  /-- The lines `fgets` gives from the servers file, if it can be opened. -/
  serversText : Option (List Str)
  /-- Modification times that differ from the ones remembered. -/
  configChanged : Bool
  serversChanged : Bool
  accessChanged : Bool
  /-- The resources read when the configuration is loaded. -/
  config : Config
  serverResources : Str → Option Str → ServerResources
  /-- The answers to the next calls of `fork`: a process id, or a failure. -/
  forks : List (Option Pid)
  /-- For the next calls of `serverPause`: whether it finds the server dead. -/
  pauses : List Bool
  alloc : Alloc
  /-- The random bytes `GenerateAuthData` delivers for a length, if it can. -/
  generateAuthData : Nat → Option ARRAY8
  /-- The key file entry of a display, as `XdmGetKey` finds it. -/
  xdmGetKey : ARRAY8 → Option ARRAY8
  xdmcpWrap : ARRAY8 → ARRAY8 → ARRAY8
  xdmcpUnwrap : ARRAY8 → ARRAY8 → ARRAY8
  xdmcpIncrementKey : ARRAY8 → ARRAY8
  /-- The line the `willing` program prints, without its newline. -/
  willingOutput : Option Str
  /-- What a read of an `ARRAY8` outside an array delivers, for its index. -/
  strayARRAY8 : Nat → ARRAY8
  /-- What `patternMatch` returns once it has left both of its strings. -/
  strayMatch : Bool

/-- A configuration with an access file and no servers file. -/
def Config.plain : Config where
  servers := []
  accessFile := "Xaccess".toList
  autoRescan := true
  removeDomainname := true
  sourceAddress := false
  choiceTimeout := 15
  willing := []
  hasXdmAuth := false

/-- The defaults of the server resources. -/
def ServerResources.default : ServerResources :=
  ⟨1, 4, 2, false, 1, 15, false, true⟩

/-- A world in which nothing answers: no name resolves, no file can be opened and `fork`
gives no answer. -/
def World.silent : World where
  getaddrinfo := fun _ => []
  canonname := id
  gethostbyaddr := fun _ _ => none
  getnameinfo := fun _ => none
  inetNtop := fun _ _ => none
  getifaddrs := []
  localHostname := "localhost".toList
  getClientAddress := fun _ => none
  time := 1500000000
  accessText := none
  serversText := none
  configChanged := false
  serversChanged := false
  accessChanged := false
  config := Config.plain
  serverResources := fun _ _ => ServerResources.default
  forks := []
  pauses := []
  alloc := Alloc.ok
  generateAuthData := fun _ => none
  xdmGetKey := fun _ => none
  xdmcpWrap := fun data _ => data
  xdmcpUnwrap := fun data _ => data
  xdmcpIncrementKey := id
  willingOutput := none
  strayARRAY8 := fun _ => []
  strayMatch := false

end Xdm
