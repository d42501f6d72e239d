/-
Local addresses, and the names the daemon gives to addresses.

`isLocalAddress` (`xdm/access.c`) tells whether an address is one of this host;
`networkAddressToHostname` (`xdm/xdmcp.c`) is the name under which a client is looked up
in the access database; `networkAddressToName` (`xdm/xdmcp.c`) is the name of the display
that a `MANAGE` packet starts.
-/
import Xdm.Netaddr

namespace Xdm

/-! ### `isLocalAddress` -/

/-- `INADDR_LOOPBACK`, in network byte order. -/
def inaddrLoopback : ARRAY8 := [127, 0, 0, 1]

/-- `in6addr_loopback`. -/
def in6addrLoopback : ARRAY8 := [0, 0, 0, 0, 0, 0, 0, 0, 0, 0, 0, 0, 0, 0, 0, 1]

def isLocalAddress (w : World) (address : ARRAY8) (connectionType : CARD16) : Bool :=
  if connectionType = familyLocal ∨ connectionType = familyLocalHost ∨
      connectionType = familyWild then true
  else if connectionType = familyInternet ∨ connectionType = familyInternet6 then
    if address.length = 4 then
      if address = inaddrLoopback then true
      else w.getifaddrs.any fun ifa => match ifa with
        | .inet _ addr => addr.1 == address
        | _ => false
    else if address.length = 16 then
      if address = in6addrLoopback then true
      else w.getifaddrs.any fun ifa => match ifa with
        | .inet6 _ addr _ => addr.1 == address
        | _ => false
    else false
  else false

/-! ### `NetworkAddressToHostname` -/

/-- The address family in which a connection type is looked up. -/
def afType (connectionType : CARD16) : AddrFamily :=
  if connectionType = familyInternet6 then .inet6 else .inet

/-- Whether an address that the name of a client resolves to is the client's. -/
def confirms (afType : AddrFamily) (connectionAddress : ARRAY8) : SockAddr → Bool
  | .inet _ addr =>
    afType == .inet && connectionAddress.length == 4 && addr.1 == connectionAddress
  | .inet6 _ addr _ =>
    afType == .inet6 && connectionAddress.length == 16 && addr.1 == connectionAddress
  | _ => false

/-- The address in digits, the name of last resort. -/
def dotted (w : World) (connectionType : CARD16) (connectionAddress : ARRAY8) : Str :=
  (w.inetNtop (afType connectionType) connectionAddress).getD []

/-- Whether `LogError` reports a possible DNS spoof attempt for an address: its name
resolves, but to other addresses only. -/
def possibleSpoof (w : World) (connectionType : CARD16) (connectionAddress : ARRAY8) : Bool :=
  match w.gethostbyaddr (afType connectionType) connectionAddress with
  | some hName =>
    match w.getaddrinfo hName with
    | [] => false
    | ai => !ai.any (confirms (afType connectionType) connectionAddress)
  | none => false

def networkAddressToHostname (w : World) (connectionType : CARD16)
    (connectionAddress : ARRAY8) : Option Str :=
  if isLocalAddress w connectionAddress connectionType then some "localhost".toList
  else if connectionType = familyInternet ∨ connectionType = familyInternet6 then
    match w.gethostbyaddr (afType connectionType) connectionAddress with
    | some hName =>
      match w.getaddrinfo hName with
      | [] => some (dotted w connectionType connectionAddress)
      -- after the check for DNS spoofing, which only logs its result
      | _ :: _ => some hName
    | none => some (dotted w connectionType connectionAddress)
  else none

/-! ### `NetworkAddressToName` -/

/-- What `asprintf (&name, ":%d", displayNumber)` prints. -/
def colonNumber (displayNumber : CARD16) : Str :=
  ':' :: Nat.toDigits 10 displayNumber.toNat

/-- `IN6_IS_ADDR_LINKLOCAL` or `IN6_IS_ADDR_SITELOCAL`. -/
def isScoped (data : ARRAY8) : Bool :=
  data.getD 0 0 == 0xfe && (data.getD 1 0 &&& 0xc0 == 0x80 || data.getD 1 0 &&& 0xc0 == 0xc0)

/-- Whether an address after the first one in an answer of `getaddrinfo` shows the host
to have several addresses of the first one's length. -/
def differs (ai nai : SockAddr) : Bool :=
  netaddrFamily ai == netaddrFamily nai && ai != nai

/-- The host name of the connection address, and whether it has other addresses. -/
def connectionHostname (w : World) (cfg : Config) (connectionType : CARD16)
    (connectionAddress : ARRAY8) : Option Str × Bool :=
  let multiHomed := connectionType == familyInternet6 && isScoped connectionAddress
  match w.gethostbyaddr (afType connectionType) connectionAddress with
  | none => (none, multiHomed)
  | some hName =>
    if cfg.sourceAddress then
      match w.getaddrinfo hName with
      | [] => (none, multiHomed)
      | ai :: rest => (some (w.canonname hName), multiHomed || rest.any (differs ai))
    else (some hName, multiHomed)

/-- Take the domain off a host name if the local host has the same one. -/
def removeDomain (localhost hostname : Str) : Str :=
  let localDot := localhost.dropWhile (· ≠ '.')
  let remoteDot := hostname.dropWhile (· ≠ '.')
  if localDot ≠ [] ∧ remoteDot ≠ [] ∧ localDot = remoteDot then
    hostname.takeWhile (· ≠ '.')
  else hostname

/-- The sender's own address, for a connection address that names no single host. -/
def originalName (w : World) (original : SockAddr) (displayNumber : CARD16) : Option Str :=
  let numeric (addr : ARRAY8) (connectionType : CARD16) : Option Str :=
    if isLocalAddress w addr connectionType then some (colonNumber displayNumber)
    else (w.getnameinfo original).map (· ++ colonNumber displayNumber)
  match original with
  | .inet _ addr => numeric addr.1 familyInternet
  | .inet6 _ addr _ => numeric addr.1 familyInternet6
  | _ => none

def networkAddressToName (w : World) (cfg : Config) (connectionType : CARD16)
    (connectionAddress : ARRAY8) (original : SockAddr) (displayNumber : CARD16) :
    Option Str :=
  -- never prefix the display name with any local address or host name
  if isLocalAddress w connectionAddress connectionType then some (colonNumber displayNumber)
  else if connectionType = familyInternet ∨ connectionType = familyInternet6 then
    let (hostname, multiHomed) := connectionHostname w cfg connectionType connectionAddress
    match hostname with
    | some (c :: cs) =>
      -- protect against bogus host names
      if c ≠ '.' ∧ multiHomed = false then
        if w.localHostname = c :: cs then some (colonNumber displayNumber)
        else if cfg.removeDomainname then
          some (removeDomain w.localHostname (c :: cs) ++ colonNumber displayNumber)
        else some (c :: cs ++ colonNumber displayNumber)
      else bogus multiHomed
    | _ => bogus multiHomed
  else none
where
  bogus (multiHomed : Bool) : Option Str :=
    if multiHomed then originalName w original displayNumber
    else (w.inetNtop (afType connectionType) connectionAddress).map
      (· ++ colonNumber displayNumber)

end Xdm
