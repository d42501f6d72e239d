/-
Authorization protocols (`xdm/auth.c`, `xdm/mitauth.c`, `xdm/xdmauth.c`) and the policy
for XDMCP connections (`xdm/policy.c`).

`MIT-MAGIC-COOKIE-1` is always there; builds with `HASXDMAUTH` have `XDM-AUTHORIZATION-1`
as well.
-/
import Xdm.Protodpy

namespace Xdm

/-! ### Protocols (`xdm/auth.c`) -/

inductive AuthProtocol
  | mitMagicCookie1
  | xdmAuthorization1
deriving DecidableEq

def mitMagicCookie1 : ARRAY8 := bytesOf "MIT-MAGIC-COOKIE-1".toList
def xdmAuthorization1 : ARRAY8 := bytesOf "XDM-AUTHORIZATION-1".toList
def xdmAuthentication1 : ARRAY8 := bytesOf "XDM-AUTHENTICATION-1".toList

def findProtocol (cfg : Config) (name : ARRAY8) : Option AuthProtocol :=
  if name = mitMagicCookie1 then some .mitMagicCookie1
  else if cfg.hasXdmAuth ∧ name = xdmAuthorization1 then some .xdmAuthorization1
  else none

def validAuthorization (cfg : Config) (name : ARRAY8) : Bool :=
  (findProtocol cfg name).isSome

/-- `AUTH_DATA_LEN`. -/
def authDataLen : Nat := 16

def mitGetAuth (w : World) (name : ARRAY8) : Option Xauth :=
  (w.generateAuthData authDataLen).map fun data => ⟨name, data⟩

/-- `XdmGetAuthHelper` without rho: eight bytes of session key, the first of them zero. -/
def xdmGetAuthHelper (w : World) (name : ARRAY8) : Option Xauth :=
  (w.generateAuthData 8).map fun data => ⟨name, data.set 0 0⟩

/-- `XdmGetXdmcpAuth`.  It keeps an authorization the proto-display already has.  It copies
eight bytes of authentication data; where the proto-display has fewer it has no outcome. -/
def xdmGetXdmcpAuth (w : World) (pdpy : ProtoDisplay) (name : ARRAY8) : Option ProtoDisplay :=
  if pdpy.fileAuthorization.isSome ∧ pdpy.xdmcpAuthorization.isSome then some pdpy
  else match xdmGetAuthHelper w name with
    | none => some pdpy
    | some auth =>
      -- without authentication data the pointer to it is null
      if pdpy.authenticationData.length < 8 then none
      else some { pdpy with
        fileAuthorization := some ⟨auth.name, pdpy.authenticationData.take 8 ++ auth.data⟩
        xdmcpAuthorization := some ⟨auth.name, w.xdmcpWrap auth.data pdpy.key⟩ }

def setProtoDisplayAuthorization (w : World) (cfg : Config) (pdpy : ProtoDisplay)
    (name : ARRAY8) : Option ProtoDisplay :=
  let pdpy := { pdpy with xdmcpAuthorization := none, fileAuthorization := none }
  match findProtocol cfg name with
  | none => some pdpy
  | some .xdmAuthorization1 => xdmGetXdmcpAuth w pdpy name
  | some .mitMagicCookie1 => some { pdpy with fileAuthorization := mitGetAuth w name }

/-- `XdmCheckAuthentication`: whether it succeeds, the proto-display, and the
authentication data to send back. -/
def xdmCheckAuthentication (w : World) (pdpy : ProtoDisplay)
    (displayID authenticationData : ARRAY8) : Bool × ProtoDisplay × ARRAY8 :=
  match w.xdmGetKey displayID with
  | none => (false, pdpy, authenticationData)
  | some key =>
    let pdpy := { pdpy with key := key }
    if authenticationData.length ≠ 8 then (false, pdpy, authenticationData)
    else
      let data := w.xdmcpUnwrap authenticationData key
      (true, { pdpy with authenticationData := data },
        w.xdmcpWrap (w.xdmcpIncrementKey data) key)

/-! ### Policy (`xdm/policy.c`) -/

/-- The table `auth`: an authentication name and the authorization that goes with it. -/
def authTable (cfg : Config) : List (ARRAY8 × ARRAY8) :=
  (if cfg.hasXdmAuth then [(xdmAuthentication1, xdmAuthorization1)] else []) ++ [([], [])]

def noAuthentication : ARRAY8 := []

def chooseAuthentication (cfg : Config) (authenticationNames : List ARRAY8) : ARRAY8 :=
  (authenticationNames.find? fun name =>
    (authTable cfg).any fun auth => name = auth.1).getD noAuthentication

def checkAuthentication (w : World) (cfg : Config) (pdpy : ProtoDisplay)
    (displayID name data : ARRAY8) : Bool × ProtoDisplay × ARRAY8 :=
  if cfg.hasXdmAuth ∧ xdmAuthentication1 <+: name then
    xdmCheckAuthentication w pdpy displayID data
  else (true, pdpy, data)

/-- The authorization name that goes with an authentication name. -/
def pairedAuthorization (cfg : Config) (authenticationName : ARRAY8) : Option ARRAY8 :=
  ((authTable cfg).find? fun auth => authenticationName = auth.1).map Prod.snd

def selectAuthorizationTypeIndex (cfg : Config) (authenticationName : ARRAY8)
    (authorizationNames : List ARRAY8) : Option Nat :=
  match (pairedAuthorization cfg authenticationName).bind fun paired =>
      authorizationNames.findIdx? (· = paired) with
  | some i => some i
  | none => authorizationNames.findIdx? (validAuthorization cfg)

def noAccessACL : ARRAY8 := bytesOf "Display not authorized to connect".toList

/-- Whether the host is willing to serve a client, and the status text that says so; the
buffer for the text takes 255 characters. -/
def willing (w : World) (cfg : Config) (database : List DisplayEntry) (addr : ARRAY8)
    (connectionType : CARD16) (type : XdmOpCode) : Bool × ARRAY8 :=
  if acceptableDisplayAddress w cfg database addr connectionType type then
    if cfg.willing = [] then (true, bytesOf "Willing to manage".toList)
    else match w.willingOutput with
      | some line => (true, bytesOf (line.take 254))
      | none =>
        (true, bytesOf (("Willing, but ".toList ++ cfg.willing ++ " failed".toList).take 255))
  else (false, noAccessACL)

/-- The reason to decline a `REQUEST` of a client, if there is one. -/
def accept (w : World) (cfg : Config) (database : List DisplayEntry) (addr : ARRAY8)
    (connectionType : CARD16) : Option ARRAY8 :=
  if acceptableDisplayAddress w cfg database addr connectionType .request then none
  else some noAccessACL

lemma accept_eq_none {w : World} {cfg : Config} {database : List DisplayEntry} {addr : ARRAY8}
    {connectionType : CARD16} : accept w cfg database addr connectionType = none ↔
      acceptableDisplayAddress w cfg database addr connectionType .request = true := by
  unfold accept
  split <;> simp_all

/-! ### Selecting a connection -/

/-- A connection type and address of a `REQUEST`, with the index returned for it. -/
structure Connection where
  index : Nat
  connectionType : CARD16
  connectionAddress : ARRAY8

/-- The connection types the `switch` of `SelectConnectionTypeIndex` has cases for. -/
def usableType (type : CARD16) : Bool :=
  type = familyLocal ∨ type = familyInternet ∨ type = familyInternet6

/-- What stands at an index of the connection addresses; behind their end, whatever
memory holds. -/
def connectionAddressAt (w : World) (connectionAddresses : List ARRAY8) (i : Nat) : ARRAY8 :=
  connectionAddresses[i]?.getD (w.strayARRAY8 i)

/-- The loop of `SelectConnectionTypeIndex` from index `i` on; `ret` is the connection
chosen tentatively.  Besides the connection it gives the indices, in order, at which it
has read the connection addresses. -/
def selectConnectionLoop (w : World) (addr : ARRAY8) (family : CARD16)
    (connectionAddresses : List ARRAY8) :
    Nat → Option Connection → List CARD16 → Option Connection × List Nat
  | _, ret, [] => (ret, [])
  | i, ret, type :: types =>
    let here : Connection := ⟨i, type, connectionAddressAt w connectionAddresses i⟩
    if usableType type then
      if family = type then
        -- if the address is the same as the request address, use it
        if addr = connectionAddressAt w connectionAddresses i then (some here, [i])
        else
          let (found, reads) := selectConnectionLoop w addr family connectionAddresses
            (i + 1) (ret.or (some here)) types
          (found, i :: reads)
      else if ret.isNone then
        -- tentatively use the first usable address
        let (found, reads) := selectConnectionLoop w addr family connectionAddresses
          (i + 1) (some here) types
        (found, i :: reads)
      else selectConnectionLoop w addr family connectionAddresses (i + 1) ret types
    else selectConnectionLoop w addr family connectionAddresses (i + 1) ret types

/-- `SelectConnectionTypeIndex`, with the indices at which it reads the connection
addresses; no connection stands for the result `-1`. -/
def selectConnectionTypeIndex (w : World) (addr : ARRAY8) (family : CARD16)
    (connectionTypes : List CARD16) (connectionAddresses : List ARRAY8) :
    Option Connection × List Nat :=
  let (ret, reads) := selectConnectionLoop w addr family connectionAddresses 0 none
    connectionTypes
  match ret with
  | some c => (some c, reads)
  | none =>
    if isLocalAddress w addr family then
      (some ⟨connectionTypes.length, family, addr⟩, reads)
    else (none, reads)

end Xdm
