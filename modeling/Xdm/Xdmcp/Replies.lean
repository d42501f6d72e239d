/-
The packets the daemon sends back (`xdm/xdmcp.c`).

Each function of the source writes a header and the fields of one packet into the buffer
and flushes it; here it puts the packet, with these fields, among the events.
-/
import Xdm.Dpylist

namespace Xdm

def sendWilling (w : World) (dest : Netaddr) (authenticationName status : ARRAY8) : M Unit :=
  emit (.send dest.sa (.willing authenticationName (bytesOf w.localHostname) status))

/-- The packet has no field for the authentication name. -/
def sendUnwilling (w : World) (dest : Netaddr) (status : ARRAY8) : M Unit :=
  emit (.send dest.sa (.unwilling (bytesOf w.localHostname) status))

def sendAccept (dest : Netaddr) (sessionID : CARD32) (authenticationName authenticationData
    authorizationName authorizationData : ARRAY8) : M Unit :=
  emit (.send dest.sa (.accept sessionID authenticationName authenticationData
    authorizationName authorizationData))

def sendDecline (dest : Netaddr) (authenticationName authenticationData status : ARRAY8) :
    M Unit :=
  emit (.send dest.sa (.decline status authenticationName authenticationData))

/-- The text of a `FAILED` packet, which `snprintf` cuts to its buffer of 256 bytes. -/
def failedStatus (name : Str) (sessionID : CARD32) (reason : Str) : ARRAY8 :=
  bytesOf (("Session ".toList ++ Nat.toDigits 10 sessionID.toNat ++
    " failed for display ".toList ++ name.take 100 ++ ": ".toList ++ reason).take 255)

def sendFailedTo (dest : Netaddr) (name : Str) (sessionID : CARD32) (reason : Str) :
    M Unit :=
  emit (.send dest.sa (.failed sessionID (failedStatus name sessionID reason)))

/-- `SendFailed`. -/
def sendFailed (d : Nat) (reason : Str) : M Unit := do
  let display ← readDisplay d
  sendFailedTo display.fromAddr display.name display.sessionID reason

def sendRefuse (dest : Netaddr) (sessionID : CARD32) : M Unit :=
  emit (.send dest.sa (.refuse sessionID))

end Xdm
