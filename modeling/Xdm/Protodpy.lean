/-
The collection of proto-displays (`xdm/protodpy.c`): displays for which a session ID has
been generated, but no session has been started.
-/
import Xdm.State

namespace Xdm

/-- `PROTO_TIMEOUT`: thirty minutes. -/
def protoTimeout : Time := 30 * 60

def findProtoDisplay (address : Netaddr) (displayNumber : CARD16)
    (protoDisplays : List ProtoDisplay) : Option ProtoDisplay :=
  protoDisplays.find? fun pdpy => pdpy.displayNumber = displayNumber ∧
    addressEqual address pdpy.address

lemma findProtoDisplay_some {address : Netaddr} {displayNumber : CARD16}
    {protoDisplays : List ProtoDisplay} {pdpy : ProtoDisplay}
    (h : findProtoDisplay address displayNumber protoDisplays = some pdpy) :
    pdpy ∈ protoDisplays ∧ pdpy.displayNumber = displayNumber ∧
      addressEqual address pdpy.address = true := by
  have hp := List.find?_some h
  simp only [decide_eq_true_eq] at hp
  exact ⟨List.mem_of_find?_eq_some h, hp⟩

def disposeProtoDisplay (pdpy : Nat) : M Unit :=
  modify fun s => { s with
    protoDisplays := Keyed.erase ProtoDisplay.addr pdpy s.protoDisplays }

/-- `pdpy->date < now - PROTO_TIMEOUT`.  Both sides are `unsigned long`: the date is one,
and the difference, a `time_t`, is converted. -/
def timedOut (now : Time) (pdpy : ProtoDisplay) : Bool :=
  (pdpy.date % 2 ^ 64) < (now - protoTimeout) % 2 ^ 64

def timeoutProtoDisplays (now : Time) : M Unit :=
  modify fun s => { s with
    protoDisplays := s.protoDisplays.filter fun pdpy => !timedOut now pdpy }

def newProtoDisplay (w : World) (address : Netaddr) (displayNumber connectionType : CARD16)
    (connectionAddress : ARRAY8) (sessionID : CARD32) : M (Option ProtoDisplay) := do
  timeoutProtoDisplays w.time
  if w.alloc.newProtoDisplay then
    let s ← get
    let pdpy : ProtoDisplay :=
      { addr := s.nextAddr
        address := address
        date := w.time
        displayNumber := displayNumber
        connectionType := connectionType
        connectionAddress := connectionAddress
        sessionID := sessionID
        fileAuthorization := none
        xdmcpAuthorization := none
        authenticationData := []
        key := [] }
    set { s with protoDisplays := pdpy :: s.protoDisplays, nextAddr := s.nextAddr + 1 }
    pure (some pdpy)
  else pure none

/-- Store what has become of a proto-display. -/
def writeProtoDisplay (pdpy : ProtoDisplay) : M Unit :=
  modify fun s => { s with
    protoDisplays := Keyed.modify ProtoDisplay.addr pdpy.addr (fun _ => pdpy)
      s.protoDisplays }

end Xdm
