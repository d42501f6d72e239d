/-
Datagrams on the XDMCP socket (`xdm/xdmcp.c`).
-/
import Xdm.Xdmcp.Session

namespace Xdm

/-- `ProcessRequestSocket`, for a datagram that `XdmcpFill` has read: a header that can be
read and a known version, then one function for each opcode. -/
def processRequestSocket (w : World) (fd : Int) (sender : Netaddr) (datagram : ARRAY8) :
    M Unit :=
  match readHeader datagram with
  | none => pure ()
  | some (header, payload) =>
    if header.version = xdmProtocolVersion then
      match XdmOpCode.ofCARD16 header.opcode with
      | some .broadcastQuery =>
        directQueryRespond w sender header.length.toNat payload .broadcastQuery
      | some .query => directQueryRespond w sender header.length.toNat payload .query
      | some .indirectQuery => indirectRespond w sender header.length.toNat payload
      | some .forwardQuery => forwardRespond w sender header.length.toNat payload
      | some .request => requestRespond w sender header.length.toNat payload
      | some .manage => manage w fd sender header.length.toNat payload
      | some .keepalive => sendAlive sender header.length.toNat payload
      | _ => pure ()
    else pure ()

end Xdm
