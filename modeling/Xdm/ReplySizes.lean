/-
# The sizes of the replies

The answers to `REQUEST` repeat the authentication name and data of the packet, which can be
almost as large as the buffer, next to a status text or an authorization.  All other replies
are small.  So a reply announces the number of bytes that follow its header unless it answers
a `REQUEST` whose authentication name and data leave no room for the rest.
-/
import Xdm.Authentication
import Xdm.Authorization
import Xdm.Emissions
import Xdm.Xdmcp.Messages

namespace Xdm

open Prog

variable {config : Config} {g : Nat} {h : List (Step State Input)} {s s' : State} {i : Input}
variable {w : World} {cfg : Config} {sender : Netaddr} {r : Request} {pdpy : ProtoDisplay}

/-! ### Sizes that the packets rely on -/

/-- The host name fits the buffer of `localHostname`, `GenerateAuthData` delivers what it is
asked for, and the functions for encrypted data do not change its size. -/
structure World.Sized (w : World) : Prop where
  localHostname : w.localHostname.length ≤ 255
  generateAuthData : ∀ n data, w.generateAuthData n = some data → data.length = n
  xdmcpWrap : ∀ data key, (w.xdmcpWrap data key).length = data.length
  xdmcpUnwrap : ∀ data key, (w.xdmcpUnwrap data key).length = data.length
  xdmcpIncrementKey : ∀ data, (w.xdmcpIncrementKey data).length = data.length

/-- The packet answers one that has been received: it is not a forwarded query. -/
def Message.isReply : Message → Bool
  | .forwardQuery .. => false
  | _ => true

/-- The event is not a reply that does not fit into the buffer. -/
def Event.Fits : Event → Prop
  | .send _ m => m.isReply = true → 6 + m.size ≤ xdmMaxMsglen
  | _ => True

lemma Event.OfDisplay.fits {e : Event} (h : e.OfDisplay) : e.Fits := by
  cases e with
  | send dest m =>
    intro _
    cases m with
    | failed sessionID status =>
      change status.length ≤ 255 at h
      rw [Message.size_failed, xdmMaxMsglen]
      omega
    | _ => exact False.elim h
  | kill | writeFreed => trivial

lemma Event.OfQuery.fits {e : Event} (hw : w.Sized) (h : e.OfQuery w) : e.Fits := by
  have hname : (bytesOf w.localHostname).length ≤ 255 := by
    rw [bytesOf, List.length_map]
    exact hw.localHostname
  cases e with
  | send dest m =>
    intro hreply
    cases m with
    | willing authenticationName hostname status =>
      obtain ⟨han, rfl, hstatus⟩ := h
      rw [Message.size_willing, xdmMaxMsglen]
      omega
    | unwilling hostname status =>
      obtain ⟨rfl, hstatus⟩ := h
      rw [Message.size_unwilling, xdmMaxMsglen]
      omega
    | alive =>
      rw [Message.size_alive]
      decide
    | forwardQuery => cases hreply
    | _ => exact False.elim h
  | _ => exact False.elim h

/-! ### The answer to a `REQUEST` -/

/-- `CheckAuthentication` succeeds. -/
def passesAuthentication (w : World) (cfg : Config) (r : Request) : Bool :=
  !namesAuthentication cfg r ||
    ((w.xdmGetKey r.manufacturerDisplayID).isSome && r.authenticationData.length = 8)

/-- The size of the authorization that is chosen, name and data. -/
def authorizationSize (w : World) (cfg : Config) (r : Request) : Nat :=
  match chosenProtocol cfg r with
  | none => 0
  | some .mitMagicCookie1 =>
    if (w.generateAuthData authDataLen).isSome then mitMagicCookie1.length + authDataLen else 0
  | some .xdmAuthorization1 =>
    if (w.generateAuthData 8).isSome then xdmAuthorization1.length + 8 else 0

/-- The reason not to start a new session for a `REQUEST`. -/
def refusal (w : World) (s : State) (sender : Netaddr) (r : Request) : Option ARRAY8 :=
  match convertAddr sender.sa with
  | (none, _) => some noValidAddr
  | (some family, addr) =>
    (accept w s.config s.database addr family).or
      (if (selectConnectionTypeIndex w addr family r.connectionTypes
          r.connectionAddresses).1 = none then some noValidAddr
        else if w.alloc.newProtoDisplay then none else some outOfMemory)

/-- The reason not to grant the session of a `REQUEST` an authorization. -/
def denial (w : World) (cfg : Config) (r : Request) : Option ARRAY8 :=
  if authorizationIndex cfg r = none then some noValidAuth
  else if passesAuthentication w cfg r then none
  else some noAuthentic

/-- The status text with which a `REQUEST` is declined, if it is. -/
def declineStatus (w : World) (s : State) (sender : Netaddr) (r : Request) : Option ARRAY8 :=
  if (findProtoDisplay sender r.displayNumber s.protoDisplays).isSome then denial w s.config r
  else (refusal w s sender r).or (denial w s.config r)

/-- The size of an answer that declines with a status text or grants an authorization: what
stands behind the header besides the authentication name and data. -/
def overhead (w : World) (cfg : Config) (r : Request) (status : Option ARRAY8) : Nat :=
  match status with
  | some status => 6 + status.length
  | none => 12 + authorizationSize w cfg r

/-- The authentication name and data leave room in the buffer for the rest of the answer. -/
def HasRoom (s : State) (i : Input) : Prop :=
  ∀ w sender r, i.request? = some (w, sender, r) →
    r.authenticationName.length + r.authenticationData.length +
      overhead w s.config r (declineStatus w s sender r) ≤ xdmMaxMsglen - 6

lemma checkAuthentication_passes (w : World) (cfg : Config) (pdpy : ProtoDisplay) (r : Request) :
    (checkAuthentication w cfg pdpy r.manufacturerDisplayID r.authenticationName
      r.authenticationData).1 = passesAuthentication w cfg r := by
  unfold checkAuthentication xdmCheckAuthentication passesAuthentication namesAuthentication
  by_cases hname : cfg.hasXdmAuth = true ∧ xdmAuthentication1 <+: r.authenticationName
  · rw [if_pos hname]
    cases hkey : w.xdmGetKey r.manufacturerDisplayID with
    | none => simp [hname]
    | some key =>
      dsimp only
      split_ifs with hlen
      · simp [hname, hlen]
      · simp [hname, not_not.1 hlen]
  · rw [if_neg hname]
    simp [hname]

/-- The authentication data that is sent back is as long as the data that came. -/
lemma length_checkAuthentication (hw : w.Sized) (cfg : Config) (pdpy : ProtoDisplay)
    (displayID name data : ARRAY8) :
    (checkAuthentication w cfg pdpy displayID name data).2.2.length = data.length := by
  unfold checkAuthentication xdmCheckAuthentication
  split
  · cases w.xdmGetKey displayID with
    | none => rfl
    | some key =>
      dsimp only
      split
      · rfl
      · rw [hw.xdmcpWrap, hw.xdmcpIncrementKey, hw.xdmcpUnwrap]
  · rfl

/-- The size of what a packet carries of the authorization. -/
def Xauth.size (auth : Xauth) : Nat := auth.name.length + auth.data.length

lemma size_granted (hw : w.Sized) {pdpy pdpy' : ProtoDisplay} {auth : Option Xauth} {j : Nat}
    (hj : authorizationIndex cfg r = some j)
    (hgrant : grantAuthorization w cfg pdpy r j = some (pdpy', auth)) :
    (onWire auth).size = authorizationSize w cfg r := by
  unfold grantAuthorization at hgrant
  unfold authorizationSize chosenProtocol
  rw [hj, Option.bind_some]
  cases hname : r.authorizationNames[j]? with
  | none =>
    rw [hname] at hgrant
    obtain ⟨-, rfl⟩ := Prod.mk.inj (Option.some.inj hgrant)
    rfl
  | some name =>
    rw [hname] at hgrant
    obtain ⟨pdpy', hset, heq⟩ := Option.map_eq_some_iff.1 hgrant
    obtain ⟨rfl, rfl⟩ := Prod.mk.inj heq
    have hcases := setProtoDisplayAuthorization_cases hset
    rw [Option.bind_some]
    cases hprotocol : findProtocol cfg name with
    | none =>
      simp only [hprotocol] at hcases
      simp only [hcases.1, hcases.2]
      rfl
    | some protocol =>
      cases protocol with
      | mitMagicCookie1 =>
        simp only [hprotocol] at hcases
        simp only [hcases.1, hcases.2, Option.none_or]
        cases hdata : w.generateAuthData authDataLen with
        | none => rfl
        | some data =>
          rw [Option.isSome_some, if_pos rfl, ← hw.generateAuthData _ _ hdata]
          rfl
      | xdmAuthorization1 =>
        -- a session key of eight bytes, encrypted
        cases hdata : w.generateAuthData 8 with
        | none =>
          simp only [hprotocol, hdata] at hcases
          simp only [hcases.1, hcases.2]
          rfl
        | some data =>
          simp only [hprotocol, hdata] at hcases
          have hlen : (w.xdmcpWrap (data.set 0 0) pdpy.key).length = 8 := by
            rw [hw.xdmcpWrap, List.length_set, hw.generateAuthData _ _ hdata]
          simp only [hcases.1, Option.some_or, Option.isSome_some, if_true, ← hlen]
          rfl

/-- A `REQUEST` has been answered with one packet, in which the authentication name and data
stand next to `size` bytes. -/
def Replies (r : Request) (size : Nat) (s s' : State) : Prop :=
  ∃ dest m, s'.out = s.out ++ [.send dest m] ∧ m.isReply = true ∧
    m.size = r.authenticationName.length + r.authenticationData.length + size

lemma wlp_sendDecline {status data : ARRAY8} {t : State} (ht : t.out = s.out)
    (hdata : data.length = r.authenticationData.length) :
    Wlp (sendDecline sender r.authenticationName data status)
      (fun _ => Replies r (overhead w cfg r (some status)) s) t := by
  refine (wlp_modify _ _ _).2 ⟨sender.sa, _, by rw [ht], rfl, ?_⟩
  rw [Message.size_decline, overhead, hdata]
  omega

lemma wlp_authorizeRequest_replies (hw : w.Sized) {t : State} (ht : t.out = s.out) :
    Wlp (authorizeRequest w sender r pdpy)
      (fun _ => Replies r (overhead w t.config r (denial w t.config r)) s) t := by
  have hpasses := checkAuthentication_passes w t.config pdpy r
  have hdata := length_checkAuthentication hw t.config pdpy r.manufacturerDisplayID
    r.authenticationName r.authenticationData
  unfold authorizeRequest
  simp only [wlp_bind, wlp_get]
  split
  · next hindex =>
    rw [denial, if_pos hindex]
    simp only [disposeProtoDisplay, wlp_bind, wlp_modify]
    exact (wlp_sendDecline ht rfl).mono fun _ _ h => h
  next j hindex =>
  rw [denial, if_neg (by simp [hindex])]
  split
  · next data hcheck =>
    rw [hcheck] at hpasses hdata
    rw [← hpasses, if_neg (by simp)]
    simp only [disposeProtoDisplay, wlp_bind, wlp_modify]
    exact (wlp_sendDecline ht hdata).mono fun _ _ h => h
  · next pdpy' data hcheck =>
    rw [hcheck] at hpasses hdata
    rw [← hpasses, if_pos rfl]
    split
    · exact (wlp_failure _ _).2 trivial
    next pdpy'' auth hgrant =>
    have hsize := size_granted hw hindex hgrant
    simp only [wlp_bind, writeProtoDisplay, sendAccept, emit, wlp_modify]
    have hmessage := acceptMessage_eq r pdpy'' data auth
    refine ⟨sender.sa, _, congrArg (· ++ _) ht, rfl, ?_⟩
    change (acceptMessage r _ data _).size = _
    rw [hmessage, Message.size_accept, overhead, ← hsize, Xauth.size]
    dsimp only at hdata
    omega

/-- A new session is refused for the reason that `refusal` gives, or not at all. -/
lemma wlp_newSession_refusal : Wlp (newSession w sender r) (fun result s' =>
    s'.out = s.out ∧ s'.config = s.config ∧
      refusal w s sender r = result.elim (fun _ => none) some) s := by
  unfold newSession refusal
  obtain ⟨family, addr⟩ := convertAddr sender.sa
  cases family with
  | none =>
    simp only [wlp_pure]
    exact ⟨trivial, trivial, rfl⟩
  | some family =>
    simp only [wlp_bind, wlp_get]
    cases accept w s.config s.database addr family with
    | some reason =>
      simp only [wlp_pure]
      exact ⟨trivial, trivial, rfl⟩
    | none =>
      refine wlp_ite (fun _ => (wlp_failure _ _).2 trivial) fun _ => ?_
      cases (selectConnectionTypeIndex w addr family r.connectionTypes r.connectionAddresses).1 with
      | none =>
        simp only [wlp_pure]
        exact ⟨trivial, trivial, rfl⟩
      | some c =>
        simp only [nextSessionID, newProtoDisplay, timeoutProtoDisplays, wlp_bind, wlp_get,
          wlp_set, wlp_pure, wlp_modify]
        refine wlp_ite (fun halloc => ?_) fun halloc => ?_
        · simp [halloc]
        · simp [halloc]

lemma wlp_answerRequest_replies (hw : w.Sized) : Wlp (answerRequest w sender r)
    (fun _ => Replies r (overhead w s.config r (declineStatus w s sender r)) s) s := by
  unfold answerRequest declineStatus
  simp only [wlp_bind, wlp_get]
  split
  · next pdpy hfind =>
    rw [hfind, Option.isSome_some, if_pos rfl]
    exact wlp_authorizeRequest_replies hw rfl
  · next hfind =>
    rw [hfind, Option.isSome_none, if_neg Bool.false_ne_true, wlp_bind]
    refine wlp_newSession_refusal.mono fun result t hnew => ?_
    obtain ⟨hout, hconfig, hrefusal⟩ := hnew
    rw [hrefusal]
    cases result with
    | inl pdpy =>
      rw [← hconfig]
      exact wlp_authorizeRequest_replies hw hout
    | inr reason => exact wlp_sendDecline hout rfl

/-! ### Datagrams that have been received -/

/-- The bytes of a datagram; the other inputs have none. -/
def Input.bytes : Input → ARRAY8
  | .datagram _ _ _ bytes => bytes
  | _ => []

/-- A `REQUEST` that is acted on is a packet in the sense of `packetIn`. -/
lemma packetIn_of_requestIn {datagram : ARRAY8} (hr : requestIn datagram = some r) :
    packetIn datagram = some (.request r) := by
  obtain ⟨length, payload, rest, hpayload, hread, hlen⟩ := requestIn_eq_some hr
  obtain ⟨header, hheader, hversion, hopcode, rfl⟩ := payloadIn_eq_some hpayload
  have hfields : readFields .request payload = some (.request r, rest) := by
    change (readRequest payload).bind (fun p => some (Packet.request p.1, p.2)) = _
    rw [hread]
    rfl
  simp only [packetIn, hheader, hversion, hopcode, if_true, acceptFields, hfields]
  exact if_pos hlen

/-- Its authentication name and data are smaller than the datagram. -/
lemma length_authentication_lt {datagram : ARRAY8} (hr : requestIn datagram = some r) :
    r.authenticationName.length + r.authenticationData.length < datagram.length := by
  obtain ⟨-, -, rest, hdatagram⟩ := packetIn_eq_some.1 (packetIn_of_requestIn hr)
  have hlen := congrArg List.length hdatagram
  rw [Packet.datagram, List.length_append, List.length_append, Packet.length_fields,
    Packet.expectedLen, Request.expectlen] at hlen
  omega

/-! ### The sizes of the parts -/

lemma authorizationSize_le (w : World) (cfg : Config) (r : Request) :
    authorizationSize w cfg r ≤ 34 := by
  unfold authorizationSize
  split
  · exact Nat.zero_le _
  · split
    · decide
    · exact Nat.zero_le _
  · split
    · decide
    · exact Nat.zero_le _

lemma length_denial_le {status : ARRAY8} (h : denial w cfg r = some status) :
    status.length ≤ 40 := by
  unfold denial at h
  split_ifs at h
  all_goals
    obtain rfl := Option.some.inj h
    decide

lemma length_refusal_le {status : ARRAY8} (h : refusal w s sender r = some status) :
    status.length ≤ 40 := by
  unfold refusal at h
  split at h
  · obtain rfl := Option.some.inj h
    decide
  · rcases Option.or_eq_some_iff.1 h with haccept | ⟨-, hselect⟩
    · unfold accept at haccept
      split_ifs at haccept
      obtain rfl := Option.some.inj haccept
      decide
    · split_ifs at hselect
      all_goals
        obtain rfl := Option.some.inj hselect
        decide

/-- Next to the authentication name and data an answer is small. -/
lemma overhead_le (w : World) (s : State) (sender : Netaddr) (r : Request) :
    overhead w s.config r (declineStatus w s sender r) ≤ 46 := by
  cases hstatus : declineStatus w s sender r with
  | none =>
    have := authorizationSize_le w s.config r
    rw [overhead]
    omega
  | some status =>
    have hlen : status.length ≤ 40 := by
      unfold declineStatus at hstatus
      split_ifs at hstatus
      · exact length_denial_le hstatus
      · rcases Option.or_eq_some_iff.1 hstatus with hrefusal | ⟨-, hdenial⟩
        · exact length_refusal_le hrefusal
        · exact length_denial_le hdenial
    rw [overhead]
    omega

/-! ### Runs -/

/-- What a reply to a step is: not too large for its header, and small enough for the buffer
if and only if the step has room. -/
lemma reply_of_step (hstep : step i s = some ((), s')) (hworlds : ∀ w ∈ i.worlds, w.Sized)
    (hbytes : i.bytes.length ≤ xdmMaxMsglen) {dest : SockAddr} {m : Message}
    (hm : Event.send dest m ∈ s'.out) (hreply : m.isReply = true) :
    m.size < 2 ^ 16 ∧ (6 + m.size ≤ xdmMaxMsglen ↔ HasRoom s i) := by
  have hop := operation_of_step hstep
  rw [xdmMaxMsglen] at *
  cases hreq : i.request? with
  | none =>
    have hemits := Emits.operation (P := Event.Fits) hreq (fun _ => Event.OfDisplay.fits)
      (fun w hw _ => Event.OfQuery.fits (hworlds w hw)) fun dest sessionID _ => by
        rw [Message.size_refuse]
        decide
    have hfits : 6 + m.size ≤ 8192 := (hemits _ trivial _ _ hop).2.mem rfl hm hreply
    refine ⟨by omega, iff_of_true hfits fun w sender r h => ?_⟩
    rw [hreq] at h
    cases h
  | some p =>
    obtain ⟨w, sender, r⟩ := p
    have hw := hworlds w (mem_worlds_of_request hreq)
    rw [operation_of_request hreq] at hop
    obtain ⟨dest', m', hout, -, hsize⟩ := wlp_answerRequest_replies hw _ _ hop
    obtain ⟨-, rfl⟩ : dest = dest' ∧ m = m' := by
      simpa [hout, State.begin] using hm
    have hlt : r.authenticationName.length + r.authenticationData.length < i.bytes.length := by
      cases i with
      | datagram w' fd sender' bytes =>
        obtain ⟨r', hr', heq⟩ := Option.map_eq_some_iff.1 hreq
        obtain ⟨rfl, rfl, rfl⟩ := heq
        exact length_authentication_lt hr'
      | _ => cases hreq
    have hle := overhead_le w (s.begin i) sender r
    refine ⟨by omega, fun hfits w' sender' r' h => ?_, fun hroom => ?_⟩
    · obtain ⟨rfl, rfl, rfl⟩ : w = w' ∧ sender = sender' ∧ r = r' := by
        simpa using hreq.symm.trans h
      change _ + overhead w (s.begin i).config r (declineStatus w (s.begin i) sender r) ≤ _
      rw [xdmMaxMsglen]
      omega
    · have hroom' : _ + overhead w (s.begin i).config r
          (declineStatus w (s.begin i) sender r) ≤ _ := hroom w sender r hreq
      rw [xdmMaxMsglen] at hroom'
      omega

/-- In every run with datagrams of at most 8192 bytes: the length in the header of a reply is
the size of its fields, without a wrap, and it is the number of bytes written after the header
if and only if the reply answers no `REQUEST`, or one whose authentication name and data leave
room for the status text or the authorization that goes with them. -/
theorem replies_announced_iff (W : XdmcpWriter) (run : DaemonRun config g h s)
    (hworlds : ∀ x ∈ h, ∀ w ∈ x.input.worlds, w.Sized)
    (hbytes : ∀ x ∈ h, x.input.bytes.length ≤ xdmMaxMsglen) :
    ∀ x ∈ h, ∀ dest m, Event.send dest m ∈ x.post.out → m.isReply = true →
      m.headerLength.toNat = m.size ∧
        (m.headerLength.toNat = m.written W ↔ HasRoom x.pre x.input) := by
  intro x hx dest m hm hreply
  obtain ⟨h₁, h₂, -, -, hstep⟩ := run.split hx
  obtain ⟨hsize, hroom⟩ := reply_of_step hstep (hworlds x hx) (hbytes x hx) hm hreply
  have hlength := Message.toNat_headerLength hsize
  refine ⟨hlength, ?_⟩
  rw [hlength, eq_comm, Message.written_eq_size_iff]
  exact hroom

/-- A `REQUEST` without connections, with nothing but authentication data. -/
def Request.swollen (authenticationData : ARRAY8) : Request :=
  { Request.plain 0 [] with
    connectionTypes := []
    connectionAddresses := []
    authenticationData := authenticationData }

/-- The first step of a run is what the handler of its packet does. -/
lemma step_initial {config : Config} {fd : Int} {bytes : ARRAY8} {p : Packet}
    (hp : packetIn bytes = some p) :
    step (.datagram w fd sender bytes) (State.initial config g) =
      p.respond w fd sender ((State.initial config g).begin (.datagram w fd sender bytes)) := by
  obtain ⟨hsocket, -⟩ := packet_accepted_iff w fd sender bytes
  rw [hp, Option.elim_some] at hsocket
  rw [← hsocket]
  rfl

/-- With 8175 bytes of data its datagram has the size of the buffer. -/
lemma packetIn_swollen {data : ARRAY8} (hdata : data.length = 8175) :
    packetIn (Packet.request (Request.swollen data)).datagram =
        some (.request (Request.swollen data)) ∧
      (Packet.request (Request.swollen data)).datagram.length = xdmMaxMsglen := by
  have hlen : (Packet.request (Request.swollen data)).fields.length = 8186 := by
    rw [Packet.length_fields, Packet.expectedLen, Request.expectlen]
    simp only [Request.swollen, Request.plain, hdata]
    decide
  have harrays : FitsARRAYofARRAY8 [] := ⟨by decide, List.forall_mem_nil _⟩
  have hempty : ARRAY8.Fits [] := Nat.two_pow_pos 16
  have hfits : (Request.swollen data).Fits := ⟨harrays.length, harrays, hempty,
    by rw [ARRAY8.Fits, Request.swollen, hdata]; decide, harrays, hempty⟩
  constructor
  · exact packetIn_eq_some.2 ⟨hfits, by rw [hlen]; decide, [], (List.append_nil _).symm⟩
  · rw [Packet.datagram, List.length_append, hlen, length_writeHeader]
    rfl

/-- The `DECLINE` for such a `REQUEST` announces 8197 bytes, and no writer puts them into the
buffer. -/
theorem reply_truncated : ∃ h s, DaemonRun Config.open 0 h s ∧
    (∀ x ∈ h, (∀ w ∈ x.input.worlds, w.Sized) ∧ x.input.bytes.length ≤ xdmMaxMsglen) ∧
    ∃ x ∈ h, ∃ dest m, Event.send dest m ∈ x.post.out ∧ m.isReply = true ∧
      ∀ W : XdmcpWriter, m.headerLength.toNat ≠ m.written W := by
  obtain ⟨data, hdata⟩ : ∃ data : ARRAY8, data.length = 8175 :=
    ⟨List.replicate 8175 0, List.length_replicate⟩
  obtain ⟨hpacket, hbytes⟩ := packetIn_swollen hdata
  set i : Input := .datagram (World.lan 20 7) 3 Netaddr.guest
    (Packet.request (Request.swollen data)).datagram with hi
  set m : Message := .decline noValidAddr [] data with hm
  have hstep : step i (State.initial Config.open 0) =
      some ((), ((State.initial Config.open 0).begin i).sent Netaddr.guest.sa m) := by
    rw [hi, step_initial hpacket]
    rfl
  have hsize : m.size = 8197 := by
    rw [hm, Message.size_decline, hdata]
    decide
  refine ⟨_, _, Run.nil.snoc hstep, fun x hx => ?_, ⟨_, i, _⟩, List.mem_singleton.2 rfl,
    Netaddr.guest.sa, m, ?_, rfl, fun W h => ?_⟩
  · obtain rfl := List.mem_singleton.1 hx
    refine ⟨fun w hw => ?_, Nat.le_of_eq hbytes⟩
    obtain rfl := List.mem_singleton.1 hw
    exact ⟨by decide, by simp [World.lan], fun _ _ => rfl, fun _ _ => rfl, fun _ => rfl⟩
  · exact List.mem_append_right _ (List.mem_singleton.2 rfl)
  · have hnot : ¬ 6 + m.size ≤ xdmMaxMsglen := by
      rw [hsize]
      decide
    rw [m.toNat_headerLength (by rw [hsize]; decide)] at h
    exact hnot ((m.written_eq_size_iff W).1 h.symm)

/-- The `ACCEPT` for an ordinary display announces its size. -/
theorem reply_announced_guest : ∃ h s, DaemonRun Config.open 0 h s ∧
    ∃ x ∈ h, ∃ dest m, Event.send dest m ∈ x.post.out ∧ m.opcode = .accept ∧
      m.headerLength.toNat = m.written (Writer.cutting UInt8 xdmMaxMsglen) := by
  obtain ⟨h, s, run, hinputs, hlen, x, hx, e, he, haccept⟩ : ∃ h s, DaemonRun Config.open 0 h s ∧
      h.map Step.input = [.request (World.lan 20 7) Netaddr.guest (Request.plain 0 [])] ∧
      (∀ x ∈ h, x.input.bytes.length ≤ xdmMaxMsglen) ∧
      ∃ x ∈ h, ∃ e ∈ x.post.out, e.isAccept = true :=
    exists_run_on _ (by decide +kernel)
  have hworlds : ∀ y ∈ h, ∀ w ∈ y.input.worlds, w.Sized := by
    intro y hy w hw
    rw [input_of_mem hinputs hy] at hw
    obtain rfl := List.mem_singleton.1 hw
    exact ⟨by decide, by simp [World.lan], fun _ _ => rfl, fun _ _ => rfl, fun _ => rfl⟩
  have hroom : HasRoom x.pre x.input := by
    intro w sender r hreq
    rw [input_of_mem hinputs hx] at hreq
    obtain ⟨-, -, rfl⟩ := request?_plain hreq
    exact Nat.le_trans (Nat.add_le_add_left (overhead_le _ _ _ _) _) (by decide)
  cases e with
  | send dest m =>
    cases m with
    | accept =>
      refine ⟨h, s, run, x, hx, dest, _, he, rfl, ?_⟩
      exact (replies_announced_iff _ run hworlds hlen x hx dest _ he rfl).2.2 hroom
    | _ => exact nomatch haccept
  | _ => exact nomatch haccept

end Xdm
