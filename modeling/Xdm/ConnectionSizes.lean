/-
# The sizes of connection addresses

The connection type of a proto-display says how many bytes of its connection address
`NetworkAddressToName` reads, but nothing compares the two when a `REQUEST` is processed.
`connections_sized_iff` says for which packets the address has the size that the type needs:
those that list the sender's own address, or whose first usable connection has it.
-/
import Xdm.Connections
import Xdm.ProtoDisplays

namespace Xdm

open Prog

variable {config : Config} {g : Nat} {h : List (Step State Input)} {s : State}
variable {w : World} {cfg : Config} {addr : ARRAY8} {family : CARD16} {types : List CARD16}
  {addresses : List ARRAY8}

/-! ### The connection that is selected -/

/-- The connections of a `REQUEST`, as `SelectConnectionTypeIndex` sees them. -/
def connectionsFrom (w : World) (addresses : List ARRAY8) (i : Nat) (types : List CARD16) :
    List Connection :=
  (types.zipIdx i).map fun c => ⟨c.2, c.1, connectionAddressAt w addresses c.2⟩

def Connection.usable (c : Connection) : Bool := usableType c.connectionType

/-- The connection is the address that the packet comes from. -/
def Connection.isSender (addr : ARRAY8) (family : CARD16) (c : Connection) : Bool :=
  c.usable && family = c.connectionType && addr = c.connectionAddress

lemma connectionsFrom_cons (i : Nat) (type : CARD16) :
    connectionsFrom w addresses i (type :: types) =
      ⟨i, type, connectionAddressAt w addresses i⟩ ::
        connectionsFrom w addresses (i + 1) types := by
  simp [connectionsFrom, List.zipIdx_cons]

/-- The loop takes the sender's own address, or else the first usable connection. -/
lemma loop_selects (ret : Option Connection) (i : Nat) :
    (selectConnectionLoop w addr family addresses i ret types).1 =
      ((connectionsFrom w addresses i types).find? (Connection.isSender addr family)).or
        (ret.or ((connectionsFrom w addresses i types).find? Connection.usable)) := by
  induction types generalizing i ret with
  | nil => simp [selectConnectionLoop, connectionsFrom]
  | cons type types ih =>
    rw [connectionsFrom_cons, List.find?_cons, List.find?_cons]
    unfold selectConnectionLoop
    by_cases husable : usableType type = true
    · rcases eq_or_ne family type with rfl | hfamily
      · by_cases haddr : addr = connectionAddressAt w addresses i
        · -- the sender's own address ends the loop
          simp [Connection.isSender, Connection.usable, husable, haddr]
        · cases ret <;> simp [Connection.isSender, Connection.usable, husable, haddr, ih]
      · cases ret <;> simp [Connection.isSender, Connection.usable, husable, hfamily, ih]
    · cases ret <;> simp [Connection.isSender, Connection.usable, husable, ih]

lemma selectConnectionTypeIndex_fst : (selectConnectionTypeIndex w addr family types
    addresses).1 = ((connectionsFrom w addresses 0 types).find?
      (Connection.isSender addr family)).or
        (((connectionsFrom w addresses 0 types).find? Connection.usable).or
          (if isLocalAddress w addr family then some ⟨types.length, family, addr⟩ else none)) := by
  have hloop : (selectConnectionLoop w addr family addresses 0 none types).1 =
      ((connectionsFrom w addresses 0 types).find? (Connection.isSender addr family)).or
        (none.or ((connectionsFrom w addresses 0 types).find? Connection.usable)) :=
    loop_selects none 0
  unfold selectConnectionTypeIndex
  generalize selectConnectionLoop w addr family addresses 0 none types = found at hloop
  obtain ⟨ret, reads⟩ := found
  simp only [Option.none_or] at hloop
  rw [← Option.or_assoc, ← hloop]
  cases ret with
  | some c => rfl
  | none =>
    simp only [Option.none_or]
    split <;> rfl

/-! ### Sizes -/

/-- The address has the size that the connection type needs. -/
structure Sized (connectionType : CARD16) (connectionAddress : ARRAY8) : Prop where
  internet : connectionType = familyInternet → connectionAddress.length = 4
  internet6 : connectionType = familyInternet6 → connectionAddress.length = 16

instance (connectionType : CARD16) (connectionAddress : ARRAY8) :
    Decidable (Sized connectionType connectionAddress) :=
  decidable_of_iff (_ ∧ _) ⟨fun hc => ⟨hc.1, hc.2⟩, fun hc => ⟨hc.internet, hc.internet6⟩⟩

/-- The address of a sender always has the size of its type. -/
lemma sized_convertAddr {sa : SockAddr} (hsa : convertAddr sa = (some family, addr)) :
    Sized family addr := by
  obtain ⟨hfamily, rfl⟩ := Prod.mk.inj hsa
  cases sa with
  | unspec | unix =>
    obtain rfl := Option.some.inj hfamily
    exact ⟨fun hc => absurd hc (by decide), fun hc => absurd hc (by decide)⟩
  | inet port addr =>
    obtain rfl := Option.some.inj hfamily
    exact ⟨fun _ => addr.2, fun hc => absurd hc (by decide)⟩
  | inet6 port addr scope =>
    simp only [netaddrFamily, netaddrAddress] at hfamily ⊢
    by_cases hmapped : isV4Mapped addr.1 = true
    · simp only [hmapped, if_true, List.length_drop, addr.2] at hfamily ⊢
      obtain rfl := Option.some.inj hfamily
      exact ⟨fun _ => by simp [addr.2], fun hc => absurd hc (by decide)⟩
    · simp only [hmapped, Bool.false_eq_true, if_false, addr.2] at hfamily ⊢
      obtain rfl := Option.some.inj hfamily
      exact ⟨fun hc => absurd hc (by decide), fun _ => addr.2⟩
  | other n => exact nomatch hfamily

/-- The packet lists the sender's own address, or the first connection of a usable type has
an address of the size that this type needs. -/
def SizedConnection (w : World) (sender : Netaddr) (r : Request) : Prop :=
  let connections := connectionsFrom w r.connectionAddresses 0 r.connectionTypes
  (connections.any fun c => some c.connectionType = (convertAddr sender.sa).1 && c.usable &&
      (convertAddr sender.sa).2 = c.connectionAddress) = true ∨
    ∀ c ∈ connections.find? Connection.usable, Sized c.connectionType c.connectionAddress

instance (w : World) (sender : Netaddr) (r : Request) : Decidable (SizedConnection w sender r) :=
  inferInstanceAs (Decidable (_ ∨ _))

/-- The connection that is selected is in order if and only if those of the packet are. -/
lemma sized_selected_iff {sender : Netaddr} {r : Request} {c : Connection}
    (hsa : convertAddr sender.sa = (some family, addr))
    (hc : (selectConnectionTypeIndex w addr family r.connectionTypes
      r.connectionAddresses).1 = some c) :
    Sized c.connectionType c.connectionAddress ↔ SizedConnection w sender r := by
  have hsender := sized_convertAddr hsa
  have hown : ∀ c : Connection, (some c.connectionType = (convertAddr sender.sa).1 && c.usable &&
      (convertAddr sender.sa).2 = c.connectionAddress) = c.isSender addr family := by
    intro c
    rw [hsa]
    simp [Connection.isSender, eq_comm (a := family), Bool.and_comm]
  unfold SizedConnection
  simp only [hown]
  rw [selectConnectionTypeIndex_fst] at hc
  generalize connectionsFrom w r.connectionAddresses 0 r.connectionTypes = connections at hc ⊢
  cases hfind : connections.find? (Connection.isSender addr family) with
  | some own =>
    -- the sender's own address
    obtain rfl : own = c := by simpa [hfind] using hc
    have hisown := List.find?_some hfind
    simp only [Connection.isSender, Bool.and_eq_true, decide_eq_true_eq] at hisown
    refine iff_of_true ?_ (Or.inl (List.any_eq_true.2 ⟨own, List.mem_of_find?_eq_some hfind,
      List.find?_some hfind⟩))
    rw [← hisown.1.2, ← hisown.2]
    exact hsender
  | none =>
    rw [or_iff_right (by simpa using hfind)]
    rw [hfind, Option.none_or] at hc
    cases hfirst : connections.find? Connection.usable with
    | some first =>
      obtain rfl : first = c := by simpa [hfirst] using hc
      simp
    | none =>
      -- no connection is usable, and the sender is local
      rw [hfirst, Option.none_or] at hc
      split_ifs at hc
      obtain rfl := Option.some.inj hc
      exact iff_of_true hsender fun c hmem => nomatch hmem

/-- The same of the proto-display of a new session. -/
lemma Issued.sized_iff {sender : Netaddr} {r : Request} {pdpy p : ProtoDisplay}
    (hissued : Issued w sender r s pdpy) (hsame : pdpy.SameSession p) :
    Sized p.connectionType p.connectionAddress ↔ SizedConnection w sender r := by
  obtain ⟨family, addr, hsa, -, c, hc, htype, haddress⟩ := hissued.admitted
  rw [hsame.connectionType, hsame.connectionAddress, htype, haddress]
  exact sized_selected_iff hsa hc

/-! ### What `NetworkAddressToName` reads -/

/-- The number of bytes of an address that `inet_ntop` reads. -/
def digitBytes (connectionType : CARD16) : Nat :=
  if connectionType = familyInternet6 then 16 else 4

/-- `NetworkAddressToName` prints the connection address in digits: it has no good host name
for it, and the host is not taken to have several addresses. -/
def printsDigits (hostname : Option Str) (multiHomed : Bool) : Bool :=
  !multiHomed && !hostname.any fun name => name ≠ [] && name.head? ≠ some '.'

/-- How many bytes of the connection address `NetworkAddressToName` reads, from the first one
on.  The comparisons with local addresses and `gethostbyaddr` go by the length; the tests for
scoped addresses look at the first 4 bytes, and `inet_ntop` at as many as an address has. -/
def nameReads (w : World) (cfg : Config) (connectionType : CARD16) (connectionAddress : ARRAY8) :
    Nat :=
  if isLocalAddress w connectionAddress connectionType then connectionAddress.length
  else if connectionType = familyInternet ∨ connectionType = familyInternet6 then
    let scope := if connectionType = familyInternet6 then 4 else 0
    let (hostname, multiHomed) := connectionHostname w cfg connectionType connectionAddress
    max (max scope connectionAddress.length)
      (if printsDigits hostname multiHomed then digitBytes connectionType else 0)
  else connectionAddress.length

lemma nameReads_le {connectionType : CARD16} {connectionAddress : ARRAY8}
    (hsized : Sized connectionType connectionAddress) :
    nameReads w cfg connectionType connectionAddress ≤ connectionAddress.length := by
  unfold nameReads
  split
  · exact Nat.le_refl _
  split
  · next htype =>
    dsimp only
    have hdigits : digitBytes connectionType ≤ connectionAddress.length := by
      unfold digitBytes
      rcases htype with rfl | rfl
      · exact Nat.le_of_eq (hsized.internet rfl).symm
      · exact Nat.le_of_eq (hsized.internet6 rfl).symm
    have hscope : (if connectionType = familyInternet6 then 4 else 0) ≤
        connectionAddress.length := by
      split_ifs with h6
      · rw [hsized.internet6 h6]
        decide
      · exact Nat.zero_le _
    refine Nat.max_le.2 ⟨Nat.max_le.2 ⟨hscope, Nat.le_refl _⟩, ?_⟩
    split_ifs
    · exact hdigits
    · exact Nat.zero_le _
  · exact Nat.le_refl _

/-! ### Runs -/

/-- In every run: the connection address of a proto-display that a `REQUEST` creates has the
size that its type needs if and only if the packet lists the sender's own address, or its
first usable connection has the size; and if this is so for every `REQUEST`, each
proto-display has such an address, and `NetworkAddressToName` reads within it whenever a
`MANAGE` starts a session. -/
theorem connections_sized_iff (run : DaemonRun config g h s) :
    (∀ x ∈ h, ∀ w sender r, x.input.request? = some (w, sender, r) →
      ∀ p ∈ x.post.protoDisplays, x.pre.nextAddr ≤ p.addr →
        (Sized p.connectionType p.connectionAddress ↔ SizedConnection w sender r)) ∧
    ((∀ x ∈ h, ∀ w sender r, x.input.request? = some (w, sender, r) →
        SizedConnection w sender r) →
      (∀ p ∈ s.protoDisplays, Sized p.connectionType p.connectionAddress) ∧
      ∀ x ∈ h, ∀ w sender m, x.input.manage? = some (w, sender, m) →
        ∀ p ∈ findProtoDisplay sender m.displayNumber x.pre.protoDisplays,
          nameReads w x.pre.config p.connectionType p.connectionAddress ≤
            p.connectionAddress.length) := by
  refine ⟨fun x hx w sender r hreq p hp hnew => ?_, fun hall => ?_⟩
  · obtain ⟨h₁, h₂, -, hrun, hstep⟩ := run.split hx
    rcases (step_kind (run_sound hrun) hstep).2.protoDisplay hp with ⟨q, hq, hsame⟩ |
      ⟨-, w', sender', r', pdpy, hreq', hissued, hsame, -⟩
    · have hlt := (run_protoSound hrun).bound q hq
      rw [hsame.addr] at hnew
      omega
    · obtain ⟨rfl, rfl, rfl⟩ : w' = w ∧ sender' = sender ∧ r' = r := by
        simpa using hreq'.symm.trans hreq
      exact hissued.sized_iff hsame
  have hsized : ∀ {h s}, DaemonRun config g h s → (∀ x ∈ h, ∀ w sender r,
      x.input.request? = some (w, sender, r) → SizedConnection w sender r) →
      ∀ p ∈ s.protoDisplays, Sized p.connectionType p.connectionAddress := by
    intro h s run hall
    refine run.invariant_of (C := fun x => ∀ w sender r, x.input.request? = some (w, sender, r) →
      SizedConnection w sender r) (I := fun _ s => ∀ p ∈ s.protoDisplays,
        Sized p.connectionType p.connectionAddress) (by simp [State.initial]) ?_ hall
    intro h s i s' run hI hstep hC p hp
    rcases (step_kind (run_sound run) hstep).2.protoDisplay hp with ⟨q, hq, hsame⟩ |
      ⟨-, w, sender, r, pdpy, hreq, hissued, hsame, -⟩
    · rw [hsame.connectionType, hsame.connectionAddress]
      exact hI q hq
    · exact (hissued.sized_iff hsame).2 (hC w sender r hreq)
  refine ⟨hsized run hall, fun x hx w sender m _ p hp => nameReads_le ?_⟩
  obtain ⟨h₁, h₂, rfl, hrun, -⟩ := run.split hx
  exact hsized hrun (fun y hy => hall y (List.mem_append_left _ hy)) p
    (findProtoDisplay_some hp).1

/-- A `REQUEST` whose only connection has the type `FamilyInternet` and no bytes. -/
def Request.empty : Request := { Request.plain 0 [] with connectionAddresses := [[]] }

/-- It is accepted, and for its `MANAGE` 4 bytes are read that are not there. -/
theorem connection_unsized : ∃ h s, DaemonRun Config.open 0 h s ∧
    h.map Step.input = [.request (World.lan 20 7) Netaddr.guest Request.empty] ∧
    ∃ p ∈ s.protoDisplays, p.connectionType = familyInternet ∧ p.connectionAddress = [] ∧
      nameReads (World.lan 20 7) s.config p.connectionType p.connectionAddress = 4 :=
  exists_run_on _ (by decide +kernel)

/-- The `REQUEST` of an ordinary display has connections in order. -/
theorem connections_sized_guest : ∃ h s, DaemonRun Config.open 0 h s ∧
    s.protoDisplays.map ProtoDisplay.connectionType = [familyInternet] ∧
    ∀ p ∈ s.protoDisplays, p.connectionAddress.length = 4 := by
  obtain ⟨h, s, run, hinputs, htypes⟩ : ∃ h s, DaemonRun Config.open 0 h s ∧
      h.map Step.input = [.request (World.lan 20 7) Netaddr.guest (Request.plain 0 [])] ∧
      s.protoDisplays.map ProtoDisplay.connectionType = [familyInternet] :=
    exists_run_on _ (by decide +kernel)
  have hall : ∀ x ∈ h, ∀ w sender r, x.input.request? = some (w, sender, r) →
      SizedConnection w sender r := by
    intro x hx w sender r hreq
    rw [input_of_mem hinputs hx] at hreq
    obtain ⟨rfl, rfl, rfl⟩ := request?_plain hreq
    decide +kernel
  refine ⟨h, s, run, htypes, fun p hp => ?_⟩
  have htype : p.connectionType ∈ s.protoDisplays.map ProtoDisplay.connectionType :=
    List.mem_map_of_mem hp
  rw [htypes, List.mem_singleton] at htype
  exact (((connections_sized_iff run).2 hall).1 p hp).internet htype

end Xdm
