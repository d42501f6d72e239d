/-
# The hosts on the command line

`RegisterHostname` (`chooser/chooser.c`) finds the addresses that a name on the command line
stands for, and the kind of query that each of them is sent.  The octets of an address are in the
order of the network; the test for a multicast address reads them in the order of the machine,
and `registerHostname_kinds_iff` says for which answers of the resolver it is right.
-/
import Xdm.Chooser.Answer
import Xdm.Lib.ByteOrder
import Xdm.Xdmcp.Query

namespace Xdm

/-- An address for the queries, and their kind. -/
structure HostAddr where
  addr : SockAddr
  type : XdmOpCode
deriving DecidableEq

/-- What the kernel says of an interface. -/
structure Ifreq where
  /-- the family of the address that `SIOCGIFCONF` gives -/
  family : AddrFamily
  /-- the answer to `SIOCGIFFLAGS` -/
  flags : Option UInt16
  /-- the answer to `SIOCGIFBRDADDR`, for an interface with an address of IPv4 -/
  broadaddr : Option (Octets 4)

/-- The machine on which the chooser runs. -/
structure Machine where
  order : ByteOrder
  /-- the answer to `SIOCGIFCONF` -/
  ifconf : Option (List Ifreq)

/-! ### Registering a name -/

/-- `RegisterHostaddr`, if there is memory. -/
def registerHostaddr (addr : SockAddr) (type : XdmOpCode) (hostAddrdb : List HostAddr) :
    List HostAddr :=
  hostAddrdb ++ [⟨addr, type⟩]

def broadcastHostname : Str := "BROADCAST".toList
def iffUp : UInt16 := 0x1
def iffBroadcast : UInt16 := 0x2

/-- The loop body of `RegisterHostname` for an interface. -/
def registerInterface (hostAddrdb : List HostAddr) (ifr : Ifreq) : List HostAddr :=
  if ifr.family ≠ .inet then hostAddrdb
  else
    match ifr.flags with
    | none => hostAddrdb
    | some flags =>
      if flags &&& iffBroadcast ≠ 0 ∧ flags &&& iffUp ≠ 0 then
        match ifr.broadaddr with
        | none => hostAddrdb
        | some addr => registerHostaddr (.inet xdmUdpPort addr) .broadcastQuery hostAddrdb
      else hostAddrdb

/-- `s_addr` -/
def sAddr (order : ByteOrder) (addr : Octets 4) : UInt32 := UInt32.ofNat (order.load addr.1)

/-- `IN_MULTICAST` -/
def inMulticast (a : UInt32) : Bool := a &&& 0xf0000000 = 0xe0000000

/-- `IN6_IS_ADDR_MULTICAST` -/
def in6IsAddrMulticast (addr : Octets 16) : Bool := addr.1.head? = some 0xff

/-- The test of `RegisterHostname` for the class of an address. -/
def testsMulticast (order : ByteOrder) : SockAddr → Bool
  | .inet _ addr => inMulticast (sAddr order addr)
  | .inet6 _ addr _ => in6IsAddrMulticast addr
  | _ => false

/-- An address of IPv4 or IPv6. -/
def IsInternet (addr : SockAddr) : Prop :=
  netaddrFamily addr = .inet ∨ netaddrFamily addr = .inet6

instance : DecidablePred IsInternet := fun _ => inferInstanceAs (Decidable (_ ∨ _))

/-- The loop body of `RegisterHostname` for an answer of `getaddrinfo`. -/
def registerAddrinfo (order : ByteOrder) (hostAddrdb : List HostAddr) (nai : SockAddr) :
    List HostAddr :=
  if IsInternet nai then
    if testsMulticast order nai then registerHostaddr nai .broadcastQuery hostAddrdb
    else registerHostaddr nai .query hostAddrdb
  else hostAddrdb

lemma length_fromHex (s : Str) : (fromHex s).1.length = s.length / 2 := by
  induction s using fromHex.induct with
  | case1 hi lo s d ret hs ih =>
    rw [fromHex, List.length_cons, ih, List.length_cons, List.length_cons]
    omega
  | case2 c =>
    rw [fromHex, List.length_singleton]
    rfl
  | case3 => rfl

/-- `RegisterHostname` -/
def registerHostname (m : Machine) (w : World) (name : Str) (hostAddrdb : List HostAddr) :
    List HostAddr :=
  if name = broadcastHostname then
    match m.ifconf with
    | none => hostAddrdb
    | some ifc => ifc.foldl registerInterface hostAddrdb
  -- an address in hexadecimal digits
  else if h : name.length = 8 ∧ (fromHex name).2 = false then
    registerHostaddr (.inet xdmUdpPort ⟨(fromHex name).1, by rw [length_fromHex, h.1]⟩) .query
      hostAddrdb
  else (w.getaddrinfo name).foldl (registerAddrinfo m.order) hostAddrdb

/-! ### Which addresses are multicast addresses -/

/-- An address from 224.0.0.0 to 239.255.255.255, or of ff00::/8. -/
def IsMulticast : SockAddr → Prop
  | .inet _ addr => ByteOrder.big.load [224, 0, 0, 0] ≤ ByteOrder.big.load addr.1 ∧
      ByteOrder.big.load addr.1 ≤ ByteOrder.big.load [239, 255, 255, 255]
  | .inet6 _ addr _ => addr.1.head? = some 0xff
  | _ => False

instance : DecidablePred IsMulticast
  | .inet _ _ => inferInstanceAs (Decidable (_ ∧ _))
  | .inet6 _ _ _ => inferInstanceAs (Decidable (_ = _))
  | .unspec | .unix _ | .other _ => inferInstanceAs (Decidable False)

/-- The query for an address. -/
def queryFor (addr : SockAddr) : HostAddr :=
  ⟨addr, if IsMulticast addr then .broadcastQuery else .query⟩

/-- The octet is one with which the multicast addresses of IPv4 begin. -/
def InClassD (b : UInt8) : Prop := 224 ≤ b.toNat ∧ b.toNat ≤ 239

/-- The first and the last octet of an address are both in class D, or both not. -/
def EndsAlike (addr : Octets 4) : Prop :=
  InClassD (addr.1.headD 0) ↔ InClassD (addr.1.getLastD 0)

/-- The name is not `BROADCAST` and no address in hexadecimal digits. -/
def IsLookedUp (name : Str) : Prop :=
  name ≠ broadcastHostname ∧ ¬ (name.length = 8 ∧ (fromHex name).2 = false)

instance (b : UInt8) : Decidable (InClassD b) := inferInstanceAs (Decidable (_ ∧ _))
instance (addr : Octets 4) : Decidable (EndsAlike addr) := inferInstanceAs (Decidable (_ ↔ _))
instance (name : Str) : Decidable (IsLookedUp name) := inferInstanceAs (Decidable (_ ∧ _))

variable {order : ByteOrder} {m : Machine} {w : World} {name : Str} {db : List HostAddr}

/-- The test for IPv4 looks at the octet that the machine takes for the highest one. -/
lemma inMulticast_sAddr (addr : Octets 4) :
    inMulticast (sAddr order addr) = true ↔ InClassD (order.highest addr.1) := by
  have hlt : order.load addr.1 < 2 ^ 32 := by
    have hlt : order.load addr.1 < 256 ^ addr.1.length := ByteOrder.load_lt
    rwa [addr.2] at hlt
  have hdiv : order.load addr.1 / 2 ^ 28 = (order.highest addr.1).toNat / 16 := by
    rw [← ByteOrder.load_div (n := 3) addr.2, Nat.div_div_eq_div_mul]
    rfl
  have htest : order.load addr.1 &&& (2 ^ 4 - 1) <<< 28 = 14 <<< 28 ↔
      order.load addr.1 / 2 ^ 28 = 14 := ByteOrder.and_mask_eq_iff hlt
  have hvalue : (sAddr order addr).toNat = order.load addr.1 := by
    rw [sAddr, UInt32.toNat_ofNat', Nat.mod_eq_of_lt hlt]
  rw [inMulticast, decide_eq_true_iff, ← UInt32.toNat_inj, UInt32.toNat_and, hvalue]
  refine htest.trans ?_
  rw [hdiv, InClassD]
  omega

/-- The addresses of class D are those that begin with such an octet. -/
lemma isMulticast_inet {port : Octets 2} (addr : Octets 4) :
    IsMulticast (.inet port addr) ↔ InClassD (ByteOrder.big.highest addr.1) := by
  have hdiv : ByteOrder.big.load addr.1 / 256 ^ 3 = (ByteOrder.big.highest addr.1).toNat :=
    ByteOrder.load_div addr.2
  have hfirst : ByteOrder.big.load [224, 0, 0, 0] = 224 * 256 ^ 3 := rfl
  have hlast : ByteOrder.big.load [239, 255, 255, 255] = 240 * 256 ^ 3 - 1 := rfl
  rw [IsMulticast, hfirst, hlast, InClassD, ← hdiv]
  omega

/-- What the test says of the addresses. -/
lemma testsMulticast_iff (addr : SockAddr) :
    (testsMulticast order addr = true ↔ IsMulticast addr) ↔
      order = .big ∨ ∀ port octets, addr = .inet port octets → EndsAlike octets := by
  cases addr with
  | inet port octets =>
    rw [testsMulticast, inMulticast_sAddr, isMulticast_inet]
    cases order with
    | big => simp
    | little =>
      rw [ByteOrder.highest_big]
      change (InClassD (octets.1.getLastD 0) ↔ InClassD (octets.1.headD 0)) ↔ _
      simp [EndsAlike, iff_comm]
  | inet6 port octets scope => simp [testsMulticast, in6IsAddrMulticast, IsMulticast]
  | unspec => simp [testsMulticast, IsMulticast]
  | unix path => simp [testsMulticast, IsMulticast]
  | other family => simp [testsMulticast, IsMulticast]

/-! ### What is registered -/

lemma foldl_registerAddrinfo (answer : List SockAddr) :
    answer.foldl (registerAddrinfo order) db = db ++ (answer.filter IsInternet).map fun nai =>
      ⟨nai, if testsMulticast order nai then .broadcastQuery else .query⟩ := by
  induction answer generalizing db with
  | nil => exact (List.append_nil db).symm
  | cons nai answer ih =>
    rw [List.foldl_cons, ih, registerAddrinfo]
    by_cases hinternet : IsInternet nai
    · rw [if_pos hinternet, List.filter_cons_of_pos (by simpa using hinternet), List.map_cons]
      cases testsMulticast order nai <;> simp [registerHostaddr]
    · rw [if_neg hinternet, List.filter_cons_of_neg (by simpa using hinternet)]

lemma registerHostname_lookup (hname : IsLookedUp name) : registerHostname m w name db =
    db ++ ((w.getaddrinfo name).filter IsInternet).map fun nai =>
      ⟨nai, if testsMulticast m.order nai then .broadcastQuery else .query⟩ := by
  rw [registerHostname, if_neg hname.1, dif_neg hname.2, foldl_registerAddrinfo]

lemma exists_registerInterface (ifc : List Ifreq) :
    ∃ added, ifc.foldl registerInterface db = db ++ added ∧
      ∀ h ∈ added, netaddrFamily h.addr = .inet ∧ h.type = .broadcastQuery := by
  induction ifc generalizing db with
  | nil => exact ⟨[], (List.append_nil db).symm, List.forall_mem_nil _⟩
  | cons ifr ifc ih =>
    obtain ⟨one, hone, hkind⟩ : ∃ one, registerInterface db ifr = db ++ one ∧
        ∀ h ∈ one, netaddrFamily h.addr = .inet ∧ h.type = .broadcastQuery := by
      have hnone : ∃ one, db = db ++ one ∧
          ∀ h ∈ one, netaddrFamily h.addr = .inet ∧ h.type = .broadcastQuery :=
        ⟨[], (List.append_nil db).symm, List.forall_mem_nil _⟩
      unfold registerInterface
      split_ifs
      · exact hnone
      · split
        · exact hnone
        · split_ifs
          · split
            · exact hnone
            · exact ⟨_, rfl, by simp [netaddrFamily]⟩
          · exact hnone
    obtain ⟨added, hadded, hkinds⟩ := @ih (db ++ one)
    refine ⟨one ++ added, by rw [List.foldl_cons, hone, hadded, List.append_assoc], ?_⟩
    exact fun h hh => (List.mem_append.1 hh).elim (hkind h) (hkinds h)

/-- A name for which the resolver is not asked. -/
lemma exists_registerHostname (hname : ¬ IsLookedUp name) :
    ∃ added, registerHostname m w name db = db ++ added ∧
      ∀ h ∈ added, netaddrFamily h.addr = .inet ∧
        h.type = if name = broadcastHostname then .broadcastQuery else .query := by
  rw [registerHostname]
  by_cases hbroadcast : name = broadcastHostname
  · rw [if_pos hbroadcast, if_pos hbroadcast]
    cases m.ifconf with
    | none => exact ⟨[], (List.append_nil db).symm, List.forall_mem_nil _⟩
    | some ifc => exact exists_registerInterface ifc
  · have hhex : name.length = 8 ∧ (fromHex name).2 = false := by
      by_contra hhex
      exact hname ⟨hbroadcast, hhex⟩
    rw [if_neg hbroadcast, dif_pos hhex, if_neg hbroadcast]
    exact ⟨_, rfl, by simp [netaddrFamily]⟩

/-- A name for which it is asked. -/
lemma registerHostname_eq_iff (hname : IsLookedUp name) :
    registerHostname m w name db = db ++ ((w.getaddrinfo name).filter IsInternet).map queryFor ↔
      m.order = .big ∨ ∀ port octets, .inet port octets ∈ w.getaddrinfo name →
        EndsAlike octets := by
  have hkind (nai : SockAddr) :
      (⟨nai, if testsMulticast m.order nai then .broadcastQuery else .query⟩ : HostAddr) =
        queryFor nai ↔ (testsMulticast m.order nai = true ↔ IsMulticast nai) := by
    by_cases htests : testsMulticast m.order nai = true <;>
      by_cases hmulticast : IsMulticast nai <;> simp [queryFor, htests, hmulticast]
  rw [registerHostname_lookup hname, List.append_cancel_left_eq, List.map_inj_left]
  simp only [hkind, testsMulticast_iff]
  constructor
  · intro h
    by_cases hbig : m.order = .big
    · exact Or.inl hbig
    · refine Or.inr fun port octets hmem => ?_
      have hmem' : SockAddr.inet port octets ∈ (w.getaddrinfo name).filter IsInternet :=
        List.mem_filter.2 ⟨hmem, decide_eq_true (Or.inl rfl)⟩
      exact (h _ hmem').resolve_left hbig port octets rfl
  · rintro (hbig | halike) nai hnai
    · exact Or.inl hbig
    · exact Or.inr fun port octets heq => halike port octets (heq ▸ List.mem_of_mem_filter hnai)

/-- For every name on the command line and every answer of the resolver, on a machine of either
kind: each address of the answer is registered once and in order, for a `BROADCAST_QUERY` if it
is a multicast address and for a `QUERY` if not, if and only if the machine has the order of the
network, or each address of IPv4 in the answer begins and ends alike.  The resolver is not asked
for `BROADCAST`, which stands for the broadcast addresses of the interfaces, and for an address
in hexadecimal digits. -/
theorem registerHostname_kinds_iff (m : Machine) (w : World) (name : Str) (db : List HostAddr) :
    (IsLookedUp name →
      (registerHostname m w name db =
          db ++ ((w.getaddrinfo name).filter IsInternet).map queryFor ↔
        m.order = .big ∨ ∀ port octets, .inet port octets ∈ w.getaddrinfo name →
          EndsAlike octets)) ∧
    (¬ IsLookedUp name → ∃ added, (∀ w', registerHostname m w' name db = db ++ added) ∧
      ∀ h ∈ added, netaddrFamily h.addr = .inet ∧
        h.type = if name = broadcastHostname then .broadcastQuery else .query) := by
  refine ⟨registerHostname_eq_iff, fun hname => ?_⟩
  obtain ⟨added, hadded, hkinds⟩ := @exists_registerHostname m w name db hname
  refine ⟨added, fun w' => ?_, hkinds⟩
  rw [← hadded, registerHostname, registerHostname]
  by_cases hbroadcast : name = broadcastHostname
  · rw [if_pos hbroadcast, if_pos hbroadcast]
  · by_cases hhex : name.length = 8 ∧ (fromHex name).2 = false
    · rw [if_neg hbroadcast, if_neg hbroadcast, dif_pos hhex, dif_pos hhex]
    · exact absurd ⟨hbroadcast, hhex⟩ hname

/-- A resolver that knows a host and a group. -/
def World.multicast : World :=
  { World.silent with
    getaddrinfo := fun _ => [.inet xdmUdpPort ⟨[10, 0, 0, 224], rfl⟩,
      .inet xdmUdpPort ⟨[224, 0, 0, 1], rfl⟩] }

/-- On a little-endian machine the two kinds are the wrong way round. -/
theorem registerHostname_swapped : IsLookedUp "xdmhosts".toList ∧
    registerHostname ⟨.little, none⟩ World.multicast "xdmhosts".toList [] =
      [⟨.inet xdmUdpPort ⟨[10, 0, 0, 224], rfl⟩, .broadcastQuery⟩,
        ⟨.inet xdmUdpPort ⟨[224, 0, 0, 1], rfl⟩, .query⟩] ∧
    registerHostname ⟨.little, none⟩ World.multicast "xdmhosts".toList [] ≠
      ((World.multicast.getaddrinfo "xdmhosts".toList).filter IsInternet).map queryFor := by
  decide +kernel

/-- A host of IPv4 and a group of IPv6 are all right. -/
theorem registerHostname_kinds_dual :
    registerHostname ⟨.little, none⟩ { World.silent with
        getaddrinfo := fun _ => [.inet xdmUdpPort ⟨[10, 0, 0, 2], rfl⟩,
          .inet6 xdmUdpPort ⟨0xff :: List.replicate 15 1, rfl⟩ 0] } "xdmhosts".toList [] =
      [⟨.inet xdmUdpPort ⟨[10, 0, 0, 2], rfl⟩, .query⟩,
        ⟨.inet6 xdmUdpPort ⟨0xff :: List.replicate 15 1, rfl⟩ 0, .broadcastQuery⟩] := by
  refine (((registerHostname_kinds_iff _ _ _ _).1 (by decide)).2 (Or.inr ?_)).trans (by decide)
  intro port octets hmem
  obtain ⟨rfl, rfl⟩ : port = xdmUdpPort ∧ octets = ⟨[10, 0, 0, 2], rfl⟩ := by simpa using hmem
  decide

end Xdm
