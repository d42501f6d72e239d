/-
Interpretation of `XdmcpNetaddr` objects (`xdm/netaddr.c`).

Besides the functions of the source this file shows that `addressEqual` is an equivalence
and that `ConvertAddr` does not tell equal addresses apart: what the access database says
of a sender it says of every sender that compares equal.
-/
import Xdm.Base

namespace Xdm

/-- The socket protocol family of an address. -/
def netaddrFamily : SockAddr → AddrFamily
  | .unspec => .unspec
  | .unix _ => .unix
  | .inet _ _ => .inet
  | .inet6 _ _ _ => .inet6
  | .other n => .other n

/-- The port bytes, none if the address does not use TCP or UDP. -/
def netaddrPort : SockAddr → List UInt8
  | .inet port _ => port.1
  | .inet6 port _ _ => port.1
  | _ => []

/-- `IN6_IS_ADDR_V4MAPPED`. -/
def isV4Mapped (bs : List UInt8) : Bool :=
  bs.take 12 == [0, 0, 0, 0, 0, 0, 0, 0, 0, 0, 0xff, 0xff]

/-- The network address bytes; an IPv4-mapped IPv6 address counts as its IPv4 address. -/
def netaddrAddress : SockAddr → List UInt8
  | .unix path => path
  | .inet _ addr => addr.1
  | .inet6 _ addr _ => if isV4Mapped addr.1 then addr.1.drop 12 else addr.1
  | _ => []

/-- The X protocol family of an address and its bytes; `none` stands for the family `-1`. -/
def convertAddr (sa : SockAddr) : Option CARD16 × ARRAY8 :=
  let addr := netaddrAddress sa
  let family := match netaddrFamily sa with
    | .unspec => some familyLocal
    | .unix => some familyLocal
    | .inet => some familyInternet
    | .inet6 => if addr.length = 4 then some familyInternet else some familyInternet6
    | .other _ => none
  (family, addr)

def addressEqual (a1 a2 : Netaddr) : Bool :=
  if a1.len ≠ a2.len then false
  else if netaddrFamily a1.sa ≠ netaddrFamily a2.sa then false
  else if netaddrPort a1.sa ≠ netaddrPort a2.sa then false
  else if netaddrAddress a1.sa ≠ netaddrAddress a2.sa then false
  else true

/-! ### Equal addresses -/

lemma addressEqual_iff {a1 a2 : Netaddr} : addressEqual a1 a2 = true ↔
    a1.len = a2.len ∧ netaddrFamily a1.sa = netaddrFamily a2.sa ∧
      netaddrPort a1.sa = netaddrPort a2.sa ∧ netaddrAddress a1.sa = netaddrAddress a2.sa := by
  unfold addressEqual
  split_ifs with h1 h2 h3 h4 <;> simp_all

@[simp] lemma addressEqual_refl (a : Netaddr) : addressEqual a a = true :=
  addressEqual_iff.2 ⟨rfl, rfl, rfl, rfl⟩

lemma addressEqual_symm {a b : Netaddr} (h : addressEqual a b = true) :
    addressEqual b a = true := by
  obtain ⟨h1, h2, h3, h4⟩ := addressEqual_iff.1 h
  exact addressEqual_iff.2 ⟨h1.symm, h2.symm, h3.symm, h4.symm⟩

lemma addressEqual_trans {a b c : Netaddr} (h : addressEqual a b = true)
    (h' : addressEqual b c = true) : addressEqual a c = true := by
  obtain ⟨h1, h2, h3, h4⟩ := addressEqual_iff.1 h
  obtain ⟨h1', h2', h3', h4'⟩ := addressEqual_iff.1 h'
  exact addressEqual_iff.2 ⟨h1.trans h1', h2.trans h2', h3.trans h3', h4.trans h4'⟩

/-- `ConvertAddr` gives the same family and bytes for equal addresses. -/
lemma convertAddr_eq_of_addressEqual {a b : Netaddr} (h : addressEqual a b = true) :
    convertAddr a.sa = convertAddr b.sa := by
  obtain ⟨-, hfam, -, haddr⟩ := addressEqual_iff.1 h
  simp only [convertAddr, hfam, haddr]

end Xdm
