/-
# The entries of a display in an authority file

The entries that `SetUserAuthorization` and `RemoveUserAuthorization` generate for a display
(`xdm/auth.c`): one for each authorization and each address of the display.  The source writes
them through one `Xauth` for each authorization, which it changes as it goes, and remembers what
it has written in the list `addrs`.
-/
import Xdm.Netaddr
import Xdm.State

namespace Xdm.UserAuth

/-! ### Data -/

/-- An `Xauth`, which is also an entry of an authority file. -/
structure Xauth where
  family : CARD16
  address : ARRAY8
  number : ARRAY8
  name : ARRAY8
  data : ARRAY8
deriving DecidableEq

/-- A `struct addrList`, without its link. -/
structure AddrList where
  family : CARD16
  address : ARRAY8
  number : ARRAY8
  name : ARRAY8
deriving DecidableEq

/-- What an entry is for: all of it but the data. -/
def Xauth.key (auth : Xauth) : AddrList := ⟨auth.family, auth.address, auth.number, auth.name⟩

/-- The address of a remote display.  It is the sender of an XDMCP packet, so that `ConvertAddr`
knows its family. -/
structure Peer where
  sa : SockAddr
  len : Nat
  known : (convertAddr sa).1.isSome = true

/-- The fields of a `struct display` that are read here. -/
structure Dpy where
  name : Str
  location : Location
  peer : Option Peer
  userAuthDir : Str
  authorizations : Option (List Xauth)

def mitMagicCookie1 : ARRAY8 := bytesOf "MIT-MAGIC-COOKIE-1".toList

def mitKerberos5 : ARRAY8 := bytesOf "MIT-KERBEROS-5".toList

def xdmAuthorization1 : ARRAY8 := bytesOf "XDM-AUTHORIZATION-1".toList

/-- The static variables `addrs` and `doWrite`, and what has been written to the new file. -/
structure Output where
  addrs : List AddrList
  doWrite : Bool
  new : List Xauth

/-! ### `saveEntry`, `checkEntry` and `writeAddr` -/

/-- Compare the first `len` bytes. -/
def binaryEqual (a b : ARRAY8) (len : Nat) : Bool := a.take len = b.take len

def saveEntry (out : Output) (auth : Xauth) : Output := { out with addrs := auth.key :: out.addrs }

def checkEntry (out : Output) (auth : Xauth) : Bool :=
  out.addrs.any fun a =>
    a.family = auth.family &&
    a.address.length = auth.address.length &&
    binaryEqual a.address auth.address auth.address.length &&
    a.number.length = auth.number.length &&
    binaryEqual a.number auth.number auth.number.length &&
    a.name.length = auth.name.length &&
    binaryEqual a.name auth.name auth.name.length

def writeAuth (out : Output) (auth : Xauth) : Output :=
  if out.doWrite then { out with new := out.new ++ [auth] } else out

def writeAddr (family : CARD16) (addr : ARRAY8) (out : Output) (auth : Xauth) : Output × Xauth :=
  let auth := { auth with family := family, address := addr }
  (saveEntry (writeAuth out auth) auth, auth)

/-! ### The addresses of a display -/

def defineLocal (w : World) (out : Output) (auth : Xauth) : Output × Xauth :=
  writeAddr familyLocal (bytesOf (w.localHostname.take 99)) out auth

/-- `IN6_IS_ADDR_LOOPBACK`. -/
def isLoopback6 (addr : ARRAY8) : Bool := addr = List.replicate 15 0 ++ [1]

/-- The loop of `DefineSelf` skips this address for an authorization of this name. -/
def skipsAddress (family : CARD16) (addr name : ARRAY8) : Bool :=
  family = familyLocal ||
  (family = familyInternet && addr.length = 4 && addr.head? = some 127) ||
  (family = familyInternet6 && (isLoopback6 addr || name = xdmAuthorization1))

def defineSelfLoop (out : Output) (auth : Xauth) : List SockAddr → Output × Xauth
  | [] => (out, auth)
  | ifr :: ifap =>
    match (convertAddr ifr).1 with
    | none => defineSelfLoop out auth ifap
    | some family =>
      let addr := (convertAddr ifr).2
      if skipsAddress family addr auth.name then defineSelfLoop out auth ifap
      else
        let written := writeAddr family addr out auth
        defineSelfLoop written.1 written.2 ifap

def defineSelf (w : World) (out : Output) (auth : Xauth) : Output × Xauth :=
  defineSelfLoop out auth w.getifaddrs

/-- The number of a display in its name: what is between the last colon and a dot. -/
def displayNumber (name : Str) : Option ARRAY8 :=
  if ':' ∈ name then
    some (bytesOf ((name.reverse.takeWhile (· ≠ ':')).reverse.takeWhile (· ≠ '.')))
  else none

/-- The length of the number is an `unsigned short`. -/
def setAuthNumber (auth : Xauth) (name : Str) : Xauth :=
  match displayNumber name with
  | some number => { auth with number := number.take (number.length % 65536) }
  | none => auth

def writeLocalAuth (w : World) (name : Str) (out : Output) (auth : Xauth) : Output × Xauth :=
  let written := defineSelf w out (setAuthNumber auth name)
  defineLocal w written.1 written.2

def writeRemoteAuth (w : World) (peer : Option Peer) (name : Str) (out : Output) (auth : Xauth) :
    Output × Xauth :=
  match peer with
  | none => (out, auth)
  | some peer =>
    if peer.len < 2 then (out, auth)
    else
      let auth := setAuthNumber auth name
      let family := (convertAddr peer.sa).1.get peer.known
      if family ≠ familyLocal then writeAddr family (convertAddr peer.sa).2 out auth
      else writeLocalAuth w name out auth

/-- The two calls that both loops over the authorizations choose from. -/
def writeDisplayAuth (w : World) (d : Dpy) (out : Output) (auth : Xauth) : Output × Xauth :=
  if d.location = .localHost then writeLocalAuth w d.name out auth
  else writeRemoteAuth w d.peer d.name out auth

/-! ### The loops over the authorizations -/

/-- Write the first `MIT-MAGIC-COOKIE-1` authorization.  Returns its index with the
authorizations. -/
def writeMagicCookie (w : World) (d : Dpy) (out : Output) :
    List Xauth → Output × List Xauth × Option Nat
  | [] => (out, [], none)
  | auth :: auths =>
    if auth.name = mitMagicCookie1 then
      let written := writeDisplayAuth w d out auth
      (written.1, written.2 :: auths, some 0)
    else
      let rest := writeMagicCookie w d out auths
      (rest.1, auth :: rest.2.1, rest.2.2.map (· + 1))

/-- Write the other authorizations, from the index `i` on.  Only the entry of a Kerberos
authorization is without its data. -/
def writeOthers (w : World) (d : Dpy) (magicCookie : Option Nat) (i : Nat) (out : Output) :
    List Xauth → Output × List Xauth
  | [] => (out, [])
  | auth :: auths =>
    if some i ≠ magicCookie then
      let data := auth.data
      let auth := if auth.name = mitKerberos5 then { auth with data := [] } else auth
      let written := writeDisplayAuth w d out auth
      let rest := writeOthers w d magicCookie (i + 1) written.1 auths
      (rest.1, { written.2 with data := data } :: rest.2)
    else
      let rest := writeOthers w d magicCookie (i + 1) out auths
      (rest.1, auth :: rest.2)

/-- The loop of `RemoveUserAuthorization`, with `doWrite` off. -/
def writeAll (w : World) (d : Dpy) (out : Output) : List Xauth → Output × List Xauth
  | [] => (out, [])
  | auth :: auths =>
    let written := writeDisplayAuth w d out auth
    let rest := writeAll w d written.1 auths
    (rest.1, written.2 :: rest.2)

/-- The loop over the entries of the old file. -/
def copyEntries (out : Output) : List Xauth → Output
  | [] => out
  | entry :: old => copyEntries (if checkEntry out entry then out else writeAuth out entry) old

/-- What `SetUserAuthorization` writes to the new file, given the entries of the old one. -/
def setEntries (w : World) (d : Dpy) (auths old : List Xauth) : Output × List Xauth :=
  let cookie := writeMagicCookie w d ⟨[], true, []⟩ auths
  let others := writeOthers w d cookie.2.2 0 cookie.1 cookie.2.1
  (copyEntries others.1 old, others.2)

/-- What `RemoveUserAuthorization` writes to the new file. -/
def removeEntries (w : World) (d : Dpy) (auths old : List Xauth) : Output × List Xauth :=
  let all := writeAll w d ⟨[], false, []⟩ auths
  (copyEntries { all.1 with doWrite := true } old, all.2)

/-! ### What has been written -/

variable {w : World} {d : Dpy} {out : Output} {auth auth' e : Xauth} {es es' auths : List Xauth}

/-- These entries have been written and saved, one after the other. -/
def Output.write (out : Output) (es : List Xauth) : Output :=
  es.foldl (fun out e => saveEntry (writeAuth out e) e) out

@[simp] lemma write_nil (out : Output) : out.write [] = out := rfl

lemma write_write (out : Output) (es es' : List Xauth) :
    (out.write es).write es' = out.write (es ++ es') := by
  simp only [Output.write, List.foldl_append]

@[simp] lemma writeAuth_addrs (out : Output) (e : Xauth) : (writeAuth out e).addrs = out.addrs := by
  unfold writeAuth
  split_ifs <;> rfl

@[simp] lemma writeAuth_doWrite (out : Output) (e : Xauth) :
    (writeAuth out e).doWrite = out.doWrite := by
  unfold writeAuth
  split_ifs <;> rfl

lemma writeAuth_new (out : Output) (e : Xauth) :
    (writeAuth out e).new = out.new ++ if out.doWrite then [e] else [] := by
  unfold writeAuth
  split_ifs
  · rfl
  · exact (List.append_nil _).symm

@[simp] lemma write_doWrite (out : Output) (es : List Xauth) :
    (out.write es).doWrite = out.doWrite := by
  induction es generalizing out with
  | nil => rfl
  | cons e es ih => exact (ih _).trans (writeAuth_doWrite out e)

lemma write_new (out : Output) (es : List Xauth) :
    (out.write es).new = out.new ++ if out.doWrite then es else [] := by
  induction es generalizing out with
  | nil => simp
  | cons e es ih =>
    change (Output.write (saveEntry (writeAuth out e) e) es).new = _
    rw [ih]
    simp only [saveEntry, writeAuth_new, writeAuth_doWrite]
    split_ifs <;> simp

lemma mem_write_addrs {a : AddrList} :
    a ∈ (out.write es).addrs ↔ a ∈ out.addrs ∨ ∃ e ∈ es, e.key = a := by
  induction es generalizing out with
  | nil => simp
  | cons e es ih =>
    change a ∈ (Output.write (saveEntry (writeAuth out e) e) es).addrs ↔ _
    rw [ih]
    simp only [saveEntry, writeAuth_addrs, List.mem_cons, exists_eq_or_imp]
    constructor
    · rintro ((rfl | h) | h)
      · exact Or.inr (Or.inl rfl)
      · exact Or.inl h
      · exact Or.inr (Or.inr h)
    · rintro (h | rfl | h)
      · exact Or.inl (Or.inr h)
      · exact Or.inl (Or.inl rfl)
      · exact Or.inr h

/-- Comparing field by field is comparing keys. -/
lemma checkEntry_iff : checkEntry out auth = true ↔ auth.key ∈ out.addrs := by
  have hequal : ∀ a b : ARRAY8, a.length = b.length →
      (binaryEqual a b b.length = true ↔ a = b) := by
    intro a b hlength
    simp only [binaryEqual, decide_eq_true_eq]
    rw [List.take_of_length_le (Nat.le_of_eq hlength), List.take_of_length_le (Nat.le_refl _)]
  unfold checkEntry
  rw [List.any_eq_true]
  constructor
  · rintro ⟨a, ha, htest⟩
    simp only [Bool.and_eq_true, decide_eq_true_eq] at htest
    obtain ⟨⟨⟨⟨⟨⟨hfamily, haddress⟩, haddr⟩, hnumber⟩, hnum⟩, hname⟩, hnm⟩ := htest
    have hkey : a = auth.key := by
      cases a
      simp only [Xauth.key, AddrList.mk.injEq]
      exact ⟨hfamily, (hequal _ _ haddress).1 haddr, (hequal _ _ hnumber).1 hnum,
        (hequal _ _ hname).1 hnm⟩
    exact hkey ▸ ha
  · intro ha
    exact ⟨auth.key, ha, by simp [Xauth.key, binaryEqual]⟩

/-! ### The entries of an authorization -/

/-- The entry of an authorization for an address. -/
def Xauth.entryAt (auth : Xauth) (a : CARD16 × ARRAY8) : Xauth :=
  { auth with family := a.1, address := a.2 }

/-- The address that `DefineSelf` writes an entry for, if it does. -/
def selfAddress (name : ARRAY8) (ifr : SockAddr) : Option (CARD16 × ARRAY8) :=
  (convertAddr ifr).1.bind fun family =>
    if skipsAddress family (convertAddr ifr).2 name then none
    else some (family, (convertAddr ifr).2)

/-- The addresses of a local display. -/
def localAddresses (w : World) (name : ARRAY8) : List (CARD16 × ARRAY8) :=
  w.getifaddrs.filterMap (selfAddress name) ++ [(familyLocal, bytesOf (w.localHostname.take 99))]

/-- The addresses of a display, for an authorization of this name. -/
def Dpy.addresses (w : World) (d : Dpy) (name : ARRAY8) : List (CARD16 × ARRAY8) :=
  if d.location = .localHost then localAddresses w name
  else match d.peer with
    | none => []
    | some peer =>
      if peer.len < 2 then []
      else if (convertAddr peer.sa).1.get peer.known ≠ familyLocal then
        [((convertAddr peer.sa).1.get peer.known, (convertAddr peer.sa).2)]
      else localAddresses w name

/-- The entries of a display for one authorization. -/
def Dpy.entries (w : World) (d : Dpy) (auth : Xauth) : List Xauth :=
  (d.addresses w auth.name).map (setAuthNumber auth d.name).entryAt

/-- The `Xauth` has been used for a display of this name: it may have another address, and the
number of the display. -/
structure Xauth.Used (dpyName : Str) (auth auth' : Xauth) : Prop where
  name : auth'.name = auth.name
  data : auth'.data = auth.data
  number : (setAuthNumber auth' dpyName).number = (setAuthNumber auth dpyName).number

namespace Xauth.Used

variable {dpyName : Str} {auth'' : Xauth}

lemma refl (dpyName : Str) (auth : Xauth) : auth.Used dpyName auth := ⟨rfl, rfl, rfl⟩

lemma trans (h : auth.Used dpyName auth') (h' : auth'.Used dpyName auth'') :
    auth.Used dpyName auth'' :=
  ⟨h'.name.trans h.name, h'.data.trans h.data, h'.number.trans h.number⟩

lemma moved (dpyName : Str) (auth : Xauth) (a : CARD16 × ARRAY8) :
    auth.Used dpyName (auth.entryAt a) := by
  refine ⟨rfl, rfl, ?_⟩
  unfold setAuthNumber
  split <;> rfl

lemma numbered (dpyName : Str) (auth : Xauth) : auth.Used dpyName (setAuthNumber auth dpyName) := by
  unfold setAuthNumber
  cases hnumber : displayNumber dpyName with
  | none =>
    refine ⟨rfl, rfl, ?_⟩
    simp only [setAuthNumber, hnumber]
  | some number =>
    refine ⟨rfl, rfl, ?_⟩
    simp only [setAuthNumber, hnumber]

/-- The entries do not depend on what an earlier use has left. -/
lemma entries (h : auth.Used d.name auth') : d.entries w auth' = d.entries w auth := by
  unfold Dpy.entries
  rw [h.name]
  refine List.map_congr_left fun a _ => ?_
  have hname : ∀ x : Xauth, (setAuthNumber x d.name).name = x.name := fun x =>
    (numbered d.name x).name
  have hdata : ∀ x : Xauth, (setAuthNumber x d.name).data = x.data := fun x =>
    (numbered d.name x).data
  simp only [entryAt, h.number, hname, hdata, h.name, h.data]

end Xauth.Used

/-- An `Xauth` with another address at most. -/
def Xauth.Moved (auth auth' : Xauth) : Prop := ∀ a, auth'.entryAt a = auth.entryAt a

lemma Xauth.Moved.used (h : auth.Moved auth') (dpyName : Str) : auth.Used dpyName auth' := by
  have hsame := h (0, [])
  simp only [entryAt, Xauth.mk.injEq, true_and] at hsame
  obtain ⟨hnumber, hname, hdata⟩ := hsame
  refine ⟨hname, hdata, ?_⟩
  unfold setAuthNumber
  split
  · rfl
  · exact hnumber

/-- The loop of `DefineSelf` writes entries for the addresses it does not skip. -/
lemma defineSelfLoop_spec (h : auth.Moved auth') (ifap : List SockAddr) (out : Output) :
    (defineSelfLoop out auth' ifap).1 =
        out.write ((ifap.filterMap (selfAddress auth.name)).map auth.entryAt) ∧
      auth.Moved (defineSelfLoop out auth' ifap).2 := by
  have hname : ∀ {x : Xauth}, auth.Moved x → x.name = auth.name := fun hx => (hx.used []).name
  induction ifap generalizing auth' out with
  | nil => exact ⟨rfl, h⟩
  | cons ifr ifap ih =>
    unfold defineSelfLoop
    rw [List.filterMap_cons, selfAddress]
    cases hfamily : (convertAddr ifr).1 with
    | none => exact ih h out
    | some family =>
      simp only [Option.bind_some, hname h]
      split_ifs with hskip
      · exact ih h out
      · have hwritten : auth.Moved (writeAddr family (convertAddr ifr).2 out auth').2 :=
          fun a => h a
        obtain ⟨hout, hmoved⟩ := ih hwritten (writeAddr family (convertAddr ifr).2 out auth').1
        refine ⟨?_, hmoved⟩
        rw [hout, List.map_cons, ← h (family, (convertAddr ifr).2)]
        rfl

lemma writeLocalAuth_spec (w : World) (name : Str) (out : Output) (auth : Xauth) :
    (writeLocalAuth w name out auth).1 =
        out.write ((localAddresses w auth.name).map (setAuthNumber auth name).entryAt) ∧
      auth.Used name (writeLocalAuth w name out auth).2 := by
  have hnumbered := Xauth.Used.numbered name auth
  have hsame : (setAuthNumber auth name).Moved (setAuthNumber auth name) := fun _ => rfl
  obtain ⟨hout, hmoved⟩ := defineSelfLoop_spec hsame w.getifaddrs out
  have hlast : (setAuthNumber auth name).Moved (writeLocalAuth w name out auth).2 := fun a =>
    hmoved a
  refine ⟨?_, hnumbered.trans (hlast.used name)⟩
  unfold writeLocalAuth defineLocal defineSelf
  rw [localAddresses, List.map_append, ← write_write, ← hnumbered.name, ← hout, List.map_singleton,
    ← hmoved]
  rfl

lemma setAuthNumber_idem (auth : Xauth) (name : Str) :
    setAuthNumber (setAuthNumber auth name) name = setAuthNumber auth name := by
  unfold setAuthNumber
  cases displayNumber name <;> rfl

/-- Writing for a display writes its entries, and uses the authorization. -/
theorem writeDisplayAuth_spec (w : World) (d : Dpy) (out : Output) (auth : Xauth) :
    (writeDisplayAuth w d out auth).1 = out.write (d.entries w auth) ∧
      auth.Used d.name (writeDisplayAuth w d out auth).2 := by
  unfold writeDisplayAuth Dpy.entries Dpy.addresses
  split_ifs with hlocal
  · exact writeLocalAuth_spec w d.name out auth
  · unfold writeRemoteAuth
    cases d.peer with
    | none => exact ⟨rfl, .refl d.name auth⟩
    | some peer =>
      dsimp only
      split_ifs with hlen hfamily
      · exact ⟨rfl, .refl d.name auth⟩
      · exact ⟨rfl, (Xauth.Used.numbered d.name auth).trans (.moved d.name
          (setAuthNumber auth d.name) (_, (convertAddr peer.sa).2))⟩
      · obtain ⟨hout, hused⟩ := writeLocalAuth_spec w d.name out (setAuthNumber auth d.name)
        rw [setAuthNumber_idem, (Xauth.Used.numbered d.name auth).name] at hout
        exact ⟨hout, (Xauth.Used.numbered d.name auth).trans hused⟩

/-! ### The entries of a display -/

/-- What is written for an authorization: a Kerberos one is written without its data. -/
def Xauth.withoutCache (auth : Xauth) : Xauth :=
  if auth.name = mitKerberos5 then { auth with data := [] } else auth

def Xauth.isMagicCookie (auth : Xauth) : Bool := auth.name = mitMagicCookie1

/-- The authorizations with the first `MIT-MAGIC-COOKIE-1` before the others. -/
def magicCookieFirst (auths : List Xauth) : List Xauth :=
  (auths.find? Xauth.isMagicCookie).toList ++ auths.eraseP Xauth.isMagicCookie

/-- The entries of a display with these authorizations. -/
def Dpy.allEntries (w : World) (d : Dpy) (auths : List Xauth) : List Xauth :=
  (magicCookieFirst auths).flatMap fun auth => d.entries w auth.withoutCache

lemma setAuthNumber_data (auth : Xauth) (data : ARRAY8) (name : Str) :
    (setAuthNumber { auth with data := data } name).number = (setAuthNumber auth name).number := by
  unfold setAuthNumber
  split <;> rfl

lemma Xauth.Used.withoutCache {dpyName : Str} (h : auth.Used dpyName auth') :
    auth.withoutCache.Used dpyName auth'.withoutCache := by
  unfold Xauth.withoutCache
  by_cases hkerberos : auth.name = mitKerberos5
  · rw [if_pos hkerberos, if_pos (h.name.trans hkerberos)]
    exact ⟨h.name, rfl, (setAuthNumber_data ..).trans (h.number.trans (setAuthNumber_data ..).symm)⟩
  · rw [if_neg hkerberos, if_neg fun heq => hkerberos (h.name.symm.trans heq)]
    exact h

/-- Using the authorization without its data, and putting that back. -/
lemma Xauth.Used.restore {dpyName : Str} (h : auth.withoutCache.Used dpyName auth') :
    auth.Used dpyName { auth' with data := auth.data } := by
  have hname : auth.withoutCache.name = auth.name := by
    unfold Xauth.withoutCache
    split_ifs <;> rfl
  refine ⟨h.name.trans hname, rfl, (setAuthNumber_data ..).trans (h.number.trans ?_)⟩
  unfold Xauth.withoutCache
  split_ifs
  · exact setAuthNumber_data ..
  · rfl

lemma isMagicCookie_of_used {dpyName : Str} (h : auth.Used dpyName auth') :
    auth'.isMagicCookie = auth.isMagicCookie := by
  unfold Xauth.isMagicCookie
  rw [h.name]

/-- The authorizations have only been used. -/
abbrev AllUsed (dpyName : Str) (auths auths' : List Xauth) : Prop :=
  List.Forall₂ (Xauth.Used dpyName) auths auths'

lemma allUsed_refl (dpyName : Str) (auths : List Xauth) : AllUsed dpyName auths auths :=
  List.forall₂_same.2 fun auth _ => .refl dpyName auth

lemma writeMagicCookie_spec (w : World) (d : Dpy) (out : Output) (auths : List Xauth) :
    (writeMagicCookie w d out auths).1 =
        out.write ((auths.find? Xauth.isMagicCookie).toList.flatMap (d.entries w)) ∧
      AllUsed d.name auths (writeMagicCookie w d out auths).2.1 ∧
      (writeMagicCookie w d out auths).2.2 = auths.findIdx? Xauth.isMagicCookie := by
  induction auths with
  | nil => exact ⟨rfl, .nil, rfl⟩
  | cons auth auths ih =>
    unfold writeMagicCookie
    rw [List.find?_cons, List.findIdx?_cons]
    by_cases hmagic : auth.name = mitMagicCookie1
    · have htest : auth.isMagicCookie = true := decide_eq_true hmagic
      obtain ⟨hout, hused⟩ := writeDisplayAuth_spec w d out auth
      rw [if_pos hmagic, htest]
      refine ⟨?_, .cons hused (allUsed_refl d.name auths), rfl⟩
      simpa using hout
    · have htest : auth.isMagicCookie = false := decide_eq_false hmagic
      obtain ⟨hout, hused, hindex⟩ := ih
      rw [if_neg hmagic, htest]
      refine ⟨hout, .cons (.refl d.name auth) hused, ?_⟩
      simp only [hindex, Bool.false_eq_true, if_false]

/-- The loop over the other authorizations, once it has passed the magic cookie. -/
lemma writeOthers_after {magicCookie : Option Nat} {i : Nat}
    (hpast : ∀ j, magicCookie = some j → j < i) (out : Output) (auths : List Xauth) :
    (writeOthers w d magicCookie i out auths).1 =
        out.write (auths.flatMap fun auth => d.entries w auth.withoutCache) ∧
      AllUsed d.name auths (writeOthers w d magicCookie i out auths).2 := by
  induction auths generalizing i out with
  | nil => exact ⟨rfl, .nil⟩
  | cons auth auths ih =>
    have hne : some i ≠ magicCookie := fun heq => Nat.lt_irrefl _ (hpast i heq.symm)
    obtain ⟨hout, hused⟩ := writeDisplayAuth_spec w d out auth.withoutCache
    obtain ⟨hrest, hrestused⟩ := ih (i := i + 1) (fun j hj => Nat.lt_succ_of_lt (hpast j hj))
      (writeDisplayAuth w d out auth.withoutCache).1
    unfold writeOthers
    rw [if_pos hne, List.flatMap_cons, ← write_write, ← hout]
    exact ⟨hrest, .cons hused.restore hrestused⟩

/-- The loop over the other authorizations. -/
lemma writeOthers_spec (w : World) (d : Dpy) (out : Output) (auths : List Xauth) (i : Nat) :
    (writeOthers w d ((auths.findIdx? Xauth.isMagicCookie).map (· + i)) i out auths).1 =
        out.write ((auths.eraseP Xauth.isMagicCookie).flatMap fun auth =>
          d.entries w auth.withoutCache) ∧
      AllUsed d.name auths
        (writeOthers w d ((auths.findIdx? Xauth.isMagicCookie).map (· + i)) i out auths).2 := by
  induction auths generalizing i out with
  | nil => exact ⟨rfl, .nil⟩
  | cons auth auths ih =>
    rw [List.findIdx?_cons]
    by_cases hmagic : auth.isMagicCookie = true
    · rw [if_pos hmagic, List.eraseP_cons_of_pos hmagic]
      unfold writeOthers
      rw [if_neg (by simp)]
      have hpast : ∀ j, some (0 + i) = some j → j < i + 1 := by simp
      obtain ⟨hout, hused⟩ := writeOthers_after (w := w) (d := d) hpast out auths
      exact ⟨hout, .cons (.refl d.name auth) hused⟩
    · have hindex : (Option.map (· + 1) (auths.findIdx? Xauth.isMagicCookie)).map (· + i) =
          (auths.findIdx? Xauth.isMagicCookie).map (· + (i + 1)) := by
        rw [Option.map_map]
        congr 1
        funext j
        simp only [Function.comp_apply]
        omega
      have hne : some i ≠ (auths.findIdx? Xauth.isMagicCookie).map (· + (i + 1)) := by
        cases auths.findIdx? Xauth.isMagicCookie with
        | none => simp
        | some j =>
          intro heq
          have hindex : i = j + (i + 1) := Option.some.inj heq
          omega
      obtain ⟨hout, hused⟩ := writeDisplayAuth_spec w d out auth.withoutCache
      obtain ⟨hrest, hrestused⟩ := ih (writeDisplayAuth w d out auth.withoutCache).1 (i + 1)
      rw [if_neg hmagic, hindex, List.eraseP_cons_of_neg hmagic, List.flatMap_cons, ← write_write,
        ← hout]
      unfold writeOthers
      rw [if_pos hne]
      exact ⟨hrest, .cons hused.restore hrestused⟩

lemma writeAll_spec (w : World) (d : Dpy) (out : Output) (auths : List Xauth) :
    (writeAll w d out auths).1 = out.write (auths.flatMap (d.entries w)) := by
  induction auths generalizing out with
  | nil => rfl
  | cons auth auths ih =>
    unfold writeAll
    rw [ih, (writeDisplayAuth_spec w d out auth).1, write_write, List.flatMap_cons]

/-- The old entries that have not been saved are written after what is there. -/
lemma copyEntries_new (out : Output) (old : List Xauth) : (copyEntries out old).new =
    out.new ++ if out.doWrite then old.filter fun e => !checkEntry out e else [] := by
  induction old generalizing out with
  | nil => simp [copyEntries]
  | cons e old ih =>
    have hsame : ∀ x, checkEntry (writeAuth out e) x = checkEntry out x := fun x => by
      simp only [checkEntry, writeAuth_addrs]
    unfold copyEntries
    rw [ih, List.filter_cons]
    cases hcheck : checkEntry out e with
    | true => simp only [if_true, Bool.not_true, Bool.false_eq_true, if_false]
    | false =>
      simp only [Bool.false_eq_true, if_false, writeAuth_new, writeAuth_doWrite, hsame,
        Bool.not_false, if_true]
      split_ifs <;> simp

/-- An entry is one of the display's: it has the key of one that is written. -/
def Dpy.Owns (w : World) (d : Dpy) (auths : List Xauth) (e : Xauth) : Prop :=
  ∃ x ∈ d.allEntries w auths, x.key = e.key

instance (w : World) (d : Dpy) (auths : List Xauth) (e : Xauth) : Decidable (d.Owns w auths e) :=
  inferInstanceAs (Decidable (∃ x ∈ d.allEntries w auths, x.key = e.key))

/-- The entries that are left alone. -/
def Dpy.foreign (w : World) (d : Dpy) (auths old : List Xauth) : List Xauth :=
  old.filter fun e => ¬ d.Owns w auths e

/-- The data make no difference to the keys. -/
lemma key_withoutCache (w : World) (d : Dpy) (auth : Xauth) :
    (d.entries w auth.withoutCache).map Xauth.key = (d.entries w auth).map Xauth.key := by
  unfold Xauth.withoutCache
  split_ifs
  · unfold Dpy.entries
    rw [List.map_map, List.map_map]
    refine List.map_congr_left fun a _ => ?_
    unfold setAuthNumber
    split <;> rfl
  · rfl

lemma mem_magicCookieFirst : auth ∈ magicCookieFirst auths ↔ auth ∈ auths := by
  unfold magicCookieFirst
  induction auths with
  | nil => rfl
  | cons a auths ih =>
    rw [List.find?_cons]
    cases hmagic : a.isMagicCookie with
    | true => rw [List.eraseP_cons_of_pos hmagic]; simp
    | false =>
      rw [List.eraseP_cons_of_neg (by simp [hmagic]), List.mem_append, List.mem_cons,
        List.mem_cons, ← ih, List.mem_append]
      tauto

/-- The order of the authorizations makes no difference either. -/
lemma owns_iff : d.Owns w auths e ↔ ∃ auth ∈ auths, e.key ∈ (d.entries w auth).map Xauth.key := by
  unfold Dpy.Owns Dpy.allEntries
  constructor
  · rintro ⟨x, hx, hkey⟩
    obtain ⟨auth, hauth, hx⟩ := List.mem_flatMap.1 hx
    refine ⟨auth, mem_magicCookieFirst.1 hauth, ?_⟩
    rw [← key_withoutCache, ← hkey]
    exact List.mem_map_of_mem hx
  · rintro ⟨auth, hauth, hkey⟩
    rw [← key_withoutCache] at hkey
    obtain ⟨x, hx, hkey⟩ := List.mem_map.1 hkey
    exact ⟨x, List.mem_flatMap.2 ⟨auth, mem_magicCookieFirst.2 hauth, hx⟩, hkey⟩

lemma AllUsed.entries (h : AllUsed d.name auths es) (p : Xauth → Xauth)
    (hp : ∀ {x y : Xauth}, x.Used d.name y → (p x).Used d.name (p y)) :
    es.flatMap (fun auth => d.entries w (p auth)) =
      auths.flatMap fun auth => d.entries w (p auth) := by
  induction h with
  | nil => rfl
  | cons hused _ ih => rw [List.flatMap_cons, List.flatMap_cons, (hp hused).entries, ih]

lemma AllUsed.eraseP {dpyName : Str} (h : AllUsed dpyName auths es) :
    AllUsed dpyName (auths.eraseP Xauth.isMagicCookie) (es.eraseP Xauth.isMagicCookie) ∧
      es.findIdx? Xauth.isMagicCookie = auths.findIdx? Xauth.isMagicCookie := by
  induction h with
  | nil => exact ⟨.nil, rfl⟩
  | @cons auth auth' auths es hused hrest ih =>
    have hmagic := isMagicCookie_of_used hused
    rw [List.findIdx?_cons, List.findIdx?_cons, hmagic, ih.2]
    refine ⟨?_, rfl⟩
    cases htest : auth.isMagicCookie with
    | true =>
      rw [List.eraseP_cons_of_pos htest, List.eraseP_cons_of_pos (hmagic.trans htest)]
      exact hrest
    | false =>
      rw [List.eraseP_cons_of_neg (by simp [htest]),
        List.eraseP_cons_of_neg (by simp [hmagic, htest])]
      exact .cons hused ih.1

lemma AllUsed.trans {dpyName : Str} (h : AllUsed dpyName auths es)
    (h' : AllUsed dpyName es es') : AllUsed dpyName auths es' := by
  induction h generalizing es' with
  | nil => exact h'
  | cons hused _ ih =>
    cases h' with
    | cons hused' hrest => exact .cons (hused.trans hused') (ih hrest)

/-- The entries that have not been saved, of those of an old file. -/
lemma filter_checkEntry {P : Xauth → Prop} [DecidablePred P]
    (hP : ∀ e, e.key ∈ out.addrs ↔ P e) (old : List Xauth) :
    (old.filter fun e => !checkEntry out e) = old.filter fun e => ¬ P e := by
  refine List.filter_congr fun e _ => ?_
  have hiff : checkEntry out e = true ↔ P e := checkEntry_iff.trans (hP e)
  by_cases h : P e
  · simp [h, hiff.2 h]
  · simp [h, Bool.eq_false_iff.2 fun htrue => h (hiff.1 htrue)]

/-- The magic cookie is written with its data. -/
lemma find_magicCookie_entries (w : World) (d : Dpy) (auths : List Xauth) :
    (auths.find? Xauth.isMagicCookie).toList.flatMap (d.entries w) =
      (auths.find? Xauth.isMagicCookie).toList.flatMap fun auth =>
        d.entries w auth.withoutCache := by
  refine List.flatMap_congr fun auth hauth => ?_
  have hname : auth.name = mitMagicCookie1 := by
    rw [Option.mem_toList] at hauth
    simpa [Xauth.isMagicCookie] using List.find?_some hauth
  have hne : mitMagicCookie1 ≠ mitKerberos5 := by decide
  unfold Xauth.withoutCache
  rw [if_neg (hname ▸ hne)]

/-- `SetUserAuthorization` writes the entries of the display and then those it leaves alone. -/
theorem setEntries_spec (w : World) (d : Dpy) (auths old : List Xauth) :
    (setEntries w d auths old).1.new = d.allEntries w auths ++ d.foreign w auths old ∧
      AllUsed d.name auths (setEntries w d auths old).2 := by
  obtain ⟨hcookie, hused, hindex⟩ := writeMagicCookie_spec w d ⟨[], true, []⟩ auths
  obtain ⟨herase, hsame⟩ := hused.eraseP
  have hindex : (writeMagicCookie w d ⟨[], true, []⟩ auths).2.2 =
      ((writeMagicCookie w d ⟨[], true, []⟩ auths).2.1.findIdx? Xauth.isMagicCookie).map
        (· + 0) := by
    rw [hindex, hsame]
    exact Option.map_id'.symm
  obtain ⟨hothers, hused'⟩ := writeOthers_spec w d (writeMagicCookie w d ⟨[], true, []⟩ auths).1
    (writeMagicCookie w d ⟨[], true, []⟩ auths).2.1 0
  rw [← hindex] at hothers hused'
  have hall : (writeOthers w d (writeMagicCookie w d ⟨[], true, []⟩ auths).2.2 0
      (writeMagicCookie w d ⟨[], true, []⟩ auths).1
        (writeMagicCookie w d ⟨[], true, []⟩ auths).2.1).1 =
      Output.write ⟨[], true, []⟩ (d.allEntries w auths) := by
    rw [hothers, hcookie, write_write, herase.entries Xauth.withoutCache (·.withoutCache),
      find_magicCookie_entries, ← List.flatMap_append]
    rfl
  refine ⟨?_, hused.trans hused'⟩
  simp only [setEntries, copyEntries_new, hall, write_new, write_doWrite, if_true, List.nil_append]
  congr 1
  exact filter_checkEntry (fun e => by simp [mem_write_addrs, Dpy.Owns]) old

/-- `RemoveUserAuthorization` writes those that are left alone, also if the authorizations have
been used before. -/
theorem removeEntries_new (h : AllUsed d.name auths es) (old : List Xauth) :
    (removeEntries w d es old).1.new = d.foreign w auths old := by
  have hentries : es.flatMap (d.entries w) = auths.flatMap (d.entries w) :=
    h.entries id fun hused => hused
  simp only [removeEntries, copyEntries_new, writeAll_spec, hentries, write_new, if_true,
    Bool.false_eq_true, if_false, List.append_nil, List.nil_append]
  refine filter_checkEntry (fun e => ?_) old
  rw [owns_iff]
  simp only [mem_write_addrs, List.not_mem_nil, false_or, List.mem_flatMap, List.mem_map]
  constructor
  · rintro ⟨x, ⟨auth, hauth, hx⟩, hkey⟩
    exact ⟨auth, hauth, x, hx, hkey⟩
  · rintro ⟨auth, hauth, x, hx, hkey⟩
    exact ⟨x, ⟨auth, hauth, hx⟩, hkey⟩

end Xdm.UserAuth
