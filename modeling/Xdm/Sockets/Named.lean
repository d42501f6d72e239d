/-
# The sockets are those of the `LISTEN` lines

`Follows` says what an update of the sockets should come to.  The host entries of a line are
read as addresses whatever they are, and the zeros of a `BROADCAST` are a wildcard; so
`updateListenSockets_follows_iff` has exactly the databases whose lines begin with an address or
a star and have no macros.
-/
import Xdm.Sockets.Sweep

namespace Xdm

open Prog

variable {env : SocketEnv} {t t' : Sockets} {l old : List ListenSock} {s : ListenSock}
variable {a G : ARRAY8} {r : Option ARRAY8} {done : List LineRead} {gs : List ListenAddr}
variable {addr : ListenAddr} {database : List DisplayEntry} {d : DisplayEntry}

/-! ### What is asked -/

/-- The address that a line stands for, when it begins like this.  A star stands for one of the
two wildcard addresses, and for one that there was, if there was one. -/
def Stands (old : List ListenSock) : HostOrAlias → Option ARRAY8 → Prop
  | .address a, r => r = some a ∨ r = none ∧ ∀ o ∈ old, o.data ≠ a
  | .anyAddr, r => r = some in6addrAny ∨ (∀ o ∈ old, o.data ≠ in6addrAny) ∧
      (r = some inaddrAny ∨ r = none ∧ ∀ o ∈ old, o.data ≠ inaddrAny)
  | _, r => r = none

/-- The sockets after the update are those of the lines.  The lines stand for the addresses
`rs`. -/
structure Follows (lines : List (HostOrAlias × List HostOrAlias)) (rs : List (Option ARRAY8))
    (t t' : Sockets) : Prop where
  stands : List.Forall₂ (fun line r => Stands t.listensocks line.1 r) lines rs
  named : ∀ s ∈ t'.listensocks, some s.data ∈ rs
  distinct : Keyed.Distinct ListenSock.data t'.listensocks
  groupsDistinct : ∀ s ∈ t'.listensocks, Keyed.Distinct McastGroup.data s.mcastgroups
  groups : ∀ s ∈ t'.listensocks, ∀ G, (∃ g ∈ s.mcastgroups, g.data = G) ↔
    ∃ x ∈ lines.zip rs, x.2 = some s.data ∧ HostOrAlias.address G ∈ x.1.2
  kept : ∀ o ∈ t.listensocks, some o.data ∈ rs →
    ∃ s ∈ t'.listensocks, s.addr = o.addr ∧ s.fd = o.fd
  dropped : ∀ o ∈ t.listensocks, some o.data ∉ rs → t'.Closed o.fd

/-- The addresses of the entry have the length of an address. -/
def DisplayEntry.Typed (d : DisplayEntry) : Prop :=
  ∀ h ∈ d.hosts, ∀ a, h.entry = .address a → IsInet a

/-- A `LISTEN` line begins with an address or a star, and has no macros. -/
def DisplayEntry.NamesAddresses (d : DisplayEntry) : Prop :=
  ∀ first others, d.listenLine = some (first, others) →
    (first = .anyAddr ∨ ∃ a, first = .address a) ∧ ∀ name, HostOrAlias.alias name ∉ others

/-! ### Databases that have been read -/

lemma isInet_firstAddress {resolver : Str → List SockAddr} {name : Str} {addr : ARRAY8 × CARD16}
    (h : firstAddress resolver name = some addr) : IsInet addr.1 := by
  rw [firstAddress] at h
  split at h
  · obtain rfl := Option.some.inj h
    exact Or.inl (by rename_i addr _ _; exact addr.2)
  · obtain rfl := Option.some.inj h
    exact Or.inr (by rename_i addr _ _ _; exact addr.2)
  · cases h

lemma isInet_hostEntryOf {resolver : Str → List SockAddr} {word : Str} {h : HostEntry}
    (hh : hostEntryOf resolver word = some h) (ha : h.entry = .address a) : IsInet a := by
  unfold hostEntryOf at hh
  split_ifs at hh
  iterate 5
    · obtain rfl := Option.some.inj hh
      cases ha
  · obtain ⟨addr, haddr, rfl⟩ := Option.map_eq_some_iff.1 hh
    obtain rfl := HostOrAlias.address.inj ha
    exact isInet_firstAddress haddr

lemma isInet_readHostEntry {resolver : Str → List SockAddr} : ∀ {n : Nat} {file : Reader}
    {h : HostEntry}, (readHostEntry resolver n file).1 = some h → h.entry = .address a → IsInet a
  | 0, _, _, hh, _ => nomatch hh
  | n + 1, file, h, hh, ha => by
    rw [readHostEntry] at hh
    split at hh
    · cases hh
    · split at hh
      · rename_i hentry
        obtain rfl := Option.some.inj hh
        exact isInet_hostEntryOf hentry ha
      · exact isInet_readHostEntry hh ha

lemma DisplayEntry.Typed.addHost {h : HostEntry} (hd : d.Typed)
    (hh : ∀ a, h.entry = .address a → IsInet a) : (d.addHost h).Typed := by
  have hcons : DisplayEntry.Typed { d with hosts := h :: d.hosts } := by
    intro h' hh' a ha
    rcases List.mem_cons.1 hh' with rfl | hh'
    · exact hh a ha
    · exact hd h' hh' a ha
  unfold DisplayEntry.addHost
  split
  · exact hd
  · exact hd
  · split
    · exact hcons
    · exact hd
  · exact hcons

lemma typed_readHosts {resolver : Str → List SockAddr} (hd : d.hosts = []) : ∀ {n : Nat}
    {file : Reader}, (readHosts resolver d n file).1.Typed
  | 0, _ => by
    intro h hh
    rw [readHosts, hd] at hh
    cases hh
  | n + 1, file => by
    rw [readHosts]
    split
    · intro h hh
      rw [hd] at hh
      cases hh
    · rename_i h file' hread
      refine (typed_readHosts hd).addHost fun a ha => ?_
      exact isInet_readHostEntry (congrArg Prod.fst hread) ha

lemma typed_readDisplayEntry {resolver : Str → List SockAddr} : ∀ {n : Nat} {file : Reader},
    (readDisplayEntry resolver n file).1 = some d → d.Typed
  | 0, _, hd => nomatch hd
  | n + 1, file, hd => by
    rw [readDisplayEntry] at hd
    split at hd
    · cases hd
    · split at hd
      · exact typed_readDisplayEntry hd
      · obtain rfl := Option.some.inj hd
        exact typed_readHosts rfl

/-- What has been read from a file has addresses of the right length. -/
lemma typed_readAccessDatabase {resolver : Str → List SockAddr} : ∀ {n : Nat} {file : Reader},
    ∀ d ∈ readAccessDatabase resolver n file, d.Typed
  | 0, _ => List.forall_mem_nil _
  | n + 1, file => by
    rw [readAccessDatabase]
    split
    · exact List.forall_mem_nil _
    · rename_i d file' hread
      exact List.forall_mem_cons.2
        ⟨typed_readDisplayEntry (congrArg Prod.fst hread), typed_readAccessDatabase⟩

/-! ### Lines that name addresses -/

/-- A line that begins with an address or a star. -/
structure PlainLine (line : HostOrAlias × List HostOrAlias) : Prop where
  first : line.1 = .anyAddr ∨ ∃ a, line.1 = .address a ∧ IsInet a
  groups : ∀ G, HostOrAlias.address G ∈ line.2 → IsInet G

variable {line : HostOrAlias × List HostOrAlias} {lines : List (HostOrAlias × List HostOrAlias)}
variable {h : HostOrAlias} {m : Option (Octets 16)}

lemma DisplayEntry.Typed.isInet (hd : d.Typed) (hline : d.listenLine = some line) :
    (∀ a, line.1 = .address a → IsInet a) ∧ ∀ G, HostOrAlias.address G ∈ line.2 → IsInet G := by
  rw [DisplayEntry.listenLine] at hline
  split at hline
  · split at hline
    · cases hline
    · rename_i host hosts hhosts
      obtain rfl := Option.some.inj hline
      refine ⟨hd host (hhosts ▸ List.mem_cons_self ..), fun G hG => ?_⟩
      obtain ⟨host', hmem, heq⟩ := List.mem_map.1 hG
      exact hd host' (hhosts ▸ List.mem_cons_of_mem _ hmem) G heq
  · cases hline

lemma DisplayEntry.NamesAddresses.plainLine (hd : d.Typed) (hn : d.NamesAddresses)
    (hline : d.listenLine = some line) : PlainLine line := by
  obtain ⟨hfirst, -⟩ := hn line.1 line.2 hline
  obtain ⟨hinet, hgroups⟩ := hd.isInet hline
  exact ⟨hfirst.imp_right fun ⟨a, ha⟩ => ⟨a, ha, hinet a ha⟩, hgroups⟩

lemma plainLine_listenLines (hdb : ∀ d ∈ database, d.Typed)
    (hn : ∀ d ∈ database, d.NamesAddresses) (hline : line ∈ listenLines m database) :
    PlainLine line := by
  rw [listenLines] at hline
  split at hline
  · obtain ⟨d, hd, hline⟩ := List.mem_filterMap.1 hline
    exact (hn d hd).plainLine (hdb d hd) hline
  · obtain rfl := List.mem_singleton.1 hline
    refine ⟨Or.inl rfl, fun G hG => ?_⟩
    obtain ⟨group, -, heq⟩ := List.mem_map.1 hG
    obtain rfl := HostOrAlias.address.inj heq
    exact Or.inr group.2

/-! ### They are followed -/

lemma hostAddress_eq_bytes : h.hostAddress env = .bytes a ↔ h = .address a := by
  cases h <;> simp [HostOrAlias.hostAddress]

lemma Resolves.stands (hr : Resolves old (h.hostAddress env) r)
    (hh : h = .anyAddr ∨ ∃ a, h = .address a ∧ IsInet a) : Stands old h r := by
  rcases hh with rfl | ⟨a, rfl, ha⟩
  · have hr' : Resolves old (.null 0) r := hr
    cases hr' with
    | any6 _ => exact Or.inl rfl
    | any4 _ hno6 => exact Or.inr ⟨hno6, Or.inl rfl⟩
    | noAny _ hno6 hno4 => exact Or.inr ⟨hno6, Or.inr ⟨rfl, hno4⟩⟩
    | noAddress hne _ => exact absurd rfl hne
  · have hr' : Resolves old (.bytes a) r := hr
    have hne : (ListenAddr.bytes a).length ≠ 0 := by
      show a.length ≠ 0
      rcases ha with h4 | h16 <;> omega
    cases hr' with
    | any6 hzero => exact absurd hzero hne
    | any4 hzero _ => exact absurd hzero hne
    | noAny hzero _ _ => exact absurd hzero hne
    | address _ _ => exact Or.inl rfl
    | noAddress _ hno => exact Or.inr ⟨rfl, hno a rfl⟩

/-- What the lines that have been read list is what the lines list. -/
lemma listed_iff (hlines : List.Forall₂ (ReadLine env) lines done) : Listed done a G ↔
    ∃ x ∈ lines.zip (done.map LineRead.sock), x.2 = some a ∧ HostOrAlias.address G ∈ x.1.2 := by
  induction hlines with
  | nil => exact iff_of_false (by simp [Listed]) (by simp)
  | cons hline _ ih =>
    rw [listed_cons, ih, List.map_cons, List.zip_cons_cons, List.exists_mem_cons_iff]
    refine or_congr_left (and_congr_right fun _ => ?_)
    rw [hline.groups, List.mem_reverse, List.mem_map]
    constructor
    · rintro ⟨h, hh, heq⟩
      rwa [hostAddress_eq_bytes.1 heq] at hh
    · exact fun hG => ⟨_, hG, rfl⟩

lemma Swept.follows (hlines : List.Forall₂ (ReadLine env) lines done)
    (hresolves : ∀ x ∈ done, Resolves t.listensocks x.first x.sock)
    (hplain : ∀ line ∈ lines, PlainLine line) (h : Swept done t t') :
    Follows lines (done.map LineRead.sock) t t' := by
  have hnamed : ∀ s : ListenSock, some s.data ∈ done.map LineRead.sock ↔
      ∃ x ∈ done, x.sock = some s.data := fun s => List.mem_map
  constructor
  case stands =>
    clear h hnamed
    induction hlines with
    | nil => exact List.Forall₂.nil
    | cons hline _ ih =>
      obtain ⟨hx, hresolves⟩ := List.forall_mem_cons.1 hresolves
      obtain ⟨hl, hplain⟩ := List.forall_mem_cons.1 hplain
      rw [hline.first] at hx
      exact List.Forall₂.cons (hx.stands hl.first) (ih hresolves hplain)
  case named => exact fun s hs => (hnamed s).2 (h.listed s hs)
  case distinct => exact h.wellFormed.distinct
  case groupsDistinct => exact h.wellFormed.groups
  case groups =>
    intro s hs G
    rw [h.groups s hs G, listed_iff hlines]
    refine and_iff_right_of_imp fun ⟨x, hx, _, hG⟩ => ?_
    exact (hplain x.1 (List.of_mem_zip hx).1).groups G hG
  case kept => exact fun o ho hmem => h.kept o ho ((hnamed o).1 hmem)
  case dropped => exact fun o ho hmem => h.dropped o ho fun hex => hmem ((hnamed o).2 hex)

end Xdm
