/-
# What the sockets are bound to

A kernel that refuses to bind a socket only if it clashes with another one that is open.  The
sockets in the list are then open and bound to their addresses, nothing else is bound, and no two
of them clash.
-/
import Xdm.Sockets.Sweep

namespace Xdm

open Prog

/-! ### The kernel -/

/-- The wildcard address of one of the two families. -/
def IsAny (a : ARRAY8) : Prop := a = in6addrAny ∨ a = inaddrAny

instance (a : ARRAY8) : Decidable (IsAny a) := inferInstanceAs (Decidable (_ ∨ _))

/-- The addresses cannot both be bound on one port. -/
def Bars (a b : ARRAY8) : Prop := a = b ∨ IsAny a ∨ IsAny b

instance (a b : ARRAY8) : Decidable (Bars a b) := inferInstanceAs (Decidable (_ ∨ _))

lemma Bars.symm {a b : ARRAY8} (h : Bars a b) : Bars b a := h.imp Eq.symm Or.symm

def InetAddr.Clashes (addr addr' : InetAddr) : Prop :=
  addr.port = addr'.port ∧ Bars addr.data addr'.data

instance (addr addr' : InetAddr) : Decidable (addr.Clashes addr') :=
  inferInstanceAs (Decidable (_ ∧ _))

/-- Descriptors are those of no open socket, there may be no sockets for IPv6, and an address can
be bound unless it clashes. -/
structure SocketKernel.Exclusive (kernel : SocketKernel) (ipv6 : Bool) : Prop where
  socket : ∀ n process family,
    (kernel.socket n process family).isSome = true ↔ (family = .inet6 → ipv6 = true)
  fresh : ∀ n process family fd, kernel.socket n process family = some fd →
    ∀ x ∈ process, x.fd ≠ fd
  bind : ∀ n process addr, kernel.bind n process addr = true ↔
    ∀ x ∈ process, ∀ addr', x.bound = some addr' → ¬ addr'.Clashes addr

/-! ### The list and the open sockets -/

/-- What a socket of the list should be bound to, and its descriptor. -/
def ListenSock.binding (s : ListenSock) : InetAddr × Nat := (s.addr, s.fd)

def Sockets.bindings (t : Sockets) : List (InetAddr × Nat) := t.listensocks.map ListenSock.binding

structure Bindings (ipv6 : Bool) (l : List (InetAddr × Nat)) (process : List OpenSocket) :
    Prop where
  fds : Keyed.Distinct OpenSocket.fd process
  isOpen : ∀ b ∈ l, OpenSocket.mk b.2 (some b.1) ∈ process
  bound : ∀ x ∈ process, ∀ addr, x.bound = some addr → (addr, x.fd) ∈ l
  distinct : Keyed.Distinct (fun b => b.1.data) l
  apart : ∀ b ∈ l, ∀ b' ∈ l, b.1.data ≠ b'.1.data → ¬ b.1.Clashes b'.1
  supported : ∀ b ∈ l, b.1.data.length = 16 → ipv6 = true

variable {env : SocketEnv} {kernel : SocketKernel} {ipv6 : Bool} {t t' : Sockets}
variable {l : List (InetAddr × Nat)} {process : List OpenSocket} {addr : InetAddr} {fd : Nat}
variable {a : ARRAY8} {r : Option ARRAY8}

namespace Bindings

lemma perm (h : Bindings ipv6 l process) {l' : List (InetAddr × Nat)} (hp : l.Perm l') :
    Bindings ipv6 l' process where
  fds := h.fds
  isOpen b hb := h.isOpen b (hp.mem_iff.2 hb)
  bound x hx addr hbound := hp.mem_iff.1 (h.bound x hx addr hbound)
  distinct := (hp.map _).nodup_iff.1 h.distinct
  apart b hb b' hb' := h.apart b (hp.mem_iff.2 hb) b' (hp.mem_iff.2 hb')
  supported b hb := h.supported b (hp.mem_iff.2 hb)

/-- A new socket is bound. -/
lemma opened (h : Bindings ipv6 l process) (hfresh : ∀ x ∈ process, x.fd ≠ fd)
    (hnew : ∀ b ∈ l, b.1.data ≠ addr.data) (hclash : ∀ b ∈ l, ¬ b.1.Clashes addr)
    (h6 : addr.data.length = 16 → ipv6 = true) :
    Bindings ipv6 ((addr, fd) :: l) (⟨fd, some addr⟩ :: process) where
  fds := h.fds.cons hfresh
  isOpen b hb := by
    rcases List.mem_cons.1 hb with rfl | hb
    · exact List.mem_cons_self ..
    · exact List.mem_cons_of_mem _ (h.isOpen b hb)
  bound x hx addr' hbound := by
    rcases List.mem_cons.1 hx with rfl | hx
    · obtain rfl := Option.some.inj hbound
      exact List.mem_cons_self ..
    · exact List.mem_cons_of_mem _ (h.bound x hx addr' hbound)
  distinct := h.distinct.cons hnew
  apart b hb b' hb' hne := by
    rcases List.mem_cons.1 hb with rfl | hb
    · rcases List.mem_cons.1 hb' with rfl | hb'
      · exact absurd rfl hne
      · exact fun hc => hclash b' hb' ⟨hc.1.symm, hc.2.symm⟩
    · rcases List.mem_cons.1 hb' with rfl | hb'
      · exact hclash b hb
      · exact h.apart b hb b' hb' hne
  supported b hb := by
    rcases List.mem_cons.1 hb with rfl | hb
    · exact h6
    · exact h.supported b hb

/-- A socket is closed. -/
lemma closed (h : Bindings ipv6 ((addr, fd) :: l) process) :
    Bindings ipv6 l (Keyed.erase OpenSocket.fd fd process) where
  fds := h.fds.erase
  isOpen b hb := by
    refine Keyed.mem_erase.2 ⟨h.isOpen b (List.mem_cons_of_mem _ hb), fun heq => ?_⟩
    -- otherwise it would be the same socket
    have hsock := h.fds.eq_of_mem (h.isOpen b (List.mem_cons_of_mem _ hb))
      (h.isOpen _ (List.mem_cons_self ..)) heq
    have haddr : b.1 = addr := Option.some.inj (congrArg OpenSocket.bound hsock)
    exact (List.nodup_cons.1 h.distinct).1
      (List.mem_map.2 ⟨b, hb, congrArg InetAddr.data haddr⟩)
  bound x hx addr' hbound := by
    obtain ⟨hx, hne⟩ := Keyed.mem_erase.1 hx
    rcases List.mem_cons.1 (h.bound x hx addr' hbound) with heq | hmem
    · exact absurd (congrArg Prod.snd heq) hne
    · exact hmem
  distinct := (List.nodup_cons.1 h.distinct).2
  apart b hb b' hb' := h.apart b (List.mem_cons_of_mem _ hb) b' (List.mem_cons_of_mem _ hb')
  supported b hb := h.supported b (List.mem_cons_of_mem _ hb)

end Bindings

/-! ### Opening -/

/-- What comes of creating a socket. -/
inductive Created (env : SocketEnv) (ipv6 : Bool) (addr : InetAddr) (process : List OpenSocket) :
    Option Nat → List OpenSocket → Prop
  | opened (fd : Nat) : env.requestPort ≠ 0 → (addr.data.length = 16 → ipv6 = true) →
      (∀ x ∈ process, x.fd ≠ fd) →
      (∀ x ∈ process, ∀ addr', x.bound = some addr' → ¬ addr'.Clashes addr) →
      Created env ipv6 addr process (some fd) (⟨fd, some addr⟩ :: process)
  | refused : (env.requestPort ≠ 0 → (addr.data.length = 16 → ipv6 = true) →
      ∃ x ∈ process, ∃ addr', x.bound = some addr' ∧ addr'.Clashes addr) →
      Created env ipv6 addr process none process

lemma InetAddr.family_eq_inet6 : addr.family = .inet6 ↔ addr.data.length = 16 := by
  rw [InetAddr.family]
  rcases addr.length with h4 | h16
  · simp [h4]
  · simp [h16]

lemma wlp_createListeningSocket (hk : env.kernel.Exclusive ipv6) :
    Wlp (createListeningSocket env addr)
      (fun r t' => Created env ipv6 addr t.process r t'.process) t := by
  refine wlp_ite (fun hport => (wlp_pure _ _ _).2 (Created.refused fun hne => absurd hport hne))
    fun hport => ?_
  simp only [SocketEnv.socket, wlp_bind, wlp_get, wlp_set, wlp_pure]
  cases hsocket : env.kernel.socket t.calls t.process addr.family with
  | none =>
    refine (wlp_pure _ _ _).2 (Created.refused fun _ h6 => ?_)
    have hsome := (hk.socket t.calls t.process addr.family).2 fun hfamily =>
      h6 (InetAddr.family_eq_inet6.1 hfamily)
    rw [hsocket] at hsome
    cases hsome
  | some fd =>
    have hfresh := hk.fresh _ _ _ _ hsocket
    have h6 : addr.data.length = 16 → ipv6 = true := fun h16 =>
      (hk.socket t.calls t.process addr.family).1 (hsocket ▸ rfl) (InetAddr.family_eq_inet6.2 h16)
    simp only [registerCloseOnFork, SocketEnv.bind, wlp_bind, wlp_get, wlp_set, wlp_modify,
      wlp_pure, Option.map_some, Option.toList_some, List.singleton_append]
    refine wlp_ite (fun hbind => ?_) fun hbind => ?_
    · simp only [addWellKnownSocket, wlp_bind, wlp_modify, wlp_pure, hbind, if_true]
      have hprocess : Keyed.modify OpenSocket.fd fd (fun x => { x with bound := some addr })
          (⟨fd, none⟩ :: t.process) = ⟨fd, some addr⟩ :: t.process := by
        have hrest := Keyed.modify_of_absent (f := fun x : OpenSocket =>
          { x with bound := some addr }) hfresh
        rw [Keyed.modify] at hrest ⊢
        rw [List.map_cons, hrest, if_pos rfl]
      rw [hprocess]
      refine Created.opened fd hport h6 hfresh fun x hx => ?_
      exact (hk.bind _ _ _).1 hbind x (List.mem_cons_of_mem _ hx)
    · simp only [closeFd, wlp_bind, wlp_modify, wlp_pure, hbind]
      have hprocess : Keyed.erase OpenSocket.fd fd (⟨fd, none⟩ :: t.process) = t.process := by
        rw [Keyed.erase, List.filter_cons_of_neg (by simp)]
        exact List.filter_eq_self.2 fun x hx => by simpa using hfresh x hx
      rw [if_neg Bool.false_ne_true, hprocess]
      refine Created.refused fun _ _ => ?_
      by_contra hnone
      refine hbind ((hk.bind _ _ _).2 fun x hx addr' hbound hclash => ?_)
      rcases List.mem_cons.1 hx with rfl | hx
      · cases hbound
      · exact hnone ⟨x, hx, addr', hbound, hclash⟩

/-! ### What the steps of an update do to the bindings -/

/-- What comes of trying to get a socket for the address `a`. -/
inductive ListenStep (env : SocketEnv) (ipv6 : Bool) (a : ARRAY8) (l : List (InetAddr × Nat)) :
    Option ARRAY8 → List (InetAddr × Nat) → Prop
  | kept : (∃ b ∈ l, b.1.data = a) → ListenStep env ipv6 a l (some a) l
  | opened (addr : InetAddr) (fd : Nat) : (∀ b ∈ l, b.1.data ≠ a) → addr.data = a →
      addr.port = portBytes env.requestPort → env.requestPort ≠ 0 →
      (a.length = 16 → ipv6 = true) → (∀ b ∈ l, ¬ b.1.Clashes addr) →
      ListenStep env ipv6 a l (some a) ((addr, fd) :: l)
  | refused : (∀ b ∈ l, b.1.data ≠ a) →
      (IsInet a → env.requestPort ≠ 0 → (a.length = 16 → ipv6 = true) →
        ∃ b ∈ l, b.1.port = portBytes env.requestPort ∧ Bars b.1.data a) →
      ListenStep env ipv6 a l none l

lemma ListenStep.subset {l' : List (InetAddr × Nat)} (h : ListenStep env ipv6 a l r l') :
    l ⊆ l' := by
  cases h with
  | kept _ => exact List.Subset.refl _
  | opened _ _ _ _ _ _ _ _ => exact List.subset_cons_self ..
  | refused _ _ => exact List.Subset.refl _

/-- The descriptors and the addresses of the list are still right. -/
def Sockets.Bound (ipv6 : Bool) (t : Sockets) : Prop :=
  Bindings ipv6 t.bindings t.process

lemma bindings_modify {f : ListenSock → ListenSock} (hf : ∀ s, (f s).binding = s.binding) :
    Sockets.bindings { t with listensocks := Keyed.modify ListenSock.data a f t.listensocks } =
      t.bindings :=
  Keyed.map_modify fun s _ _ => hf s

lemma mem_bindings {b : InetAddr × Nat} :
    b ∈ t.bindings ↔ ∃ s ∈ t.listensocks, s.binding = b := List.mem_map

lemma forall_bindings (h : ∀ s ∈ t.listensocks, s.data ≠ a) : ∀ b ∈ t.bindings, b.1.data ≠ a := by
  intro b hb
  obtain ⟨s, hs, rfl⟩ := mem_bindings.1 hb
  exact h s hs

lemma wlp_openListener_bindings (hk : env.kernel.Exclusive ipv6) (ht : t.Bound ipv6) :
    Wlp (openListener env a)
      (fun r t' => ListenStep env ipv6 a t.bindings r t'.bindings ∧ t'.Bound ipv6) t := by
  refine wlp_openListener_of (fun hs => ?_) (fun hnew hentry => ?_)
    fun addr hnew hdata hport => ?_
  · obtain ⟨s, hs, rfl⟩ := hs
    rw [Sockets.Bound, bindings_modify (f := fun s => { s with ref := true }) fun _ => rfl]
    exact ⟨ListenStep.kept ⟨s.binding, mem_bindings.2 ⟨s, hs, rfl⟩, rfl⟩, ht⟩
  · refine ⟨ListenStep.refused (forall_bindings hnew) fun hinet => ?_, ht⟩
    rw [createSocklistEntry_isInet hinet] at hentry
    cases hentry
  · subst hdata
    have hnew := forall_bindings hnew
    refine (((sameSocks_createListeningSocket t trivial).and (wlp_createListeningSocket hk)).mono
      fun r t' hr => ?_)
    obtain ⟨⟨-, hsocks⟩, hcreated⟩ := hr
    have hsame : t'.bindings = t.bindings := congrArg (List.map ListenSock.binding) hsocks
    obtain ⟨process, hprocess⟩ : ∃ process, process = t'.process := ⟨_, rfl⟩
    rw [← hprocess] at hcreated
    cases hcreated with
    | opened fd hne h6 hfresh hclash =>
      refine ⟨fun h => (Option.some_ne_none fd h).elim, fun fd' hfd => ?_⟩
      obtain rfl := Option.some.inj hfd
      have hclash' : ∀ b ∈ t.bindings, ¬ b.1.Clashes addr :=
        fun b hb => hclash _ (ht.isOpen b hb) _ rfl
      have hbindings : Sockets.bindings { t' with
          listensocks := ⟨addr, [], fd, true⟩ :: t'.listensocks } =
            (addr, fd) :: t.bindings := by
        rw [← hsame]
        rfl
      rw [Sockets.Bound, hbindings]
      refine ⟨ListenStep.opened addr fd hnew rfl hport hne h6 hclash', ?_⟩
      show Bindings ipv6 _ t'.process
      rw [← hprocess]
      exact ht.opened hfresh hnew hclash' h6
    | refused hwhy =>
      refine ⟨fun _ => ?_, fun fd hfd => (Option.some_ne_none fd hfd.symm).elim⟩
      rw [Sockets.Bound, hsame, ← hprocess]
      refine ⟨ListenStep.refused hnew fun _ hne h6 => ?_, ht⟩
      obtain ⟨x, hx, addr', hbound, hclash⟩ := hwhy hne h6
      exact ⟨_, ht.bound x hx addr' hbound, hclash.1.trans hport, hclash.2⟩

/-- A socket of the list without its groups. -/
def ListenSock.bare (s : ListenSock) : ListenSock := { s with mcastgroups := [] }

/-- Only the groups of the sockets, and the memberships, have changed. -/
structure OnlyGroups (t t' : Sockets) : Prop where
  rest : t' = { t with listensocks := t'.listensocks, memberships := t'.memberships }
  bare : t'.listensocks.map ListenSock.bare = t.listensocks.map ListenSock.bare

instance : Std.Refl OnlyGroups := ⟨fun _ => ⟨rfl, rfl⟩⟩

instance : IsTrans Sockets OnlyGroups := ⟨fun t t' t'' h h' => by
  refine ⟨?_, h'.bare.trans h.bare⟩
  rw [h'.rest, h.rest]⟩

lemma OnlyGroups.bindings (h : OnlyGroups t t') : t'.bindings = t.bindings := by
  have hmap := congrArg (List.map ListenSock.binding) h.bare
  rwa [List.map_map, List.map_map] at hmap

lemma OnlyGroups.exists_bare (h : OnlyGroups t t') {s' : ListenSock} (hs' : s' ∈ t'.listensocks) :
    ∃ s ∈ t.listensocks, s.addr = s'.addr ∧ s.ref = s'.ref := by
  obtain ⟨s, hs, hbare⟩ := List.mem_map.1 (h.bare ▸ List.mem_map_of_mem hs')
  simp only [ListenSock.bare, ListenSock.mk.injEq] at hbare
  exact ⟨s, hs, hbare.1, hbare.2.2.2⟩

lemma onlyGroups_updateMcastGroup {addr : ListenAddr} :
    Respects OnlyGroups (updateMcastGroup env addr r) := by
  have hread : Respects OnlyGroups addr.read := by
    cases addr with
    | bytes a => exact Keeps.pure _
    | null n => exact Keeps.ite (fun _ => Keeps.failure) fun _ => Keeps.pure _
  have hwrite : ∀ s groups, Respects OnlyGroups (updateMcastGroup.writeGroups s groups) :=
    fun s groups => Keeps.modify fun t _ =>
      ⟨trivial, rfl, Keyed.map_modify fun _ _ _ => rfl⟩
  refine Keeps.bind Keeps.get fun t => ?_
  cases r.bind (findInList ListenSock.data t.listensocks) with
  | none => exact Keeps.pure _
  | some s =>
    refine Keeps.bind hread fun a => ?_
    cases findInList McastGroup.data s.mcastgroups a with
    | some g => exact Keeps.bind (hwrite _ _) fun _ => Keeps.pure _
    | none =>
      dsimp only
      cases createSocklistEntry env a with
      | none => exact Keeps.pure _
      | some group =>
        refine Keeps.bind (Keeps.modify fun _ _ => ⟨trivial, rfl, rfl⟩) fun _ => ?_
        exact Keeps.bind (hwrite _ _) fun _ => Keeps.pure _

/-- The bindings and the open sockets are the same. -/
def SameBindings (t t' : Sockets) : Prop := t'.bindings = t.bindings ∧ t'.process = t.process

lemma SameBindings.bound (h : SameBindings t t') (ht : t.Bound ipv6) : t'.Bound ipv6 := by
  rw [Sockets.Bound, h.1, h.2]
  exact ht

lemma OnlyGroups.sameBindings (h : OnlyGroups t t') : SameBindings t t' :=
  ⟨h.bindings, by rw [h.rest]⟩

lemma wlp_updateMcastGroup_bindings {addr : ListenAddr} :
    Wlp (updateMcastGroup env addr r) (fun _ => SameBindings t) t :=
  (onlyGroups_updateMcastGroup t trivial).mono fun _ _ h => h.2.sameBindings

/-! ### What an update does to them -/

/-- Closing the sockets that are not marked. -/
lemma wlp_sweepSockets_bound : ∀ {socks : List ListenSock} {pre : List (InetAddr × Nat)}
    {t : Sockets}, Bindings ipv6 (pre ++ socks.map ListenSock.binding) t.process →
    Wlp (sweepSockets socks) (fun kept t' =>
      Bindings ipv6 (pre ++ kept.map ListenSock.binding) t'.process) t
  | [], _, _, h => (wlp_pure _ _ _).2 h
  | s :: socks, pre, t, h => by
    refine wlp_ite (fun _ => ?_) fun _ => ?_
    · rw [wlp_bind]
      refine wp_sweepGroups.wlp.mono fun groups t₁ h₁ => ?_
      obtain ⟨-, ht₁⟩ := h₁
      rw [wlp_bind]
      have hnext : Bindings ipv6 ((pre ++ [s.binding]) ++ socks.map ListenSock.binding)
          t₁.process := by
        rw [ht₁, List.append_assoc]
        exact h
      refine (wlp_sweepSockets_bound hnext).mono fun kept t₂ h₂ => (wlp_pure _ _ _).2 ?_
      rw [List.append_assoc] at h₂
      exact h₂
    · simp only [destroyListeningSocket, closeFd, wlp_bind, wlp_modify]
      exact wlp_sweepSockets_bound (h.perm List.perm_middle).closed

/-- What getting a socket for an address keeps, and does not depend on the groups, is kept while
the lines are read. -/
lemma walks_of {P : Sockets → Prop} (hopen : ∀ a t, P t → Wlp (openListener env a) (fun _ => P) t)
    (hgroups : ∀ t t', OnlyGroups t t' → P t → P t') : Walks env fun _ t => P t where
  line ht := wlp_updateListener_of hopen ht
  group ht := (onlyGroups_updateMcastGroup _ trivial).mono fun _ _ h => hgroups _ _ h.2 ht

/-- The bindings stay right while the lines are read. -/
lemma walks_bound (hk : env.kernel.Exclusive ipv6) : Walks env fun _ t => t.Bound ipv6 :=
  walks_of (fun _ _ ht => (wlp_openListener_bindings hk ht).mono fun _ _ h => h.2)
    fun _ _ h ht => h.sameBindings.bound ht

lemma bindings_clearRefs :
    Sockets.bindings { t with listensocks := t.listensocks.map clearRefs } = t.bindings := by
  rw [Sockets.bindings, List.map_map]
  rfl

lemma bound_clearRefs (ht : t.Bound ipv6) :
    Sockets.Bound ipv6 { t with listensocks := t.listensocks.map clearRefs } := by
  rw [Sockets.Bound, bindings_clearRefs]
  exact ht

/-- They are still right after an update. -/
lemma wlp_updateListenSockets_bound {database : List DisplayEntry}
    (hk : env.kernel.Exclusive ipv6) (hw : t.WellFormed) (ht : t.Bound ipv6) :
    Wlp (updateListenSockets env database) (fun _ t' => t'.WellFormed ∧ t'.Bound ipv6) t := by
  refine ((walks_bound hk).wlp_updateListenSockets hw (bound_clearRefs ht)).mono fun _ t' h => ?_
  obtain ⟨done, -, -, hswept, t₁, t₂, ht₁, hsweep, rfl⟩ := h
  have hbound : Bindings ipv6 ([] ++ (swept t₁.listensocks).map ListenSock.binding) t₂.process :=
    wlp_sweepSockets_bound (show Bindings ipv6 ([] ++ t₁.bindings) t₁.process from ht₁) _ _ hsweep
  exact ⟨hswept.wellFormed, hbound⟩

/-! ### Configurations -/

/-- The sockets after a start and any number of updates, each with its own access file and
resources. -/
inductive Configured (kernel : SocketKernel) : Sockets → Prop
  | start {env : SocketEnv} {t : Sockets} : env.kernel = kernel →
      createWellKnownSockets env Sockets.start = some ((), t) → Configured kernel t
  | update {env : SocketEnv} {t t' : Sockets} {database : List DisplayEntry} :
      env.kernel = kernel → Configured kernel t →
      updateListenSockets env database t = some ((), t') → Configured kernel t'

/-- Nothing is bound, and nothing is listed. -/
lemma bindings_nil (hfds : Keyed.Distinct OpenSocket.fd process)
    (hbound : ∀ x ∈ process, x.bound = none) : Bindings ipv6 [] process where
  fds := hfds
  isOpen := List.forall_mem_nil _
  bound x hx addr haddr := by
    rw [hbound x hx] at haddr
    cases haddr
  distinct := List.nodup_nil
  apart := List.forall_mem_nil _
  supported := List.forall_mem_nil _

/-- No listening sockets, and at most one that is open and not bound. -/
structure OnlyChooser (chooserFd : Option Nat) (t : Sockets) : Prop where
  listensocks : t.listensocks = []
  process : t.process = (chooserFd.map fun fd => OpenSocket.mk fd none).toList

lemma wlp_socket_onlyChooser {family : AddrFamily} (h : OnlyChooser none t) :
    Wlp (env.socket family) OnlyChooser t := by
  simp only [SocketEnv.socket, wlp_bind, wlp_get, wlp_set, wlp_pure]
  exact ⟨h.listensocks, by rw [h.process, Option.map_none, Option.toList_none, List.append_nil]⟩

lemma wlp_setChooserFd {chooserFd : Option Nat} (h : OnlyChooser chooserFd t) :
    Wlp (setChooserFd chooserFd) (fun _ t' => ∃ fd, OnlyChooser fd t') t := by
  refine (wlp_bind _ _ _ _).2 ((wlp_modify _ _ _).2 ?_)
  cases chooserFd with
  | none => exact (wlp_pure _ _ _).2 ⟨none, h.listensocks, h.process⟩
  | some fd => exact (wlp_modify _ _ _).2 ⟨some fd, h.listensocks, h.process⟩

lemma wlp_createWellKnownSockets_start :
    Wlp (createWellKnownSockets env) (fun _ t' => ∃ fd, OnlyChooser fd t') Sockets.start := by
  have hnone : OnlyChooser none Sockets.start := ⟨rfl, rfl⟩
  refine wlp_ite (fun _ => ?_) fun _ => (wlp_pure _ _ _).2 ⟨none, hnone⟩
  rw [wlp_bind]
  refine (wlp_socket_onlyChooser hnone).mono fun fd t₁ h₁ => ?_
  cases fd with
  | some fd => exact wlp_setChooserFd h₁
  | none =>
    rw [wlp_bind]
    exact (wlp_socket_onlyChooser h₁).mono fun fd t₂ h₂ => wlp_setChooserFd h₂

theorem Configured.bound (hk : kernel.Exclusive ipv6) (h : Configured kernel t) :
    t.WellFormed ∧ t.Bound ipv6 := by
  induction h with
  | start _ hstart =>
    obtain ⟨chooserFd, hsocks, hprocess⟩ := wlp_createWellKnownSockets_start _ _ hstart
    refine ⟨⟨?_, ?_⟩, ?_⟩
    · rw [hsocks]
      exact List.nodup_nil
    · rw [hsocks]
      exact List.forall_mem_nil _
    · rw [Sockets.Bound, Sockets.bindings, hsocks, hprocess]
      cases chooserFd with
      | none => exact bindings_nil List.nodup_nil (List.forall_mem_nil _)
      | some fd => exact bindings_nil (List.nodup_singleton _) (by simp)
  | update henv _ hrun ih =>
    exact wlp_updateListenSockets_bound (henv ▸ hk) ih.1 ih.2 _ _ hrun

end Xdm
