/-
# The descriptor sets

The daemon waits for the descriptors in `WellKnownSocketsMask`.  The invariant `Masked` accounts
for them after any sequence of calls: the chooser socket, the listening sockets, and what
`CreateWellKnownSockets` has lost when it was called once more.
-/
import Xdm.Lib.Run
import Xdm.Sockets.Bound

namespace Xdm

open Prog

variable {env : SocketEnv} {t t' : Sockets} {a : ARRAY8} {addr : InetAddr} {r : Option ARRAY8}
variable {fd top : Nat} {known mask leaked : List Nat} {process : List OpenSocket}

/-! ### Sequences of calls -/

/-- A call from outside `socket.c`.  What does not change while the sockets are updated may be
different in each of them. -/
inductive SocketCall
  | create (env : SocketEnv)
  | update (env : SocketEnv) (database : List DisplayEntry)
  | close
  | destroy

def SocketCall.run : SocketCall → Prog Sockets Unit
  | .create env => createWellKnownSockets env
  | .update env database => updateListenSockets env database
  | .close => closeListenSockets
  | .destroy => destroyWellKnownSockets

def fdSetsize : Nat := 1024

/-- Descriptors are those of no open socket, and fit into an `fd_set`. -/
def SocketKernel.AssignsFree (kernel : SocketKernel) : Prop :=
  ∀ n process family fd, kernel.socket n process family = some fd →
    fd < fdSetsize ∧ ∀ x ∈ process, x.fd ≠ fd

def SocketCall.AssignsFree : SocketCall → Prop
  | .create env => env.kernel.AssignsFree
  | .update env _ => env.kernel.AssignsFree
  | .close => True
  | .destroy => True

/-! ### What is known of the descriptors -/

lemma mem_fdSet {x : Nat} : x ∈ fdSet fd mask ↔ x = fd ∨ x ∈ mask := by
  rw [fdSet]
  split_ifs with hmem
  · refine (or_iff_right_of_imp ?_).symm
    rintro rfl
    exact hmem
  · exact List.mem_cons

lemma mem_fdClr {x : Nat} : x ∈ fdClr fd mask ↔ x ∈ mask ∧ x ≠ fd := by
  simp [fdClr]

/-- The set has these descriptors, each of them once, and they are open. -/
structure Masked (known mask : List Nat) (top : Nat) (process : List OpenSocket) : Prop where
  nodup : known.Nodup
  mem_mask : ∀ fd, fd ∈ mask ↔ fd ∈ known
  le_top : ∀ fd ∈ known, fd ≤ top
  isOpen : ∀ fd ∈ known, ∃ x ∈ process, x.fd = fd

namespace Masked

lemma perm (h : Masked known mask top process) {known' : List Nat} (hp : known.Perm known') :
    Masked known' mask top process where
  nodup := hp.nodup_iff.1 h.nodup
  mem_mask fd := (h.mem_mask fd).trans hp.mem_iff
  le_top fd hfd := h.le_top fd (hp.mem_iff.2 hfd)
  isOpen fd hfd := h.isOpen fd (hp.mem_iff.2 hfd)

/-- What is open stays open. -/
lemma mono (h : Masked known mask top process) {process' : List OpenSocket}
    (hsub : ∀ x ∈ process, ∃ y ∈ process', y.fd = x.fd) : Masked known mask top process' where
  nodup := h.nodup
  mem_mask := h.mem_mask
  le_top := h.le_top
  isOpen fd hfd := by
    obtain ⟨x, hx, rfl⟩ := h.isOpen fd hfd
    exact hsub x hx

/-- A new descriptor. -/
lemma opened (h : Masked known mask top process) (hfresh : ∀ x ∈ process, x.fd ≠ fd)
    {process' : List OpenSocket} (hsub : ∀ x ∈ process, ∃ y ∈ process', y.fd = x.fd)
    (hnew : ∃ y ∈ process', y.fd = fd) :
    Masked (fd :: known) (fdSet fd mask) (max top fd) process' where
  nodup := by
    refine List.nodup_cons.2 ⟨fun hmem => ?_, h.nodup⟩
    obtain ⟨x, hx, hxfd⟩ := h.isOpen fd hmem
    exact hfresh x hx hxfd
  mem_mask x := by rw [mem_fdSet, h.mem_mask, List.mem_cons]
  le_top x hx := by
    rcases List.mem_cons.1 hx with rfl | hx
    · exact Nat.le_max_right _ _
    · exact Nat.le_trans (h.le_top x hx) (Nat.le_max_left _ _)
  isOpen x hx := by
    rcases List.mem_cons.1 hx with rfl | hx
    · exact hnew
    · exact (h.mono hsub).isOpen x hx

/-- A descriptor is closed. -/
lemma closed (h : Masked (fd :: known) mask top process) :
    Masked known (fdClr fd mask) top (Keyed.erase OpenSocket.fd fd process) where
  nodup := (List.nodup_cons.1 h.nodup).2
  mem_mask x := by
    have hnot : x ∈ known → x ≠ fd := by
      rintro hx rfl
      exact (List.nodup_cons.1 h.nodup).1 hx
    rw [mem_fdClr, h.mem_mask, List.mem_cons]
    constructor
    · rintro ⟨hx, hne⟩
      exact hx.resolve_left hne
    · exact fun hx => ⟨Or.inr hx, hnot hx⟩
  le_top x hx := h.le_top x (List.mem_cons_of_mem _ hx)
  isOpen x hx := by
    obtain ⟨y, hy, rfl⟩ := h.isOpen x (List.mem_cons_of_mem _ hx)
    refine ⟨y, Keyed.mem_erase.2 ⟨hy, fun heq => ?_⟩, rfl⟩
    exact (List.nodup_cons.1 h.nodup).1 (heq ▸ hx)

end Masked

def Sockets.fds (t : Sockets) : List Nat := t.listensocks.map ListenSock.fd

/-- The mask has the listening sockets, the chooser socket, and these others. -/
def Sockets.Masked (leaked : List Nat) (t : Sockets) : Prop :=
  Xdm.Masked (t.fds ++ (t.chooserFd.toList ++ leaked)) t.wellKnownSocketsMask
    t.wellKnownSocketsMax t.process

/-! ### What the steps of an update do to the descriptors -/

/-- Nothing has changed for the descriptors of the list. -/
structure SameFds (t t' : Sockets) : Prop where
  fds : t'.fds = t.fds
  chooserFd : t'.chooserFd = t.chooserFd
  mask : t'.wellKnownSocketsMask = t.wellKnownSocketsMask
  top : t'.wellKnownSocketsMax = t.wellKnownSocketsMax
  process : ∀ x ∈ t.process, ∃ y ∈ t'.process, y.fd = x.fd

/-- What an attempt to get a socket has done. -/
inductive FdStep (env : SocketEnv) (t t' : Sockets) : Prop
  | same : SameFds t t' → t'.closeMask = t.closeMask → FdStep env t t'
  | opened (fd : Nat) : (∀ x ∈ t.process, x.fd ≠ fd) → t'.fds = fd :: t.fds →
      t'.chooserFd = t.chooserFd → t'.wellKnownSocketsMask = fdSet fd t.wellKnownSocketsMask →
      t'.wellKnownSocketsMax = max t.wellKnownSocketsMax fd →
      t'.closeMask = fdSet fd t.closeMask → (∀ x ∈ t.process, ∃ y ∈ t'.process, y.fd = x.fd) →
      (∃ y ∈ t'.process, y.fd = fd) → FdStep env t t'
  | refused (n : Nat) (process : List OpenSocket) (addr : InetAddr) :
      env.kernel.bind n process addr = false → SameFds t t' → FdStep env t t'

lemma OnlyGroups.sameFds (h : OnlyGroups t t') : SameFds t t' := by
  have hfds : t'.fds = t.fds := by
    have hmap := congrArg (List.map Prod.snd) h.bindings
    rwa [Sockets.bindings, Sockets.bindings, List.map_map, List.map_map] at hmap
  refine ⟨hfds, ?_, ?_, ?_, fun x hx => ⟨x, ?_, rfl⟩⟩
  · rw [h.rest]
  · rw [h.rest]
  · rw [h.rest]
  · rw [h.rest]
    exact hx

/-- What is open stays open while a new socket is bound. -/
lemma fd_modify_bound (process : List OpenSocket) (fd : Nat) (addr : InetAddr) :
    ∀ x ∈ OpenSocket.mk fd none :: process, ∃ y ∈ Keyed.modify OpenSocket.fd fd
      (fun x => { x with bound := some addr }) (⟨fd, none⟩ :: process), y.fd = x.fd := by
  intro x hx
  by_cases hxfd : x.fd = fd
  · exact ⟨_, Keyed.mem_modify.2 (Or.inl ⟨x, hx, hxfd, rfl⟩), rfl⟩
  · exact ⟨x, Keyed.mem_modify.2 (Or.inr ⟨hx, hxfd⟩), rfl⟩

lemma wlp_openListener_fds (hk : env.kernel.AssignsFree) :
    Wlp (openListener env a) (fun _ t' => FdStep env t t') t := by
  have hsame : FdStep env t t := FdStep.same ⟨rfl, rfl, rfl, rfl, fun x hx => ⟨x, hx, rfl⟩⟩ rfl
  refine wlp_openListener_of (fun _ => ?_) (fun _ _ => hsame) fun addr _ _ _ => ?_
  · have hfds : (Keyed.modify ListenSock.data a (fun s => { s with ref := true })
        t.listensocks).map ListenSock.fd = t.fds := Keyed.map_modify fun _ _ _ => rfl
    exact FdStep.same ⟨hfds, rfl, rfl, rfl, fun x hx => ⟨x, hx, rfl⟩⟩ rfl
  rw [createListeningSocket]
  refine wlp_ite (fun _ => by simpa using hsame) fun _ => ?_
  simp only [SocketEnv.socket, wlp_bind, wlp_get, wlp_set, wlp_pure]
  cases hsocket : env.kernel.socket t.calls t.process addr.family with
  | none =>
    refine (wlp_pure _ _ _).2 ⟨fun _ => ?_, fun fd hfd => by cases hfd⟩
    exact FdStep.same ⟨rfl, rfl, rfl, rfl, fun x hx => ⟨x, hx, rfl⟩⟩ rfl
  | some fd =>
    have hfresh := (hk _ _ _ _ hsocket).2
    simp only [registerCloseOnFork, SocketEnv.bind, wlp_bind, wlp_get, wlp_set, wlp_modify,
      wlp_pure, Option.map_some, Option.toList_some, List.singleton_append]
    have hopen := fd_modify_bound t.process fd addr
    refine wlp_ite (fun hbind => ?_) fun hbind => ?_
    · simp only [addWellKnownSocket, wlp_bind, wlp_modify, wlp_pure, hbind, if_true]
      refine ⟨fun h => (Option.some_ne_none fd h).elim, fun fd' hfd => ?_⟩
      obtain rfl := Option.some.inj hfd
      refine FdStep.opened fd hfresh rfl rfl rfl rfl rfl (fun x hx => ?_) ?_
      · exact hopen x (List.mem_cons_of_mem _ hx)
      · exact hopen ⟨fd, none⟩ (List.mem_cons_self ..)
    · simp only [closeFd, wlp_bind, wlp_modify, wlp_pure, hbind]
      refine ⟨fun _ => ?_, fun fd hfd => by cases hfd⟩
      refine FdStep.refused _ _ _ (Bool.eq_false_iff.2 hbind)
        ⟨rfl, rfl, rfl, rfl, fun x hx => ?_⟩
      -- only the new socket has been closed
      exact ⟨x, Keyed.mem_erase.2 ⟨List.mem_cons_of_mem _ hx, hfresh x hx⟩, rfl⟩

lemma SameFds.masked (h : SameFds t t') (ht : t.Masked leaked) : t'.Masked leaked := by
  rw [Sockets.Masked, h.fds, h.chooserFd, h.mask, h.top]
  exact ht.mono h.process

lemma FdStep.masked (h : FdStep env t t') (ht : t.Masked leaked) : t'.Masked leaked := by
  cases h with
  | same hsame _ => exact hsame.masked ht
  | opened fd hfresh hfds hchooser hmask htop _ hsub hnew =>
    rw [Sockets.Masked, hfds, hchooser, hmask, htop]
    exact ht.opened hfresh hsub hnew
  | refused _ _ _ _ hsame => exact hsame.masked ht

/-- The descriptors are accounted for while the lines are read. -/
lemma walks_masked (hk : env.kernel.AssignsFree) : Walks env fun _ t => t.Masked leaked :=
  walks_of (fun _ _ ht => (wlp_openListener_fds hk).mono fun _ _ h => h.masked ht)
    fun _ _ h ht => h.sameFds.masked ht

/-- The chooser socket and `CloseMask` are the same. -/
def SameChooser (t t' : Sockets) : Prop := t'.chooserFd = t.chooserFd ∧ t'.closeMask = t.closeMask

instance : Std.Refl SameChooser := ⟨fun _ => ⟨rfl, rfl⟩⟩

instance : IsTrans Sockets SameChooser := ⟨fun _ _ _ h h' => ⟨h'.1.trans h.1, h'.2.trans h.2⟩⟩

lemma sameChooser_modify {f : Sockets → Sockets} (h : ∀ t, SameChooser t (f t)) :
    Respects SameChooser (modify f : Prog Sockets Unit) :=
  Keeps.modify fun t _ => ⟨trivial, h t⟩

lemma sameChooser_destroyListeningSocket {s : ListenSock} :
    Respects SameChooser (destroyListeningSocket s) :=
  Keeps.bind (sameChooser_modify fun _ => ⟨rfl, rfl⟩) fun _ =>
    sameChooser_modify fun _ => ⟨rfl, rfl⟩

lemma sameChooser_sweepSockets : ∀ {socks : List ListenSock},
    Respects SameChooser (sweepSockets socks)
  | [] => Keeps.pure _
  | s :: socks => by
    refine Keeps.ite (fun _ => Keeps.bind ?_ fun groups => Keeps.bind sameChooser_sweepSockets
      fun _ => Keeps.pure _) fun _ => Keeps.bind sameChooser_destroyListeningSocket
        fun _ => sameChooser_sweepSockets
    intro t _
    refine wp_sweepGroups.wlp.mono fun groups t' h => ⟨trivial, ?_⟩
    rw [h.2]
    exact ⟨rfl, rfl⟩

lemma wlp_sweepSockets_masked : ∀ {socks : List ListenSock} {pre post : List Nat} {t : Sockets},
    Xdm.Masked (pre ++ (socks.map ListenSock.fd ++ post)) t.wellKnownSocketsMask
      t.wellKnownSocketsMax t.process →
    Wlp (sweepSockets socks) (fun kept t' =>
      Xdm.Masked (pre ++ (kept.map ListenSock.fd ++ post)) t'.wellKnownSocketsMask
        t'.wellKnownSocketsMax t'.process) t
  | [], _, _, _, h => (wlp_pure _ _ _).2 h
  | s :: socks, pre, post, t, h => by
    refine wlp_ite (fun _ => ?_) fun _ => ?_
    · rw [wlp_bind]
      refine wp_sweepGroups.wlp.mono fun groups t₁ h₁ => ?_
      obtain ⟨-, ht₁⟩ := h₁
      rw [wlp_bind]
      have hnext : Xdm.Masked ((pre ++ [s.fd]) ++ (socks.map ListenSock.fd ++ post))
          t₁.wellKnownSocketsMask t₁.wellKnownSocketsMax t₁.process := by
        rw [ht₁, List.append_assoc]
        exact h
      refine (wlp_sweepSockets_masked hnext).mono fun kept t₂ h₂ => (wlp_pure _ _ _).2 ?_
      rw [List.append_assoc] at h₂
      exact h₂
    · simp only [destroyListeningSocket, closeFd, wlp_bind, wlp_modify]
      exact wlp_sweepSockets_masked (h.perm List.perm_middle).closed

/-- The sockets are closed one after the other. -/
lemma wlp_forM_destroyListeningSocket : ∀ {socks : List ListenSock} {post : List Nat}
    {t : Sockets}, Xdm.Masked (socks.map ListenSock.fd ++ post) t.wellKnownSocketsMask
      t.wellKnownSocketsMax t.process →
    Wlp (socks.forM destroyListeningSocket) (fun _ t' => Xdm.Masked post t'.wellKnownSocketsMask
      t'.wellKnownSocketsMax t'.process) t
  | [], _, _, h => (wlp_pure _ _ _).2 h
  | s :: socks, _, _, h => by
    refine (wlp_bind _ _ _ _).2 ?_
    simp only [destroyListeningSocket, closeFd, wlp_bind, wlp_modify]
    exact wlp_forM_destroyListeningSocket h.closed

lemma wlp_closeListenSockets (ht : t.Masked leaked) :
    Wlp closeListenSockets (fun _ t' => t'.listensocks = [] ∧ t'.Masked leaked ∧
      SameChooser t t') t := by
  rw [closeListenSockets, wlp_bind, wlp_get, wlp_bind]
  have hsame : Respects SameChooser (t.listensocks.forM destroyListeningSocket) :=
    Keeps.forM fun _ _ => sameChooser_destroyListeningSocket
  refine ((wlp_forM_destroyListeningSocket ht).and (hsame t trivial)).mono fun _ t₁ h₁ =>
    (wlp_modify _ _ _).2 ⟨rfl, ?_, h₁.2.2⟩
  have hchooser : t₁.chooserFd.toList = t.chooserFd.toList := congrArg Option.toList h₁.2.2.1
  show Xdm.Masked ([] ++ (t₁.chooserFd.toList ++ leaked)) _ _ _
  rw [hchooser]
  exact h₁.1

lemma wlp_destroyWellKnownSockets (ht : t.Masked leaked) :
    Wlp destroyWellKnownSockets (fun _ t' => t'.listensocks = [] ∧ t'.Masked leaked) t := by
  have hrest : ∀ {t : Sockets}, t.Masked leaked →
      Wlp closeListenSockets (fun _ t' => t'.listensocks = [] ∧ t'.Masked leaked) t :=
    fun ht => (wlp_closeListenSockets ht).mono fun _ _ h => ⟨h.1, h.2.1⟩
  rw [destroyWellKnownSockets, wlp_bind, wlp_get]
  cases hchooser : t.chooserFd with
  | none => exact (wlp_bind _ _ _ _).2 ((wlp_pure _ _ _).2 (hrest ht))
  | some fd =>
    simp only [closeFd, wlp_bind, wlp_modify]
    refine hrest ?_
    rw [Sockets.Masked, hchooser] at ht
    exact (ht.perm List.perm_middle).closed

lemma wlp_socket_fds {family : AddrFamily} (hk : env.kernel.AssignsFree) (ht : t.Masked leaked) :
    Wlp (env.socket family) (fun r t' => t'.Masked leaked ∧ t'.listensocks = t.listensocks ∧
      t'.chooserFd = t.chooserFd ∧ ∀ fd, r = some fd →
        Xdm.Masked (fd :: (t.fds ++ (t.chooserFd.toList ++ leaked)))
          (fdSet fd t'.wellKnownSocketsMask) (max t'.wellKnownSocketsMax fd) t'.process) t := by
  simp only [SocketEnv.socket, wlp_bind, wlp_get, wlp_set, wlp_pure]
  cases hsocket : env.kernel.socket t.calls t.process family with
  | none => exact ⟨ht, trivial, trivial, fun fd hfd => (Option.some_ne_none fd hfd.symm).elim⟩
  | some fd =>
    have hsub : ∀ x ∈ t.process, ∃ y ∈ OpenSocket.mk fd none :: t.process, y.fd = x.fd :=
      fun x hx => ⟨x, List.mem_cons_of_mem _ hx, rfl⟩
    refine ⟨ht.mono hsub, trivial, trivial, fun fd' hfd => ?_⟩
    obtain rfl := Option.some.inj hfd
    exact ht.opened (hk _ _ _ _ hsocket).2 hsub ⟨_, List.mem_cons_self .., rfl⟩

/-- A chooser socket that is open is lost. -/
lemma wlp_createWellKnownSockets (hk : env.kernel.AssignsFree) (ht : t.Masked leaked) :
    Wlp (createWellKnownSockets env) (fun _ t' => t'.listensocks = t.listensocks ∧
      t'.Masked (if env.requestPort = 0 then leaked else t.chooserFd.toList ++ leaked)) t := by
  refine wlp_ite (fun hport => ?_) fun hport => (wlp_pure _ _ _).2 ?_
  · rw [if_neg hport]
    have hset : ∀ {t₁ : Sockets} {fd : Nat}, t₁.listensocks = t.listensocks →
        Xdm.Masked (fd :: (t.fds ++ (t.chooserFd.toList ++ leaked)))
          (fdSet fd t₁.wellKnownSocketsMask) (max t₁.wellKnownSocketsMax fd) t₁.process →
        Wlp (setChooserFd (some fd)) (fun _ t' => t'.listensocks = t.listensocks ∧
          t'.Masked (t.chooserFd.toList ++ leaked)) t₁ := by
      intro t₁ fd hsocks h
      refine (wlp_bind _ _ _ _).2 ((wlp_modify _ _ _).2 ((wlp_modify _ _ _).2 ⟨hsocks, ?_⟩))
      rw [Sockets.Masked, Sockets.fds, hsocks]
      exact h.perm List.perm_middle.symm
    rw [wlp_bind]
    refine (wlp_socket_fds hk ht).mono fun r t₁ h₁ => ?_
    obtain ⟨ht₁, hsocks₁, hchooser₁, hnew₁⟩ := h₁
    cases r with
    | some fd => exact hset hsocks₁ (hnew₁ fd rfl)
    | none =>
      rw [wlp_bind]
      refine (wlp_socket_fds hk ht₁).mono fun r t₂ h₂ => ?_
      obtain ⟨ht₂, hsocks₂, hchooser₂, hnew₂⟩ := h₂
      rw [Sockets.fds, hsocks₁, hchooser₁] at hnew₂
      cases r with
      | some fd => exact hset (hsocks₂.trans hsocks₁) (hnew₂ fd rfl)
      | none =>
        refine (wlp_bind _ _ _ _).2 ((wlp_modify _ _ _).2 ((wlp_pure _ _ _).2
          ⟨hsocks₂.trans hsocks₁, ?_⟩))
        rw [Sockets.Masked, hchooser₂, hchooser₁] at ht₂
        exact ht₂
  · rw [if_pos (not_not.1 hport)]
    exact ⟨rfl, ht⟩

lemma wlp_updateListenSockets_masked {database : List DisplayEntry} (hk : env.kernel.AssignsFree)
    (hw : t.WellFormed) (ht : t.Masked leaked) :
    Wlp (updateListenSockets env database) (fun _ t' => t'.WellFormed ∧ t'.Masked leaked) t := by
  have hclear : Sockets.Masked leaked { t with listensocks := t.listensocks.map clearRefs } := by
    rw [Sockets.Masked, Sockets.fds, List.map_map]
    exact ht
  refine ((walks_masked hk).wlp_updateListenSockets hw hclear).mono fun _ t' h => ?_
  obtain ⟨done, -, -, hswept, t₁, t₂, ht₁, hsweep, rfl⟩ := h
  have ht₁' : Xdm.Masked ([] ++ (t₁.listensocks.map ListenSock.fd ++
      (t₁.chooserFd.toList ++ leaked))) t₁.wellKnownSocketsMask t₁.wellKnownSocketsMax
      t₁.process := ht₁
  rw [← (sameChooser_sweepSockets _ trivial _ _ hsweep).2.1] at ht₁'
  have ht₂ := wlp_sweepSockets_masked ht₁' _ _ hsweep
  exact ⟨hswept.wellFormed, ht₂⟩

/-! ### Runs -/

/-- `CreateWellKnownSockets` is called although there is a chooser socket. -/
def Reopens (x : Step Sockets SocketCall) : Prop :=
  ∃ env, x.input = .create env ∧ env.requestPort ≠ 0 ∧ x.pre.chooserFd.isSome = true

/-- One call: all the descriptors are accounted for, and one is lost if the chooser socket is
opened once more. -/
lemma SocketCall.masked {call : SocketCall} (hfree : call.AssignsFree) (hw : t.WellFormed)
    (ht : t.Masked leaked) (hrun : call.run t = some ((), t')) :
    t'.WellFormed ∧ ∃ leaked', t'.Masked leaked' ∧
      (leaked' = [] ↔ leaked = [] ∧ ¬ Reopens ⟨t, call, t'⟩) := by
  have hempty : t'.listensocks = [] → t'.WellFormed := by
    intro hnil
    refine ⟨?_, ?_⟩
    · rw [hnil]
      exact List.nodup_nil
    · rw [hnil]
      exact List.forall_mem_nil _
  cases call with
  | create env =>
    obtain ⟨hsocks, ht'⟩ := wlp_createWellKnownSockets hfree ht _ _ hrun
    refine ⟨⟨hsocks ▸ hw.distinct, hsocks ▸ hw.groups⟩, _, ht', ?_⟩
    have hreopens : Reopens ⟨t, .create env, t'⟩ ↔
        env.requestPort ≠ 0 ∧ t.chooserFd.isSome = true := by
      constructor
      · rintro ⟨env', henv, h⟩
        obtain rfl := SocketCall.create.inj henv
        exact h
      · exact fun h => ⟨env, rfl, h⟩
    rw [hreopens]
    by_cases hport : env.requestPort = 0
    · simp [hport]
    · cases hchooser : t.chooserFd with
      | none => simp [hport]
      | some fd => simp [hport]
  | update env database =>
    obtain ⟨hw', ht'⟩ := wlp_updateListenSockets_masked hfree hw ht _ _ hrun
    exact ⟨hw', leaked, ht', (and_iff_left fun ⟨_, h, _⟩ => nomatch h).symm⟩
  | close =>
    obtain ⟨hnil, ht', -⟩ := wlp_closeListenSockets ht _ _ hrun
    exact ⟨hempty hnil, leaked, ht', (and_iff_left fun ⟨_, h, _⟩ => nomatch h).symm⟩
  | destroy =>
    obtain ⟨hnil, ht'⟩ := wlp_destroyWellKnownSockets ht _ _ hrun
    exact ⟨hempty hnil, leaked, ht', (and_iff_left fun ⟨_, h, _⟩ => nomatch h).symm⟩

lemma masked_start : Sockets.start.Masked [] where
  nodup := List.nodup_nil
  mem_mask _ := Iff.rfl
  le_top := List.forall_mem_nil _
  isOpen := List.forall_mem_nil _

variable {h : List (Step Sockets SocketCall)}

/-- After every run the descriptors are accounted for. -/
lemma run_masked (run : Run SocketCall.run Sockets.start h t)
    (hfree : ∀ x ∈ h, x.input.AssignsFree) :
    t.WellFormed ∧ ∃ leaked, t.Masked leaked ∧ (leaked = [] ↔ ∀ x ∈ h, ¬ Reopens x) := by
  refine run.invariant_of (C := fun x => x.input.AssignsFree)
    (I := fun h t => t.WellFormed ∧ ∃ leaked, t.Masked leaked ∧
      (leaked = [] ↔ ∀ x ∈ h, ¬ Reopens x)) ?_ ?_ hfree
  · exact ⟨wellFormed_start, [], masked_start, by simp⟩
  · intro h t call t' _ hI hrun hcall
    obtain ⟨hw, leaked, ht, hleaked⟩ := hI
    obtain ⟨hw', leaked', ht', hleaked'⟩ := SocketCall.masked hcall hw ht hrun
    refine ⟨hw', leaked', ht', ?_⟩
    rw [hleaked', hleaked, List.forall_mem_append, List.forall_mem_singleton]

/-- The daemon knows what it waits for. -/
structure Sockets.Known (t : Sockets) : Prop where
  mask : ∀ fd, fd ∈ t.wellKnownSocketsMask ↔
    t.chooserFd = some fd ∨ ∃ s ∈ t.listensocks, s.fd = fd
  top : ∀ fd ∈ t.wellKnownSocketsMask, fd ≤ t.wellKnownSocketsMax
  isOpen : ∀ fd ∈ t.wellKnownSocketsMask, ∃ x ∈ t.process, x.fd = fd
  any : anyWellKnownSockets t = true ↔ t.chooserFd.isSome = true ∨ ∃ s, s ∈ t.listensocks

lemma mem_fds : fd ∈ t.fds ↔ ∃ s ∈ t.listensocks, s.fd = fd := List.mem_map

lemma Sockets.Masked.mem_mask (ht : t.Masked leaked) : fd ∈ t.wellKnownSocketsMask ↔
    (t.chooserFd = some fd ∨ ∃ s ∈ t.listensocks, s.fd = fd) ∨ fd ∈ leaked := by
  refine (Xdm.Masked.mem_mask ht fd).trans ?_
  rw [List.mem_append, List.mem_append, Option.mem_toList, mem_fds, ← or_assoc]
  exact or_congr_left or_comm

/-- `FD_ANYSET` sees the descriptors below 64. -/
lemma anyWellKnownSockets_iff : anyWellKnownSockets t = true ↔
    t.chooserFd.isSome = true ∨ ∃ fd ∈ t.wellKnownSocketsMask, fd < 64 := by
  simp [anyWellKnownSockets, fdAnyset]

lemma Sockets.Masked.known_iff (ht : t.Masked leaked) : t.Known ↔ leaked = [] ∧
    (t.chooserFd.isSome = true ∨ t.listensocks = [] ∨ ∃ s ∈ t.listensocks, s.fd < 64) := by
  constructor
  · intro hk
    have hleaked : leaked = [] := by
      refine List.eq_nil_iff_forall_not_mem.2 fun fd hfd => ?_
      have hnodup := List.nodup_append.1 (Xdm.Masked.nodup ht)
      have hrest := List.nodup_append.1 hnodup.2.1
      -- what is lost is in the mask, but it is not known
      rcases (hk.mask fd).1 (ht.mem_mask.2 (Or.inr hfd)) with hchooser | hlisten
      · exact hrest.2.2 fd (Option.mem_toList.2 hchooser) fd hfd rfl
      · exact hnodup.2.2 fd (mem_fds.2 hlisten) fd (List.mem_append_right _ hfd) rfl
    refine ⟨hleaked, ?_⟩
    by_contra hnone
    simp only [not_or, not_exists, not_and] at hnone
    obtain ⟨hchooser, hlisten, hhigh⟩ := hnone
    obtain ⟨s, hs⟩ := List.exists_mem_of_ne_nil _ hlisten
    -- a listening socket is open, but it is not seen
    rcases anyWellKnownSockets_iff.1 (hk.any.2 (Or.inr ⟨s, hs⟩)) with hsome | ⟨fd, hfd, hlow⟩
    · exact hchooser hsome
    · rcases (hk.mask fd).1 hfd with hsome | ⟨s', hs', rfl⟩
      · exact hchooser (hsome ▸ rfl)
      · exact hhigh s' hs' hlow
  · rintro ⟨rfl, hseen⟩
    have hmask : ∀ fd, fd ∈ t.wellKnownSocketsMask ↔
        t.chooserFd = some fd ∨ ∃ s ∈ t.listensocks, s.fd = fd := by
      intro fd
      rw [ht.mem_mask]
      exact or_iff_left List.not_mem_nil
    refine ⟨hmask, fun fd hfd => ?_, fun fd hfd => ?_, anyWellKnownSockets_iff.trans ?_⟩
    · exact Xdm.Masked.le_top ht fd ((Xdm.Masked.mem_mask ht fd).1 hfd)
    · exact Xdm.Masked.isOpen ht fd ((Xdm.Masked.mem_mask ht fd).1 hfd)
    · constructor
      · rintro (hsome | ⟨fd, hfd, -⟩)
        · exact Or.inl hsome
        · rcases (hmask fd).1 hfd with hsome | ⟨s, hs, -⟩
          · exact Or.inl (hsome ▸ rfl)
          · exact Or.inr ⟨s, hs⟩
      · rintro (hsome | ⟨s, hs⟩)
        · exact Or.inl hsome
        · rcases hseen with hsome | hnil | ⟨s', hs', hlow⟩
          · exact Or.inl hsome
          · rw [hnil] at hs
            exact absurd hs List.not_mem_nil
          · exact Or.inr ⟨s'.fd, (hmask _).2 (Or.inr ⟨s', hs', rfl⟩), hlow⟩

/-- After every run with free descriptors: the daemon knows what it waits for if and only if the
chooser socket has never been opened while it was open, and `FD_ANYSET` is not needed or sees
one of the listening sockets. -/
theorem run_known_iff (run : Run SocketCall.run Sockets.start h t)
    (hfree : ∀ x ∈ h, x.input.AssignsFree) :
    t.Known ↔ (∀ x ∈ h, ¬ Reopens x) ∧
      (t.chooserFd.isSome = true ∨ t.listensocks = [] ∨ ∃ s ∈ t.listensocks, s.fd < 64) := by
  obtain ⟨-, leaked, ht, hleaked⟩ := run_masked run hfree
  rw [← hleaked]
  exact ht.known_iff

/-- There is only one descriptor, and every address can be bound or none. -/
def SocketEnv.one (fd : Nat) (ok : Bool) : SocketEnv where
  requestPort := 177
  defaultMcastAddress := none
  macroLength _ := 0
  kernel := ⟨fun _ process _ => if process.any fun x => x.fd = fd then none else some fd,
    fun _ _ _ => ok⟩

lemma assignsFree_one {ok : Bool} (hfd : fd < fdSetsize) :
    (SocketEnv.one fd ok).kernel.AssignsFree := by
  intro n process family fd' hsocket
  simp only [SocketEnv.one] at hsocket
  split_ifs at hsocket with hany
  obtain rfl := Option.some.inj hsocket
  exact ⟨hfd, fun x hx heq => hany (List.any_eq_true.2 ⟨x, hx, by simpa using heq⟩)⟩

/-- A run of one call with this descriptor. -/
lemma exists_run_one {P : List (Step Sockets SocketCall) → Sockets → Prop}
    [∀ h t, Decidable (P h t)] (fd : Nat) (ok : Bool) (hfd : fd < fdSetsize)
    (htest : (exec SocketCall.run [] Sockets.start [.update (.one fd ok) []]).any
      (fun p => decide (P p.1 p.2)) = true) :
    ∃ h t, Run SocketCall.run Sockets.start h t ∧ (∀ x ∈ h, x.input.AssignsFree) ∧
      (∀ x ∈ h, x.input = .update (.one fd ok) []) ∧ P h t := by
  obtain ⟨h, t, run, hinput, hP⟩ := exists_run_on _ htest
  refine ⟨h, t, run, fun x hx => ?_, fun x hx => input_of_mem hinput hx, hP⟩
  rw [input_of_mem hinput hx]
  exact assignsFree_one hfd

theorem run_known_iff_three : ∃ h t, Run SocketCall.run Sockets.start h t ∧ t.fds = [3] ∧
    (t.Known ↔ (∀ x ∈ h, ¬ Reopens x) ∧
      (t.chooserFd.isSome = true ∨ t.listensocks = [] ∨ ∃ s ∈ t.listensocks, s.fd < 64)) := by
  obtain ⟨h, t, run, hfree, -, hfds⟩ := exists_run_one (P := fun _ t => t.fds = [3]) 3 true
    (by decide) (by decide +kernel)
  exact ⟨h, t, run, hfds, run_known_iff run hfree⟩

/-- A listening socket with a high descriptor is not seen. -/
theorem run_unknown : ∃ h t, Run SocketCall.run Sockets.start h t ∧
    (∀ x ∈ h, x.input.AssignsFree) ∧ t.fds = [64] ∧ ¬ t.Known := by
  obtain ⟨h, t, run, hfree, -, hfds, hany⟩ := exists_run_one
    (P := fun _ t => t.fds = [64] ∧ anyWellKnownSockets t = false) 64 true (by decide)
    (by decide +kernel)
  refine ⟨h, t, run, hfree, hfds, fun hknown => ?_⟩
  obtain ⟨s, hs, -⟩ := mem_fds.1 (hfds ▸ List.mem_singleton_self 64)
  exact absurd (hknown.any.2 (Or.inr ⟨s, hs⟩)) (by simp [hany])

end Xdm
