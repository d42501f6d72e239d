/-
# The descriptors that a child closes

`CreateListeningSocket` registers each descriptor in `CloseMask`, and nothing ever takes it out
again.  So the mask is right as long as no socket is closed (`run_onlyLive`): none fails to be
bound, each is named again by the lines, and none is there to be closed.
-/
import Xdm.Sockets.Mask
import Xdm.Sockets.Restart

namespace Xdm

open Prog

variable {env : SocketEnv} {t t' : Sockets} {a : ARRAY8} {addr : ListenAddr} {r : Option ARRAY8}
variable {old : List ListenSock} {o : ListenSock} {database : List DisplayEntry}

/-! ### Sockets that are kept -/

/-- The kernel has no sockets for IPv6. -/
def SocketKernel.OnlyInet (kernel : SocketKernel) : Prop :=
  ∀ n process, kernel.socket n process .inet6 = none

/-- A line asks for the address, if sockets with the addresses of `old` are there. -/
def Renamed (env : SocketEnv) (database : List DisplayEntry) (old : List ListenSock)
    (a : ARRAY8) : Prop :=
  ∃ line ∈ listenLines env.defaultMcastAddress database,
    line.1.hostAddress env = .bytes a ∨ (line.1.hostAddress env).length = 0 ∧
      (a = in6addrAny ∨ a = inaddrAny ∧ (∀ o ∈ old, o.data ≠ in6addrAny) ∧ env.kernel.OnlyInet)

/-- One of the calls of `socket` from now on can be refused. -/
def SocketKernel.Refuses (kernel : SocketKernel) (calls : Nat) (family : AddrFamily) : Prop :=
  ∃ n process, calls ≤ n ∧ kernel.socket n process family = none

/-- What is passed on for a line asks for the address.  The IPv4 wildcard has its turn when there
is no socket for the IPv6 wildcard. -/
def AsksFor (env : SocketEnv) (t : Sockets) (addr : ListenAddr) (a : ARRAY8) : Prop :=
  addr = .bytes a ∨ addr.length = 0 ∧ (a = in6addrAny ∨ a = inaddrAny ∧
    (∀ o ∈ t.listensocks, o.data ≠ in6addrAny) ∧ env.kernel.Refuses t.calls .inet6)

/-- An address for which the update opens a socket. -/
structure Wanted (env : SocketEnv) (database : List DisplayEntry) (t : Sockets)
    (addr : InetAddr) : Prop where
  new : ∀ o ∈ t.listensocks, o.data ≠ addr.data
  asked : ∃ line ∈ listenLines env.defaultMcastAddress database,
    AsksFor env t (line.1.hostAddress env) addr.data
  port : addr.port = portBytes env.requestPort
  opens : ∃ n process, t.calls ≤ n ∧ env.kernel.socket n process addr.family ≠ none

/-- What is open when the update calls `bind` for the address: what was open before, sockets that
are not bound, and sockets for the other addresses. -/
def OpenFor (env : SocketEnv) (database : List DisplayEntry) (t : Sockets) (addr : InetAddr)
    (process : List OpenSocket) : Prop :=
  ∀ x ∈ process, x ∈ t.process ∨ x.bound = none ∨
    ∃ b, x.bound = some b ∧ Wanted env database t b ∧ b.data ≠ addr.data

/-- The kernel refuses none of the addresses for which the update opens sockets. -/
def Binds (env : SocketEnv) (database : List DisplayEntry) (t : Sockets) : Prop :=
  ∀ n process addr, t.calls ≤ n → Wanted env database t addr →
    OpenFor env database t addr process → env.kernel.bind n process addr = true

/-- The call closes no listening socket. -/
def SocketCall.Retains : SocketCall → Sockets → Prop
  | .create _, _ => True
  | .update env database, t => Binds env database t ∧
      ∀ s ∈ t.listensocks, Renamed env database t.listensocks s.data
  | .close, t => t.listensocks = []
  | .destroy, t => t.listensocks = []

/-- The descriptors in `CloseMask` are those of open listening sockets. -/
def Sockets.OnlyLive (t : Sockets) : Prop :=
  ∀ fd ∈ t.closeMask, (∃ s ∈ t.listensocks, s.fd = fd) ∧ ∃ x ∈ t.process, x.fd = fd

/-! ### Reading the lines -/

/-- While the lines are read in an update of `old`: the registered descriptors are those of the
list, the sockets of `old` are there, and what has been opened is bound to addresses of the list
that the lines ask for. -/
structure Retained (env : SocketEnv) (database : List DisplayEntry) (old t : Sockets) :
    Prop where
  closeMask : ∀ fd ∈ t.closeMask, fd ∈ t.fds
  calls : old.calls ≤ t.calls
  kept : ∀ o ∈ old.listensocks, ∃ s ∈ t.listensocks, s.data = o.data
  process : ∀ x ∈ t.process, x ∈ old.process ∨ x.bound = none ∨
    ∃ b, x.bound = some b ∧ Wanted env database old b ∧ ∃ s ∈ t.listensocks, s.data = b.data

/-- The address is one that a line asks for, if it is one at all. -/
def Requested (env : SocketEnv) (database : List DisplayEntry) (old : Sockets) (a : ARRAY8) :
    Prop :=
  env.requestPort ≠ 0 → IsInet a → ∃ line ∈ listenLines env.defaultMcastAddress database,
    AsksFor env old (line.1.hostAddress env) a

lemma Retained.openFor {old : Sockets} {addr : InetAddr} (h : Retained env database old t)
    (hnew : ∀ s ∈ t.listensocks, s.data ≠ addr.data) :
    OpenFor env database old addr t.process := by
  intro x hx
  refine (h.process x hx).imp_right fun h => h.imp_right ?_
  rintro ⟨b, hb, hwanted, s, hs, hdata⟩
  exact ⟨b, hb, hwanted, hdata ▸ hnew s hs⟩

/-- The list has changed, but neither its descriptors nor its addresses. -/
lemma Retained.modified {old : Sockets} (h : Retained env database old t)
    {l : List ListenSock} (hfds : l.map ListenSock.fd = t.fds)
    (hdata : ∀ s ∈ t.listensocks, ∃ s' ∈ l, s'.data = s.data) :
    Retained env database old { t with listensocks := l } where
  closeMask fd hfd := by
    rw [Sockets.fds, hfds]
    exact h.closeMask fd hfd
  calls := h.calls
  kept o ho := by
    obtain ⟨s, hs, hso⟩ := h.kept o ho
    obtain ⟨s', hs', hss⟩ := hdata s hs
    exact ⟨s', hs', hss.trans hso⟩
  process x hx := by
    refine (h.process x hx).imp_right fun h => h.imp_right ?_
    rintro ⟨b, hb, hwanted, s, hs, hsb⟩
    obtain ⟨s', hs', hss⟩ := hdata s hs
    exact ⟨b, hb, hwanted, s', hs', hss.trans hsb⟩

/-- A new socket has been bound. -/
lemma Retained.opened {old : Sockets} {addr : InetAddr} {fd : Nat}
    (h : Retained env database old t) (hwanted : Wanted env database old addr)
    (ht' : t'.listensocks = ⟨addr, [], fd, true⟩ :: t.listensocks)
    (hmask : t'.closeMask = fdSet fd t.closeMask) (hcalls : t.calls ≤ t'.calls)
    (hprocess : t'.process = Keyed.modify OpenSocket.fd fd
      (fun x => { x with bound := some addr }) (⟨fd, none⟩ :: t.process)) :
    Retained env database old t' where
  closeMask x hx := by
    rw [Sockets.fds, ht', List.map_cons]
    rw [hmask] at hx
    rcases mem_fdSet.1 hx with rfl | hx
    · exact List.mem_cons_self ..
    · exact List.mem_cons_of_mem _ (h.closeMask x hx)
  calls := Nat.le_trans h.calls hcalls
  kept o ho := by
    obtain ⟨s, hs, hso⟩ := h.kept o ho
    exact ⟨s, ht' ▸ List.mem_cons_of_mem _ hs, hso⟩
  process x hx := by
    rw [hprocess] at hx
    rw [ht']
    rcases Keyed.mem_modify.1 hx with ⟨_, _, _, rfl⟩ | ⟨hx, hne⟩
    · exact Or.inr (Or.inr ⟨addr, rfl, hwanted, _, List.mem_cons_self .., rfl⟩)
    · rcases List.mem_cons.1 hx with rfl | hx
      · exact absurd rfl hne
      refine (h.process x hx).imp_right fun h => h.imp_right ?_
      rintro ⟨b, hb, hwanted, s, hs, hsb⟩
      exact ⟨b, hb, hwanted, s, List.mem_cons_of_mem _ hs, hsb⟩

/-- A socket is opened, unless the kernel refuses one of the family. -/
lemma wlp_openListener_retained {old : Sockets} (hbinds : Binds env database old)
    (h : Retained env database old t) (hasked : Requested env database old a) :
    Wlp (openListener env a) (fun r t' => Retained env database old t' ∧
      (r = none → (∀ o ∈ old.listensocks, o.data ≠ a) ∧ (env.requestPort ≠ 0 →
        ∀ addr : InetAddr, addr.data = a → env.kernel.Refuses old.calls addr.family))) t := by
  have hfresh : (∀ s ∈ t.listensocks, s.data ≠ a) → ∀ o ∈ old.listensocks, o.data ≠ a := by
    rintro hnew o ho rfl
    obtain ⟨s, hs, hdata⟩ := h.kept o ho
    exact hnew s hs hdata
  refine wlp_openListener_of (fun _ => ⟨?_, fun hr => by cases hr⟩)
    (fun hnew hentry => ⟨h, fun _ => ⟨hfresh hnew, fun _ addr hdata => ?_⟩⟩)
    fun addr hnew hdata hport => ?_
  · refine h.modified (Keyed.map_modify fun _ _ _ => rfl) fun s hs => ?_
    obtain ⟨s', hs', haddr, -⟩ := covers_modify (f := fun s => { s with ref := true })
      (fun _ => ⟨rfl, rfl⟩) s hs
    exact ⟨s', hs', congrArg InetAddr.data haddr⟩
  · rw [createSocklistEntry_isInet (hdata ▸ addr.length)] at hentry
    cases hentry
  subst hdata
  rw [createListeningSocket]
  refine wlp_ite (fun hzero => (wlp_pure _ _ _).2 ⟨fun _ => ⟨h, fun _ =>
    ⟨hfresh hnew, fun hne => absurd hzero hne⟩⟩, fun fd hfd => by cases hfd⟩) fun hne => ?_
  simp only [SocketEnv.socket, wlp_bind, wlp_get, wlp_set, wlp_pure]
  cases hsocket : env.kernel.socket t.calls t.process addr.family with
  | none =>
    refine (wlp_pure _ _ _).2 ⟨fun _ => ⟨⟨h.closeMask, Nat.le_succ_of_le h.calls, h.kept,
      h.process⟩, fun _ => ⟨hfresh hnew, fun _ addr' hdata => ?_⟩⟩, fun fd hfd => by cases hfd⟩
    rw [InetAddr.family, hdata]
    exact ⟨_, _, h.calls, hsocket⟩
  | some fd =>
    have hwanted : Wanted env database old addr := ⟨hfresh hnew, hasked hne addr.length, hport,
      ⟨_, _, h.calls, by rw [hsocket]; exact Option.some_ne_none _⟩⟩
    have hopen : OpenFor env database old addr (⟨fd, none⟩ :: t.process) :=
      List.forall_mem_cons.2 ⟨Or.inr (Or.inl rfl), h.openFor hnew⟩
    simp only [registerCloseOnFork, SocketEnv.bind, wlp_bind, wlp_get, wlp_set, wlp_modify,
      wlp_pure, Option.map_some, Option.toList_some, List.singleton_append]
    rw [hbinds _ _ _ (Nat.le_succ_of_le h.calls) hwanted hopen]
    simp only [if_true, addWellKnownSocket, wlp_bind, wlp_modify, wlp_pure]
    refine ⟨fun h => (Option.some_ne_none fd h).elim, fun fd' hfd => ⟨?_, fun h => by cases h⟩⟩
    obtain rfl := Option.some.inj hfd
    exact h.opened hwanted rfl rfl (by simp only; omega) rfl

/-- The lines that have been read are lines of the update. -/
def AreLines (env : SocketEnv) (database : List DisplayEntry) (done : List LineRead) : Prop :=
  ∀ x ∈ done, ∃ line ∈ listenLines env.defaultMcastAddress database,
    line.1.hostAddress env = x.first

lemma wlp_updateListener_retained {old : Sockets} {c : Option ARRAY8}
    (hbinds : Binds env database old) (h : Retained env database old t)
    (hline : ∃ line ∈ listenLines env.defaultMcastAddress database,
      line.1.hostAddress env = addr) :
    Wlp (updateListener env addr c) (fun _ => Retained env database old) t := by
  obtain ⟨line, hline, rfl⟩ := hline
  refine wlp_ite (fun hzero => ?_) fun hzero => ?_
  · rw [wlp_bind]
    refine (wlp_openListener_retained hbinds h fun _ _ =>
      ⟨line, hline, Or.inr ⟨hzero, Or.inl rfl⟩⟩).mono fun r t₁ h₁ => ?_
    obtain ⟨h₁, hnone⟩ := h₁
    cases r with
    | some data => exact (wlp_pure _ _ _).2 h₁
    | none =>
      obtain ⟨hno6, hrefuses⟩ := hnone rfl
      refine (wlp_openListener_retained hbinds h₁ fun hne _ =>
        ⟨line, hline, Or.inr ⟨hzero, Or.inr ⟨rfl, hno6, ?_⟩⟩⟩).mono fun _ _ h => h.1
      exact hrefuses hne ⟨portBytes 0, in6addrAny, Or.inr rfl⟩ rfl
  · rw [wlp_bind]
    refine wlp_read (fun b hb => ?_) fun b _ h4 h16 => ?_
    · exact (wlp_openListener_retained hbinds h fun _ _ =>
        ⟨line, hline, Or.inl hb⟩).mono fun _ _ h => h.1
    · exact (wlp_openListener_retained hbinds h fun _ hinet =>
        absurd hinet (not_or.2 ⟨h4, h16⟩)).mono fun _ _ h => h.1

lemma OnlyGroups.retained {old : Sockets} (h : OnlyGroups t t')
    (ht : Retained env database old t) : Retained env database old t' := by
  have hdata : ∀ s ∈ t.listensocks, ∃ s' ∈ t'.listensocks, s'.data = s.data := by
    intro s hs
    obtain ⟨s', hs', hbare⟩ := List.mem_map.1 (h.bare ▸ List.mem_map_of_mem hs)
    exact ⟨s', hs', congrArg (fun s => s.addr.data) hbare⟩
  rw [h.rest]
  exact ⟨fun fd hfd => (ht.modified h.sameFds.fds hdata).closeMask fd hfd, ht.calls,
    (ht.modified h.sameFds.fds hdata).kept, (ht.modified h.sameFds.fds hdata).process⟩

lemma walks_retained {old : Sockets} (hbinds : Binds env database old) :
    Walks env fun done t => AreLines env database done → Retained env database old t where
  line {done addr c t} ht := by
    -- only the address of the line matters here, not what it has been resolved to
    by_cases hlines : AreLines env database (⟨addr, none, []⟩ :: done)
    · obtain ⟨hline, hdone⟩ := List.forall_mem_cons.1 hlines
      exact (wlp_updateListener_retained hbinds (ht hdone) hline).mono fun _ _ h _ => h
    · intro r t' _ hnot
      refine absurd ?_ hlines
      exact List.forall_mem_cons.2 (List.forall_mem_cons.1 hnot)
  group {done passed r gs addr t} ht := by
    refine (onlyGroups_updateMcastGroup t trivial).mono fun _ _ h hlines => h.2.retained (ht ?_)
    exact List.forall_mem_cons.2 (List.forall_mem_cons.1 hlines)

/-- A socket that was not there before is marked. -/
lemma walks_old : Walks env fun _ t =>
    ∀ s ∈ t.listensocks, s.ref = true ∨ ∃ o ∈ old, o.data = s.data := by
  refine walks_of (fun a t ht => wlp_openListener.mono fun r t' h => ?_) fun t t' h ht s' hs' => ?_
  · generalize t'.listensocks = l' at h
    cases h with
    | kept _ =>
      intro s hs
      rcases Keyed.mem_modify.1 hs with ⟨_, _, _, rfl⟩ | ⟨hs, _⟩
      · exact Or.inl rfl
      · exact ht s hs
    | opened s _ _ href _ => exact List.forall_mem_cons.2 ⟨Or.inl href, ht⟩
    | failed _ => exact ht
  · obtain ⟨s, hs, haddr, href⟩ := h.exists_bare hs'
    have hdata : s.data = s'.data := congrArg InetAddr.data haddr
    rw [← href, ← hdata]
    exact ht s hs

/-- There is no socket for IPv6 if the kernel has none. -/
lemma walks_onlyInet (hk : env.kernel.OnlyInet) :
    Walks env fun _ t => ∀ s ∈ t.listensocks, s.data ≠ in6addrAny := by
  refine walks_of (fun a t ht => ?_) fun t t' h ht s' hs' => ?_
  · by_cases ha : a = in6addrAny
    · subst ha
      have hentry : createSocklistEntry env in6addrAny =
          some ⟨portBytes env.requestPort, in6addrAny, Or.inr (by decide)⟩ :=
        createSocklistEntry_isInet _
      have hfind : findInList ListenSock.data t.listensocks in6addrAny = none :=
        List.find?_eq_none.2 fun s hs => by simpa using ht s hs
      have hfamily : InetAddr.family ⟨portBytes env.requestPort, in6addrAny, Or.inr (by decide)⟩ =
          .inet6 := InetAddr.family_eq_inet6.2 rfl
      rw [openListener, wlp_bind, wlp_get, hfind]
      dsimp only
      rw [hentry]
      dsimp only
      rw [wlp_bind, createListeningSocket]
      refine wlp_ite (fun _ => by simpa using ht) fun _ => ?_
      simp only [SocketEnv.socket, wlp_bind, wlp_get, wlp_set, wlp_pure, hfamily,
        hk t.calls t.process]
      exact ht
    · refine wlp_openListener.mono fun r t' h => ?_
      generalize t'.listensocks = l' at h
      cases h with
      | kept _ =>
        intro s hs
        rcases Keyed.mem_modify.1 hs with ⟨s₀, hs₀, _, rfl⟩ | ⟨hs, _⟩
        · exact ht s₀ hs₀
        · exact ht s hs
      | opened s _ hdata _ _ =>
        exact List.forall_mem_cons.2 ⟨fun heq => ha (hdata.symm.trans heq), ht⟩
      | failed _ => exact ht
  · obtain ⟨s, hs, haddr, -⟩ := h.exists_bare hs'
    have hdata : s.data = s'.data := congrArg InetAddr.data haddr
    rw [← hdata]
    exact ht s hs

/-- What is kept under a condition that does not change. -/
lemma Walks.imp {p : Prop} {I : List LineRead → Sockets → Prop} (h : p → Walks env I) :
    Walks env fun done t => p → I done t where
  line hI := fun r t' hrun hp => (h hp).line (hI hp) r t' hrun
  group hI := fun r t' hrun hp => (h hp).group (hI hp) r t' hrun

/-- The lines that ask for an address get the socket that there is for it. -/
lemma Resolves.renamed (h : Resolves old addr r) (ho : o ∈ old)
    (haddr : addr = .bytes o.data ∨ addr.length = 0 ∧ (o.data = in6addrAny ∨ o.data = inaddrAny ∧
      r ≠ some in6addrAny)) : r = some o.data := by
  have hne : o.data ≠ [] := fun hnil => absurd o.isInet (by simp [IsInet, hnil])
  cases h with
  | any6 hzero =>
    rcases haddr with rfl | ⟨-, heq | ⟨-, hno⟩⟩
    · exact absurd (List.eq_nil_of_length_eq_zero hzero) hne
    · rw [heq]
    · exact absurd rfl hno
  | any4 hzero hno6 =>
    rcases haddr with rfl | ⟨-, heq | ⟨heq, -⟩⟩
    · exact absurd (List.eq_nil_of_length_eq_zero hzero) hne
    · exact absurd heq (hno6 o ho)
    · rw [heq]
  | noAny hzero hno6 hno4 =>
    rcases haddr with rfl | ⟨-, heq | ⟨heq, -⟩⟩
    · exact absurd (List.eq_nil_of_length_eq_zero hzero) hne
    · exact absurd heq (hno6 o ho)
    · exact absurd heq (hno4 o ho)
  | address a ha =>
    rcases haddr with heq | ⟨hzero, -⟩
    · rw [ListenAddr.bytes.inj heq]
    · exact absurd (List.eq_nil_of_length_eq_zero hzero) ha
  | noAddress hlen hno =>
    rcases haddr with rfl | ⟨hzero, -⟩
    · exact absurd rfl (hno _ rfl o ho)
    · exact absurd hzero hlen

/-! ### Runs -/

/-- An update that closes nothing. -/
lemma wlp_updateListenSockets_closeMask (hw : t.WellFormed)
    (hretains : (SocketCall.update env database).Retains t)
    (ht : ∀ fd ∈ t.closeMask, fd ∈ t.fds) :
    Wlp (updateListenSockets env database) (fun _ t' => ∀ fd ∈ t'.closeMask, fd ∈ t'.fds) t := by
  obtain ⟨hbinds, hnamed⟩ := hretains
  have hmark : Walks env fun done t' =>
      (∀ x ∈ done, Resolves t.listensocks x.first x.sock) ∧
        Marked t.listensocks done t'.listensocks := walks_marked
  have hold : Walks env fun _ t' => ∀ s ∈ t'.listensocks,
      s.ref = true ∨ ∃ o ∈ t.listensocks, o.data = s.data := walks_old
  have hinet : Walks env fun _ t' => env.kernel.OnlyInet ∧ (∀ o ∈ t.listensocks,
      o.data ≠ in6addrAny) → ∀ s ∈ t'.listensocks, s.data ≠ in6addrAny :=
    Walks.imp fun h => walks_onlyInet h.1
  have hstart : ∀ s ∈ t.listensocks.map clearRefs, ∃ o ∈ t.listensocks, o.data = s.data := by
    intro s hs
    obtain ⟨o, ho, rfl⟩ := List.mem_map.1 hs
    exact ⟨o, ho, rfl⟩
  refine (((hmark.and (walks_retained hbinds)).and (hold.and hinet)).wlp_updateListenSockets hw
    ⟨⟨⟨List.forall_mem_nil _, hw.marked⟩, fun _ => ?_⟩, fun s hs => Or.inr (hstart s hs), ?_⟩).mono
    fun _ t' h => ?_
  · have hretained : Retained env database t t :=
      ⟨ht, Nat.le_refl _, fun o ho => ⟨o, ho, rfl⟩, fun x hx => Or.inl hx⟩
    refine hretained.modified ?_ fun s hs => ⟨_, List.mem_map_of_mem hs, rfl⟩
    rw [List.map_map]
    rfl
  · rintro ⟨-, hno6⟩ s hs
    obtain ⟨o, ho, hdata⟩ := hstart s hs
    exact hdata ▸ hno6 o ho
  · obtain ⟨done, hlines, hresolves, -, t₁, t₂, hI, hsweep, rfl⟩ := h
    obtain ⟨⟨⟨-, hmarked⟩, hretained⟩, hold, hinet⟩ := hI
    have hclose : ∀ fd ∈ t₁.closeMask, fd ∈ t₁.fds := by
      refine (hretained fun x hx => ?_).closeMask
      obtain ⟨line, hline, hread⟩ := exists_of_forall₂ hlines.flip (List.mem_reverse.1 hx)
      exact ⟨line, hline, hread.first.symm⟩
    -- every socket has been marked
    have href : ∀ s ∈ t₁.listensocks, s.ref = true := by
      intro s hs
      rcases hold s hs with href | ⟨o, ho, hdata⟩
      · exact href
      · obtain ⟨line, hline, haddr⟩ := hnamed o ho
        obtain ⟨x, hx, hread⟩ := exists_of_forall₂ hlines hline
        refine (hmarked.each s hs).ref.2 ⟨x, List.mem_reverse.2 hx, ?_⟩
        rw [← hdata]
        refine (hresolves x hx).renamed ho ?_
        rw [hread.first]
        refine haddr.imp_right fun h => ⟨h.1, h.2.imp_right fun h => ⟨h.1, fun h6 => ?_⟩⟩
        obtain ⟨s', hs', hs'6⟩ := hmarked.present x (List.mem_reverse.2 hx) _ h6
        exact hinet ⟨h.2.2, h.2.1⟩ s' hs' hs'6
    have hfds : (swept t₁.listensocks).map ListenSock.fd = t₁.fds := by
      rw [swept, List.filter_eq_self.2 href, List.map_map]
      rfl
    have hmask : t₂.closeMask = t₁.closeMask :=
      (sameChooser_sweepSockets _ trivial _ _ hsweep).2.2
    show ∀ fd ∈ t₂.closeMask, fd ∈ (swept t₁.listensocks).map ListenSock.fd
    rw [hmask, hfds]
    exact hclose

/-- `CloseMask` is the same. -/
def SameCloseMask (t t' : Sockets) : Prop := t'.closeMask = t.closeMask

instance : Std.Refl SameCloseMask := ⟨fun _ => rfl⟩

instance : IsTrans Sockets SameCloseMask := ⟨fun _ _ _ h h' => h'.trans h⟩

lemma sameCloseMask_modify {f : Sockets → Sockets} (h : ∀ t, (f t).closeMask = t.closeMask) :
    Respects SameCloseMask (modify f : Prog Sockets Unit) :=
  Keeps.modify fun t _ => ⟨trivial, h t⟩

lemma sameCloseMask_createWellKnownSockets :
    Respects SameCloseMask (createWellKnownSockets env) := by
  have hsocket : ∀ family, Respects SameCloseMask (env.socket family) := by
    intro family t _
    simp only [SocketEnv.socket, wlp_bind, wlp_get, wlp_set, wlp_pure]
    exact ⟨trivial, rfl⟩
  have hset : ∀ chooserFd, Respects SameCloseMask (setChooserFd chooserFd) := by
    intro chooserFd
    refine Keeps.bind (sameCloseMask_modify fun _ => rfl) fun _ => ?_
    cases chooserFd with
    | none => exact Keeps.pure _
    | some fd => exact sameCloseMask_modify fun _ => rfl
  refine Keeps.ite (fun _ => Keeps.bind (hsocket _) fun r => ?_) fun _ => Keeps.pure _
  cases r with
  | some fd => exact hset _
  | none => exact Keeps.bind (hsocket _) hset

lemma sameCloseMask_closeListenSockets : Respects SameCloseMask closeListenSockets := by
  refine Keeps.bind Keeps.get fun t => Keeps.bind (Keeps.forM fun s _ => ?_) fun _ =>
    sameCloseMask_modify fun _ => rfl
  exact Keeps.bind (sameCloseMask_modify fun _ => rfl) fun _ => sameCloseMask_modify fun _ => rfl

lemma sameCloseMask_destroyWellKnownSockets :
    Respects SameCloseMask destroyWellKnownSockets := by
  refine Keeps.bind Keeps.get fun t => ?_
  cases t.chooserFd with
  | none => exact sameCloseMask_closeListenSockets
  | some fd =>
    exact Keeps.bind (sameCloseMask_modify fun _ => rfl) fun _ =>
      Keeps.bind (sameCloseMask_modify fun _ => rfl) fun _ => sameCloseMask_closeListenSockets

/-- A call that closes nothing. -/
lemma SocketCall.closeMask {call : SocketCall} {leaked : List Nat} (hfree : call.AssignsFree)
    (hw : t.WellFormed) (hmasked : t.Masked leaked) (hretains : call.Retains t)
    (ht : ∀ fd ∈ t.closeMask, fd ∈ t.fds) (hrun : call.run t = some ((), t')) :
    ∀ fd ∈ t'.closeMask, fd ∈ t'.fds := by
  -- without listening sockets nothing has been registered
  have hnone : t.listensocks = [] → t'.closeMask = t.closeMask →
      ∀ fd ∈ t'.closeMask, fd ∈ t'.fds := by
    intro hnil hmask fd hfd
    have hlisted := ht fd (hmask ▸ hfd)
    rw [Sockets.fds, hnil] at hlisted
    cases hlisted
  cases call with
  | create env =>
    have hsocks := (wlp_createWellKnownSockets hfree hmasked _ _ hrun).1
    have hmask : t'.closeMask = t.closeMask :=
      (sameCloseMask_createWellKnownSockets t trivial _ _ hrun).2
    rw [hmask, Sockets.fds, hsocks]
    exact ht
  | update env database =>
    exact wlp_updateListenSockets_closeMask hw hretains ht _ _ hrun
  | close => exact hnone hretains (sameCloseMask_closeListenSockets t trivial _ _ hrun).2
  | destroy => exact hnone hretains (sameCloseMask_destroyWellKnownSockets t trivial _ _ hrun).2

variable {h : List (Step Sockets SocketCall)}

/-- In every run of calls that close no listening socket: `CloseMask` has descriptors of open
listening sockets only. -/
theorem run_onlyLive (run : Run SocketCall.run Sockets.start h t)
    (hfree : ∀ x ∈ h, x.input.AssignsFree) (hretains : ∀ x ∈ h, x.input.Retains x.pre) :
    t.OnlyLive := by
  obtain ⟨-, leaked, hmasked, -⟩ := run_masked run hfree
  have hlisted : ∀ fd ∈ t.closeMask, fd ∈ t.fds := by
    refine run.invariant_of
      (C := fun x => x.input.AssignsFree ∧ x.input.Retains x.pre ∧
        x.pre.WellFormed ∧ ∃ leaked, x.pre.Masked leaked)
      (I := fun _ t => ∀ fd ∈ t.closeMask, fd ∈ t.fds) (List.forall_mem_nil _) ?_ fun x hx => ?_
    · rintro _ t call t' - ht hstep ⟨hcall, hkeeps, hw, leaked, hmasked⟩
      exact SocketCall.closeMask hcall hw hmasked hkeeps ht hstep
    · obtain ⟨h₁, h₂, rfl, hrun, -⟩ := run.split hx
      obtain ⟨hw, leaked, hmasked, -⟩ := run_masked hrun fun y hy =>
        hfree y (List.mem_append_left _ hy)
      exact ⟨hfree x hx, hretains x hx, hw, leaked, hmasked⟩
  intro fd hfd
  refine ⟨mem_fds.1 (hlisted fd hfd), ?_⟩
  exact Xdm.Masked.isOpen hmasked fd (List.mem_append_left _ (hlisted fd hfd))

/-- Descriptors are given out as long as there are any, and an address can be bound unless it
clashes. -/
def SocketEnv.limited : SocketEnv where
  requestPort := 177
  defaultMcastAddress := none
  macroLength _ := 0
  kernel := ⟨fun _ process _ => if freeFd process < fdSetsize then some (freeFd process) else none,
    (SocketKernel.strict true).bind⟩

lemma assignsFree_limited : SocketEnv.limited.kernel.AssignsFree := by
  intro n process family fd hsocket
  simp only [SocketEnv.limited] at hsocket
  split_ifs at hsocket with hlt
  obtain rfl := Option.some.inj hsocket
  exact ⟨hlt, fun x hx => Nat.ne_of_lt (lt_freeFd x hx)⟩

/-- Such a kernel refuses no address, as long as nobody asks for a wildcard. -/
lemma binds_limited
    (hasked : ∀ line ∈ listenLines none database, ∃ a, line.1 = .address a ∧ a ≠ [] ∧ ¬ IsAny a)
    (hlisted : ∀ x ∈ t.process, ∀ b ∈ x.bound,
      ¬ IsAny b.data ∧ ∃ o ∈ t.listensocks, o.data = b.data) :
    Binds .limited database t := by
  have hspecial : ∀ {addr : InetAddr}, Wanted .limited database t addr → ¬ IsAny addr.data := by
    intro addr hwanted
    obtain ⟨line, hline, hasks⟩ := hwanted.asked
    obtain ⟨a, ha, hne, hspecial⟩ := hasked line hline
    rw [ha] at hasks
    rcases hasks with haddr | ⟨hzero, -⟩
    · rwa [← ListenAddr.bytes.inj haddr]
    · exact absurd (List.eq_nil_of_length_eq_zero hzero) hne
  intro n process addr _ hwanted hopen
  have hkernel : (SocketKernel.strict true).Exclusive true := exclusive_strict
  refine (hkernel.bind n process addr).2 fun x hx b hb hclash => ?_
  have hb' : ¬ IsAny b.data ∧ b.data ≠ addr.data := by
    rcases hopen x hx with hx | hnone | ⟨b', hb', hwanted', hne⟩
    -- a socket of before: its address is listed, and the new one is not
    · obtain ⟨hspecial, o, ho, hdata⟩ := hlisted x hx b hb
      exact ⟨hspecial, hdata ▸ hwanted.new o ho⟩
    · rw [hnone] at hb
      cases hb
    · obtain rfl := Option.some.inj (hb'.symm.trans hb)
      exact ⟨hspecial hwanted', hne⟩
  rcases hclash.2 with heq | hany | hany
  · exact hb'.2 heq
  · exact hb'.1 hany
  · exact hspecial hwanted hany

/-- A start with one interface, and a rescan with two. -/
theorem run_onlyLive_two : ∃ h t, Run SocketCall.run Sockets.start h t ∧
    h.map (fun x => x.pre.closeMask) = [[], [0]] ∧ t.closeMask = [1, 0] ∧ t.OnlyLive := by
  let one : SocketCall := .update .limited (listenOn [.address [10, 0, 0, 1]])
  let two : SocketCall := .update .limited
    (listenOn [.address [10, 0, 0, 1], .address [10, 0, 0, 2]])
  let t₁ := endOf one.run Sockets.start
  have hone : one.run Sockets.start = some ((), t₁) := run_endOf (by decide +kernel)
  have htwo : two.run t₁ = some ((), endOf two.run t₁) := run_endOf (by decide +kernel)
  have run := (Run.nil.snoc hone).snoc htwo
  refine ⟨_, _, run, by decide +kernel, by decide +kernel, run_onlyLive run ?_ ?_⟩
  · simp only [List.nil_append, List.cons_append, List.forall_mem_cons]
    exact ⟨assignsFree_limited, assignsFree_limited, List.forall_mem_nil _⟩
  · simp only [List.nil_append, List.cons_append, List.forall_mem_cons]
    have hlisted : ∀ x ∈ t₁.process, ∀ b ∈ x.bound,
        ¬ IsAny b.data ∧ ∃ o ∈ t₁.listensocks, o.data = b.data := by decide +kernel
    have hdata : ∀ s ∈ t₁.listensocks, s.data = [10, 0, 0, 1] := by decide +kernel
    refine ⟨⟨binds_limited ?_ (List.forall_mem_nil _), List.forall_mem_nil _⟩,
      ⟨binds_limited ?_ hlisted, fun s hs => ?_⟩, List.forall_mem_nil _⟩
    · exact List.forall_mem_singleton.2 ⟨_, rfl, by decide, by decide⟩
    · refine List.forall_mem_cons.2 ⟨⟨_, rfl, by decide, by decide⟩, ?_⟩
      exact List.forall_mem_singleton.2 ⟨_, rfl, by decide, by decide⟩
    · exact ⟨_, List.mem_cons_self .., Or.inl (congrArg ListenAddr.bytes (hdata s hs).symm)⟩

/-- A descriptor that could not be bound stays registered. -/
theorem run_notLive : ∃ h t, Run SocketCall.run Sockets.start h t ∧
    (∀ x ∈ h, x.input.AssignsFree) ∧ t.process = [] ∧ ¬ t.OnlyLive := by
  obtain ⟨h, t, run, hfree, -, hprocess, hclose⟩ := exists_run_one
    (P := fun _ t => t.process = [] ∧ t.closeMask = [3]) 3 false (by decide) (by decide +kernel)
  refine ⟨h, t, run, hfree, hprocess, fun hlive => ?_⟩
  obtain ⟨-, x, hx, -⟩ := hlive 3 (hclose ▸ List.mem_singleton_self 3)
  rw [hprocess] at hx
  cases hx

end Xdm
