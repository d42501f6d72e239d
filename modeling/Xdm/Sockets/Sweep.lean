/-
# What an update leaves

The marking phase goes through all the lines, and the sweep closes what has not been marked.
`wlp_updateListenSockets` says what the list is then, for every database: each line has got a
socket or none, and the list has these sockets with the groups of their lines.
-/
import Xdm.Sockets.Update

namespace Xdm

open Prog

variable {env : SocketEnv} {t t' : Sockets} {l l' old : List ListenSock} {s : ListenSock}
variable {a G : ARRAY8} {r : Option ARRAY8} {fd : Nat} {done : List LineRead}
variable {addr : ListenAddr} {gs : List ListenAddr}

/-! ### The lines -/

/-- What a `LISTEN` line has: its first host, and the others. -/
def DisplayEntry.listenLine (d : DisplayEntry) : Option (HostOrAlias × List HostOrAlias) :=
  if d.entry = .listen then
    match d.hosts with
    | [] => none
    | h :: hosts => some (h.entry, hosts.map HostEntry.entry)
  else none

/-- The lines that `ForEachListenAddr` goes through; if there is no `LISTEN` line at all, the
default is a wildcard with the default group. -/
def listenLines (defaultMcastAddress : Option (Octets 16)) (database : List DisplayEntry) :
    List (HostOrAlias × List HostOrAlias) :=
  if database.any fun d => d.entry = .listen then database.filterMap DisplayEntry.listenLine
  else [(.anyAddr, defaultMcastAddress.toList.map fun addr => .address addr.1)]

/-- The socket that a line gets, for the address that is passed on for its first host.  There
may be none for it; then there was none before. -/
inductive Resolves (old : List ListenSock) : ListenAddr → Option ARRAY8 → Prop
  | any6 {addr : ListenAddr} : addr.length = 0 → Resolves old addr (some in6addrAny)
  | any4 {addr : ListenAddr} : addr.length = 0 → (∀ o ∈ old, o.data ≠ in6addrAny) →
      Resolves old addr (some inaddrAny)
  | noAny {addr : ListenAddr} : addr.length = 0 → (∀ o ∈ old, o.data ≠ in6addrAny) →
      (∀ o ∈ old, o.data ≠ inaddrAny) → Resolves old addr none
  | address (a : ARRAY8) : a ≠ [] → Resolves old (.bytes a) (some a)
  | noAddress {addr : ListenAddr} : addr.length ≠ 0 →
      (∀ a, addr = .bytes a → ∀ o ∈ old, o.data ≠ a) → Resolves old addr none

/-- What has been read of a line. -/
structure ReadLine (env : SocketEnv) (line : HostOrAlias × List HostOrAlias) (x : LineRead) :
    Prop where
  first : x.first = line.1.hostAddress env
  groups : x.groups = (line.2.map (HostOrAlias.hostAddress env)).reverse

/-! ### Walking through the lines -/

/-- A relation between two lists, at an element of the first. -/
lemma exists_of_forall₂ {α β : Type} {R : α → β → Prop} {l : List α} {l' : List β}
    (h : List.Forall₂ R l l') {x : α} (hx : x ∈ l) : ∃ y ∈ l', R x y := by
  induction h with
  | nil => cases hx
  | cons hR _ ih =>
    rcases List.mem_cons.1 hx with rfl | hx
    · exact ⟨_, List.mem_cons_self .., hR⟩
    · obtain ⟨y, hy, hxy⟩ := ih hx
      exact ⟨y, List.mem_cons_of_mem _ hy, hxy⟩

/-- The calls that `ForEachListenAddr` makes keep `I`.  It is about the lines that have been
read, the last one first, and the sockets. -/
structure Walks (env : SocketEnv) (I : List LineRead → Sockets → Prop) : Prop where
  line : ∀ {done : List LineRead} {addr : ListenAddr} {c : Option ARRAY8} {t : Sockets},
    I done t → Wlp (updateListener env addr c) (fun r t' => I (⟨addr, r, []⟩ :: done) t') t
  group : ∀ {done : List LineRead} {passed : ListenAddr} {r : Option ARRAY8}
    {gs : List ListenAddr} {addr : ListenAddr} {t : Sockets}, I (⟨passed, r, gs⟩ :: done) t →
    Wlp (updateMcastGroup env addr r) (fun _ t' => I (⟨passed, r, addr :: gs⟩ :: done) t') t

lemma walks_true : Walks env fun _ _ => True :=
  ⟨fun _ _ _ _ => trivial, fun _ _ _ _ => trivial⟩

/-- `UpdateMcastGroup` leaves `*closure` alone. -/
lemma wlp_updateMcastGroup_closure :
    Wlp (updateMcastGroup env addr r) (fun r' _ => r' = r) t := by
  -- every branch ends like this
  have hlast : ∀ m : Prog Sockets Unit, ∀ t,
      Wlp (do let _ ← m; pure r) (fun r' _ => r' = r) t := by
    intro m t
    rw [wlp_bind]
    exact fun _ _ _ => (wlp_pure _ _ _).2 rfl
  rw [updateMcastGroup, wlp_bind, wlp_get]
  cases hsock : r.bind (findInList ListenSock.data t.listensocks) with
  | none => exact (wlp_pure _ _ _).2 rfl
  | some s =>
    dsimp only
    rw [wlp_bind]
    intro a t₁ _
    cases hgroup : findInList McastGroup.data s.mcastgroups a with
    | some g => exact hlast _ t₁
    | none =>
      dsimp only
      cases hentry : createSocklistEntry env a with
      | none => exact (wlp_pure _ _ _).2 rfl
      | some group =>
        dsimp only
        rw [wlp_bind]
        exact fun _ t₂ _ => hlast _ t₂

namespace Walks

variable {I J : List LineRead → Sockets → Prop} {passed : ListenAddr} {database : List DisplayEntry}
variable {c : Option ARRAY8}

lemma and (h : Walks env I) (h' : Walks env J) : Walks env fun done t => I done t ∧ J done t where
  line hI := (h.line hI.1).and (h'.line hI.2)
  group hI := (h.group hI.1).and (h'.group hI.2)

lemma eachGroup (h : Walks env I) : ∀ {hosts : List HostEntry} {gs : List ListenAddr}
    {t : Sockets}, I (⟨passed, r, gs⟩ :: done) t →
    Wlp (forEachListenAddr.eachGroup env (updateMcastGroup env) hosts r)
      (fun _ t' => I (⟨passed, r,
        (hosts.map fun host => host.entry.hostAddress env).reverse ++ gs⟩ :: done) t') t
  | [], _, _, hI => (wlp_pure _ _ _).2 hI
  | host :: hosts, gs, t, hI => by
    rw [forEachListenAddr.eachGroup, wlp_bind]
    refine (wlp_updateMcastGroup_closure.and (h.group hI)).mono fun r' t₁ h₁ => ?_
    obtain ⟨heq, hI⟩ := h₁
    rw [heq]
    refine (h.eachGroup hI).mono fun _ t₂ hI => ?_
    simpa using hI

lemma eachLine (h : Walks env I) : ∀ {database : List DisplayEntry} {done : List LineRead}
    {c : Option ARRAY8} {t : Sockets}, I done t →
    Wlp (forEachListenAddr.eachLine env (updateListener env) (updateMcastGroup env) database c)
      (fun _ t' => ∃ more, List.Forall₂ (ReadLine env)
        (database.filterMap DisplayEntry.listenLine) more ∧ I (more.reverse ++ done) t') t
  | [], done, _, _, hI => (wlp_pure _ _ _).2 ⟨[], List.Forall₂.nil, hI⟩
  | d :: database, done, c, t, hI => by
    rw [forEachListenAddr.eachLine]
    -- an entry without a line
    have hskip : d.listenLine = none → ∀ {c : Option ARRAY8}, Wlp (forEachListenAddr.eachLine
        env (updateListener env) (updateMcastGroup env) database c)
        (fun _ t' => ∃ more, List.Forall₂ (ReadLine env)
          ((d :: database).filterMap DisplayEntry.listenLine) more ∧
          I (more.reverse ++ done) t') t := by
      intro hline c
      rw [List.filterMap_cons_none hline]
      exact h.eachLine hI
    refine wlp_ite (fun hlisten => ?_) fun hother => ?_
    · rw [wlp_bind]
      cases hhosts : d.hosts with
      | nil =>
        exact (wlp_pure _ _ _).2 (hskip (by rw [DisplayEntry.listenLine, if_pos hlisten, hhosts]))
      | cons host hosts =>
        have hline : d.listenLine = some (host.entry, hosts.map HostEntry.entry) := by
          rw [DisplayEntry.listenLine, if_pos hlisten, hhosts]
        rw [forEachListenAddr.eachHost, wlp_bind]
        refine (h.line hI).mono fun r t₁ hI => ?_
        refine (h.eachGroup hI).mono fun c' t₂ hI => ?_
        refine (h.eachLine hI).mono fun _ t₃ h₃ => ?_
        obtain ⟨more, hlines, hI⟩ := h₃
        rw [List.append_nil] at hI
        refine ⟨⟨_, _, _⟩ :: more, ?_, by simpa using hI⟩
        rw [List.filterMap_cons_some hline]
        exact List.Forall₂.cons ⟨rfl, by rw [List.map_map]; rfl⟩ hlines
    · exact hskip (by rw [DisplayEntry.listenLine, if_neg hother])

lemma wlp_forEachListenAddr (h : Walks env I) (hI : I [] t) :
    Wlp (forEachListenAddr env (updateListener env) (updateMcastGroup env) database c)
      (fun _ t' => ∃ done, List.Forall₂ (ReadLine env)
        (listenLines env.defaultMcastAddress database) done ∧ I done.reverse t') t := by
  rw [forEachListenAddr, wlp_bind]
  refine (h.eachLine hI).mono fun c' t₁ h₁ => ?_
  obtain ⟨more, hlines, hI⟩ := h₁
  rw [List.append_nil] at hI
  refine wlp_ite (fun hany => ?_) fun hnone => ?_
  · refine (wlp_pure _ _ _).2 ⟨more, ?_, hI⟩
    rw [listenLines, if_pos hany]
    exact hlines
  · -- there was nothing to read
    have hempty : database.filterMap DisplayEntry.listenLine = [] := by
      refine List.filterMap_eq_nil_iff.2 fun d hd => if_neg fun hlisten => hnone ?_
      exact List.any_eq_true.2 ⟨d, hd, by simpa using hlisten⟩
    rw [hempty] at hlines
    cases hlines
    rw [wlp_bind, listenLines, if_neg hnone]
    refine (h.line hI).mono fun r t₂ hI => ?_
    cases hdefault : env.defaultMcastAddress with
    | none =>
      exact (wlp_pure _ _ _).2 ⟨[_], List.Forall₂.cons ⟨rfl, rfl⟩ List.Forall₂.nil, hI⟩
    | some group =>
      refine (h.group hI).mono fun r' t₃ hI => ?_
      exact ⟨[_], List.Forall₂.cons ⟨rfl, rfl⟩ List.Forall₂.nil, hI⟩

end Walks

/-- What getting a socket for an address keeps, `UpdateListener` keeps. -/
lemma wlp_updateListener_of {P : Sockets → Prop} {c : Option ARRAY8}
    (hP : ∀ a t, P t → Wlp (openListener env a) (fun _ => P) t) (ht : P t) :
    Wlp (updateListener env addr c) (fun _ => P) t := by
  refine wlp_ite (fun _ => ?_) fun _ => ?_
  · rw [wlp_bind]
    refine (hP _ _ ht).mono fun r t₁ ht₁ => ?_
    cases r with
    | some data => exact (wlp_pure _ _ _).2 ht₁
    | none => exact hP _ _ ht₁
  · rw [wlp_bind]
    exact wlp_read (fun a _ => hP a t ht) fun a _ _ _ => hP a t ht

/-! ### Marking -/

lemma Marked.old_ne (h : Marked old done l) (hne : ∀ s ∈ l, s.data ≠ a) :
    ∀ o ∈ old, o.data ≠ a := by
  intro o ho heq
  obtain ⟨s, hs, haddr, -⟩ := h.kept o ho
  exact hne s hs ((congrArg InetAddr.data haddr).trans heq)

/-- A socket of the list has an address of one of the two lengths. -/
lemma ListenSock.isInet (s : ListenSock) : IsInet s.data := s.addr.length

lemma wlp_updateListener {c : Option ARRAY8} (h : Marked old done t.listensocks) :
    Wlp (updateListener env addr c)
      (fun r t' => Resolves old addr r ∧ Marked old (⟨addr, r, []⟩ :: done) t'.listensocks) t := by
  refine wlp_ite (fun hzero => ?_) fun hlen => ?_
  · rw [wlp_bind]
    refine wlp_openListener.mono fun r t₁ h₁ => ?_
    cases r with
    | some data =>
      refine (wlp_pure _ _ _).2 ⟨?_, h.listened h₁⟩
      have hdata : data = in6addrAny := by
        generalize t₁.listensocks = l₁ at h₁
        cases h₁ with
        | kept _ => rfl
        | opened _ _ _ _ _ => rfl
      exact hdata ▸ Resolves.any6 hzero
    | none =>
      -- nothing has changed, and there was no socket for IPv6
      obtain ⟨hlist, hno6⟩ : t₁.listensocks = t.listensocks ∧
          ∀ s ∈ t.listensocks, s.data ≠ in6addrAny := by
        generalize t₁.listensocks = l₁ at h₁
        cases h₁ with
        | failed hne => exact ⟨rfl, hne⟩
      refine wlp_openListener.mono fun r t₂ h₂ => ?_
      rw [hlist] at h₂
      refine ⟨?_, h.listened h₂⟩
      generalize t₂.listensocks = l₂ at h₂
      cases h₂ with
      | kept _ => exact Resolves.any4 hzero (h.old_ne hno6)
      | opened _ _ _ _ _ => exact Resolves.any4 hzero (h.old_ne hno6)
      | failed hno4 => exact Resolves.noAny hzero (h.old_ne hno6) (h.old_ne hno4)
  · rw [wlp_bind]
    refine wlp_read (fun a ha => ?_) fun G hnull h4 h16 => ?_
    · subst ha
      have hne : a ≠ [] := fun hnil => hlen (congrArg List.length hnil)
      refine wlp_openListener.mono fun r t₁ h₁ => ⟨?_, h.listened h₁⟩
      generalize t₁.listensocks = l₁ at h₁
      cases h₁ with
      | kept _ => exact Resolves.address a hne
      | opened _ _ _ _ _ => exact Resolves.address a hne
      | failed hno =>
        exact Resolves.noAddress hlen fun b hb => ListenAddr.bytes.inj hb ▸ h.old_ne hno
    · refine wlp_openListener.mono fun r t₁ h₁ => ⟨?_, h.listened h₁⟩
      have hnot : ∀ s : ListenSock, s.data ≠ G := by
        rintro s rfl
        exact s.isInet.elim h4 h16
      generalize t₁.listensocks = l₁ at h₁
      cases h₁ with
      | kept hex =>
        obtain ⟨s, -, hs⟩ := hex
        exact absurd hs (hnot s)
      | opened s _ hs _ _ => exact absurd hs (hnot s)
      | failed _ => exact Resolves.noAddress hlen fun b hb => absurd hb (hnull b)

/-- The marking phase: each line that has been read has got its socket. -/
lemma walks_marked : Walks env fun done t =>
    (∀ x ∈ done, Resolves old x.first x.sock) ∧ Marked old done t.listensocks where
  line h := (wlp_updateListener h.2).mono fun _ _ hr => ⟨List.forall_mem_cons.2 ⟨hr.1, h.1⟩, hr.2⟩
  group h := (wlp_updateMcastGroup (h.2.present _ (List.mem_cons_self ..))).mono fun _ _ hr =>
    ⟨List.forall_mem_cons.2 (List.forall_mem_cons.1 h.1), h.2.joined hr.2⟩

/-! ### Sweeping -/

/-- The descriptor is closed, and not waited for. -/
def Sockets.Closed (t : Sockets) (fd : Nat) : Prop :=
  fd ∉ t.wellKnownSocketsMask ∧ ∀ x ∈ t.process, x.fd ≠ fd

/-- What stays of a list of sockets. -/
def swept (l : List ListenSock) : List ListenSock :=
  (l.filter ListenSock.ref).map fun s =>
    { s with mcastgroups := s.mcastgroups.filter McastGroup.ref }

lemma mem_swept {s' : ListenSock} : s' ∈ swept l ↔ ∃ s ∈ l, s.ref = true ∧
    s' = { s with mcastgroups := s.mcastgroups.filter McastGroup.ref } := by
  simp only [swept, List.mem_map, List.mem_filter]
  exact ⟨fun ⟨s, ⟨hs, href⟩, heq⟩ => ⟨s, hs, href, heq.symm⟩,
    fun ⟨s, hs, href, heq⟩ => ⟨s, ⟨hs, href⟩, heq.symm⟩⟩

/-- The calls that leave the groups that are not marked. -/
def leaving (s : ListenSock) (groups : List McastGroup) : List Membership :=
  (groups.filter fun g => !g.ref).map fun g => ⟨s.addr, s.fd, g.addr, false⟩

lemma leaving_cons {g : McastGroup} {groups : List McastGroup} : leaving s (g :: groups) =
    if g.ref then leaving s groups else ⟨s.addr, s.fd, g.addr, false⟩ :: leaving s groups := by
  simp only [leaving, List.filter_cons]
  cases g.ref <;> rfl

lemma wp_sweepGroups : ∀ {groups : List McastGroup} {t : Sockets},
    Wp (sweepGroups s groups) (fun kept t' => kept = groups.filter McastGroup.ref ∧
      t' = { t with memberships := t.memberships ++ leaving s groups }) t
  | [], t => wp_pure ⟨rfl, by simp [leaving]⟩
  | g :: groups, t => by
    refine wp_ite (fun href => ?_) fun href => ?_
    · refine wp_bind (wp_sweepGroups.mono fun kept t' h => wp_pure ?_)
      obtain ⟨rfl, rfl⟩ := h
      refine ⟨(List.filter_cons_of_pos href).symm, ?_⟩
      rw [leaving_cons, if_pos href]
    · refine wp_bind (wp_modify (wp_sweepGroups.mono fun kept t' h => ?_))
      obtain ⟨rfl, rfl⟩ := h
      refine ⟨(List.filter_cons_of_neg href).symm, ?_⟩
      rw [leaving_cons, if_neg href, List.append_assoc]
      rfl

lemma wp_sweepSockets : ∀ {l : List ListenSock} {t : Sockets},
    Wp (sweepSockets l) (fun kept t' => kept = swept l ∧
      (∀ s ∈ l, s.ref = false → t'.Closed s.fd) ∧ ∀ fd, t.Closed fd → t'.Closed fd) t
  | [], _ => wp_pure ⟨rfl, List.forall_mem_nil _, fun _ h => h⟩
  | s :: l, t => by
    refine wp_ite (fun href => ?_) fun href => ?_
    · refine wp_bind (wp_sweepGroups.mono fun groups t₁ h₁ => wp_bind (wp_sweepSockets.mono
        fun kept t₂ h₂ => wp_pure ?_))
      obtain ⟨rfl, rfl⟩ := h₁
      obtain ⟨rfl, hclosed, hmono⟩ := h₂
      refine ⟨?_, fun s' hs' hs'ref => ?_, fun fd hfd => hmono fd hfd⟩
      · rw [swept, swept, List.filter_cons_of_pos href, List.map_cons]
      · rcases List.mem_cons.1 hs' with rfl | hs'
        · exact absurd (href.symm.trans hs'ref) (by simp)
        · exact hclosed s' hs' hs'ref
    · refine wp_bind (wp_bind (wp_modify (wp_modify ?_)))
      refine wp_sweepSockets.mono fun kept t₁ h₁ => ?_
      obtain ⟨rfl, hclosed, hmono⟩ := h₁
      refine ⟨?_, fun s' hs' hs'ref => ?_, fun fd hfd => hmono fd ⟨fun hmem => ?_, ?_⟩⟩
      · rw [swept, swept, List.filter_cons_of_neg href]
      · rcases List.mem_cons.1 hs' with rfl | hs'
        · refine hmono _ ⟨fun hmem => ?_, fun x hx => (Keyed.mem_erase.1 hx).2⟩
          simpa using (List.mem_filter.1 hmem).2
        · exact hclosed s' hs' hs'ref
      · exact hfd.1 (List.mem_filter.1 hmem).1
      · exact fun x hx => hfd.2 x (Keyed.mem_erase.1 hx).1

/-! ### The whole update -/

/-- The sockets have different addresses, and so have the groups of each. -/
structure Sockets.WellFormed (t : Sockets) : Prop where
  distinct : Keyed.Distinct ListenSock.data t.listensocks
  groups : ∀ s ∈ t.listensocks, Keyed.Distinct McastGroup.data s.mcastgroups

lemma wellFormed_start : Sockets.start.WellFormed := ⟨List.nodup_nil, List.forall_mem_nil _⟩

/-- The list has the sockets of the lines, each with the groups of its lines; what was there is
kept or closed. -/
structure Swept (done : List LineRead) (t t' : Sockets) : Prop where
  wellFormed : t'.WellFormed
  listed : ∀ s ∈ t'.listensocks, ∃ x ∈ done, x.sock = some s.data
  present : ∀ x ∈ done, ∀ a, x.sock = some a → ∃ s ∈ t'.listensocks, s.data = a
  groups : ∀ s ∈ t'.listensocks, ∀ G, (∃ g ∈ s.mcastgroups, g.data = G) ↔
    IsInet G ∧ Listed done s.data G
  kept : ∀ o ∈ t.listensocks, (∃ x ∈ done, x.sock = some o.data) →
    ∃ s ∈ t'.listensocks, s.addr = o.addr ∧ s.fd = o.fd
  dropped : ∀ o ∈ t.listensocks, (¬ ∃ x ∈ done, x.sock = some o.data) → t'.Closed o.fd

lemma Sockets.WellFormed.marked (h : t.WellFormed) :
    Marked t.listensocks [] (t.listensocks.map clearRefs) where
  distinct := by
    have hdata : (t.listensocks.map clearRefs).map ListenSock.data =
        t.listensocks.map ListenSock.data := by
      rw [List.map_map]
      rfl
    rw [Keyed.Distinct, hdata]
    exact h.distinct
  each s' hs' := by
    obtain ⟨s, hs, rfl⟩ := List.mem_map.1 hs'
    have hnone : ∀ G, ¬ Listed [] s.data G := by
      rintro G ⟨x, hx, -⟩
      exact absurd hx List.not_mem_nil
    refine ⟨by simp [clearRefs], ?_, fun g' hg' => ?_, fun G _ hl => absurd hl (hnone G)⟩
    · have hdata : (clearRefs s).mcastgroups.map McastGroup.data =
          s.mcastgroups.map McastGroup.data := by
        rw [clearRefs, List.map_map]
        rfl
      rw [Keyed.Distinct, hdata]
      exact h.groups s hs
    · obtain ⟨g, -, rfl⟩ := List.mem_map.1 hg'
      exact iff_of_false Bool.false_ne_true (hnone _)
  present := List.forall_mem_nil _
  kept o ho := ⟨clearRefs o, List.mem_map_of_mem ho, rfl, rfl⟩

lemma Marked.swept (h : Marked t.listensocks done l) (hlist : t'.listensocks = swept l)
    (hclosed : ∀ s ∈ l, s.ref = false → t'.Closed s.fd) : Swept done t t' where
  wellFormed := by
    constructor
    · have hdata : (Xdm.swept l).map ListenSock.data =
          (l.filter ListenSock.ref).map ListenSock.data := by
        rw [Xdm.swept, List.map_map]
        rfl
      rw [hlist, Keyed.Distinct, hdata]
      exact List.Nodup.sublist (List.filter_sublist.map _) h.distinct
    · intro s' hs'
      obtain ⟨s, hs, -, rfl⟩ := mem_swept.1 (hlist ▸ hs')
      exact List.Nodup.sublist (List.filter_sublist.map _) (h.each s hs).distinct
  listed s' hs' := by
    obtain ⟨s, hs, href, rfl⟩ := mem_swept.1 (hlist ▸ hs')
    exact (h.each s hs).ref.1 href
  present x hx a ha := by
    obtain ⟨s, hs, rfl⟩ := h.present x hx a ha
    rw [hlist]
    exact ⟨_, mem_swept.2 ⟨s, hs, (h.each s hs).ref.2 ⟨x, hx, ha⟩, rfl⟩, rfl⟩
  groups s' hs' G := by
    obtain ⟨s, hs, -, rfl⟩ := mem_swept.1 (hlist ▸ hs')
    have hmarked := h.each s hs
    constructor
    · rintro ⟨g, hg, rfl⟩
      obtain ⟨hg, hgref⟩ := List.mem_filter.1 hg
      exact ⟨g.addr.length, (hmarked.groupRef g hg).1 hgref⟩
    · rintro ⟨hG, hl⟩
      obtain ⟨g, hg, rfl⟩ := hmarked.groupAll G hG hl
      exact ⟨g, List.mem_filter.2 ⟨hg, (hmarked.groupRef g hg).2 hl⟩, rfl⟩
  kept o ho hnamed := by
    obtain ⟨s, hs, haddr, hfd⟩ := h.kept o ho
    have hdata : s.data = o.data := congrArg InetAddr.data haddr
    rw [hlist]
    exact ⟨_, mem_swept.2 ⟨s, hs, (h.each s hs).ref.2 (hdata ▸ hnamed), rfl⟩, haddr, hfd⟩
  dropped o ho hnot := by
    obtain ⟨s, hs, haddr, hfd⟩ := h.kept o ho
    have hdata : s.data = o.data := congrArg InetAddr.data haddr
    rw [← hfd]
    refine hclosed s hs ?_
    rw [← Bool.not_eq_true]
    exact fun href => hnot (hdata ▸ (h.each s hs).ref.1 href)

/-- Only which lines have been read matters, not their order. -/
lemma Swept.congr {done' : List LineRead} (h : Swept done t t') (heq : ∀ x, x ∈ done ↔ x ∈ done') :
    Swept done' t t' where
  wellFormed := h.wellFormed
  listed := by simpa only [heq] using h.listed
  present x hx := h.present x ((heq x).2 hx)
  groups := by simpa only [heq, Listed] using h.groups
  kept := by simpa only [heq] using h.kept
  dropped := by simpa only [heq] using h.dropped

/-- Every update that returns has done this, and the walk through the lines keeps what it
keeps. -/
lemma Walks.wlp_updateListenSockets {I : List LineRead → Sockets → Prop}
    {database : List DisplayEntry} (h : Walks env I) (ht : t.WellFormed)
    (hI : I [] { t with listensocks := t.listensocks.map clearRefs }) :
    Wlp (updateListenSockets env database) (fun _ t' => ∃ done, List.Forall₂ (ReadLine env)
      (listenLines env.defaultMcastAddress database) done ∧
      (∀ x ∈ done, Resolves t.listensocks x.first x.sock) ∧ Swept done t t' ∧
      ∃ t₁ t₂, I done.reverse t₁ ∧
        sweepSockets t₁.listensocks t₁ = some (swept t₁.listensocks, t₂) ∧
        t' = { t₂ with listensocks := swept t₁.listensocks }) t := by
  simp only [updateListenSockets, wlp_bind, wlp_modify, wlp_get]
  refine ((walks_marked.and h).wlp_forEachListenAddr
    ⟨⟨List.forall_mem_nil _, ht.marked⟩, hI⟩).mono fun _ t₁ h₁ => ?_
  obtain ⟨done, hlines, ⟨hresolves, hmarked⟩, hI⟩ := h₁
  intro kept t₂ hsweep
  obtain ⟨rfl, hclosed, -⟩ := wp_sweepSockets.wlp _ _ hsweep
  refine ⟨done, hlines, fun x hx => hresolves x (List.mem_reverse.2 hx), ?_, t₁, t₂, hI,
    hsweep, rfl⟩
  refine Swept.congr ?_ fun x => List.mem_reverse
  exact hmarked.swept rfl hclosed

theorem wlp_updateListenSockets {database : List DisplayEntry} (ht : t.WellFormed) :
    Wlp (updateListenSockets env database) (fun _ t' => ∃ done, List.Forall₂ (ReadLine env)
      (listenLines env.defaultMcastAddress database) done ∧
      (∀ x ∈ done, Resolves t.listensocks x.first x.sock) ∧ Swept done t t') t := by
  refine (walks_true.wlp_updateListenSockets ht trivial).mono fun _ t' h => ?_
  obtain ⟨done, hlines, hresolves, hswept, -⟩ := h
  exact ⟨done, hlines, hresolves, hswept⟩

end Xdm
