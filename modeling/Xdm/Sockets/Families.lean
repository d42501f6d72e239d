/-
# Which groups are joined and left

The calls of `ChangeMcastMembership` of one update: the groups of the lines are joined that their
sockets did not have, and the groups that no line names any more are left
(`wlp_updateListenSockets_calls`).  A call reads the group's address with the family of the
socket, but nothing on the way looks at the family of the group.
-/
import Mathlib.Data.List.Induction
import Xdm.Sockets.Mask
import Xdm.Sockets.Followed

namespace Xdm

open Prog

variable {env : SocketEnv} {t t' : Sockets} {a G : ARRAY8} {addr : ListenAddr} {r : Option ARRAY8}
variable {old l : List ListenSock} {o s : ListenSock} {database : List DisplayEntry}
variable {base calls : List Membership} {m : Membership} {done : List LineRead}
variable {passed : ListenAddr} {gs : List ListenAddr}

/-! ### The calls so far -/

/-- A socket of the list with this address has the group. -/
def HasGroup (l : List ListenSock) (a G : ARRAY8) : Prop :=
  ∃ s ∈ l, s.data = a ∧ ∃ g ∈ s.mcastgroups, g.data = G

/-- There has been a call for this group of the socket. -/
def Called (calls : List Membership) (a G : ARRAY8) : Prop :=
  ∃ m ∈ calls, m.socket.data = a ∧ m.group.data = G

/-- While the lines are read: the sockets have the groups that they had before, and those that
have been joined. -/
structure Joining (old : List ListenSock) (base calls : List Membership) (t : Sockets) : Prop where
  memberships : t.memberships = base ++ calls
  called : ∀ m ∈ calls, ∃ s ∈ t.listensocks, s.data = m.socket.data
  kept : ∀ o ∈ old, ∃ s ∈ t.listensocks, s.data = o.data
  groups : ∀ s ∈ t.listensocks, ∀ G, (∃ g ∈ s.mcastgroups, g.data = G) ↔
    HasGroup old s.data G ∨ Called calls s.data G

/-- The calls are for the groups of the lines that their sockets did not have. -/
structure Accounts (old : List ListenSock) (done : List LineRead) (calls : List Membership) :
    Prop where
  each : ∀ m ∈ calls, m.join = true ∧ Listed done m.socket.data m.group.data ∧
    ¬ HasGroup old m.socket.data m.group.data
  all : ∀ a G, Listed done a G → IsInet G → HasGroup old a G ∨ Called calls a G

/-- There has been no call. -/
def SameCalls (t t' : Sockets) : Prop := t'.memberships = t.memberships

instance : Std.Refl SameCalls := ⟨fun _ => rfl⟩

instance : IsTrans Sockets SameCalls := ⟨fun _ _ _ h h' => h'.trans h⟩

lemma sameCalls_modify {f : Sockets → Sockets} (h : ∀ t, (f t).memberships = t.memberships) :
    Respects SameCalls (modify f : Prog Sockets Unit) :=
  Keeps.modify fun t _ => ⟨trivial, h t⟩

lemma sameCalls_createListeningSocket {sock : InetAddr} :
    Respects SameCalls (createListeningSocket env sock) := by
  have hsocket : ∀ family, Respects SameCalls (env.socket family) := by
    intro family t _
    simp only [SocketEnv.socket, wlp_bind, wlp_get, wlp_set, wlp_pure]
    exact ⟨trivial, rfl⟩
  have hbind : ∀ fd sock, Respects SameCalls (env.bind fd sock) := by
    intro fd sock t _
    simp only [SocketEnv.bind, wlp_bind, wlp_get, wlp_set, wlp_pure]
    exact ⟨trivial, rfl⟩
  refine Keeps.ite (fun _ => Keeps.pure _) fun _ => Keeps.bind (hsocket _) fun r => ?_
  cases r with
  | none => exact Keeps.pure _
  | some fd =>
    refine Keeps.bind (sameCalls_modify fun _ => rfl) fun _ => Keeps.bind (hbind _ _) fun ok => ?_
    refine Keeps.ite (fun _ => ?_) fun _ => ?_
    · exact Keeps.bind (sameCalls_modify fun _ => rfl) fun _ => Keeps.pure _
    · exact Keeps.bind (sameCalls_modify fun _ => rfl) fun _ => Keeps.pure _

lemma wlp_openListener_calls : Wlp (openListener env a) (fun _ => SameCalls t) t := by
  refine wlp_openListener_of (fun _ => rfl) (fun _ _ => rfl) fun sock _ _ _ => ?_
  exact (sameCalls_createListeningSocket t trivial).mono fun r t₁ h =>
    ⟨fun _ => h.2, fun fd _ => h.2⟩

lemma wlp_openListener_joining (ht : Joining old base calls t) :
    Wlp (openListener env a) (fun _ => Joining old base calls) t := by
  refine (wlp_openListener_calls.and wlp_openListener).mono fun r t' h => ?_
  obtain ⟨hcalls, hlistened⟩ := h
  have hmem : t'.memberships = base ++ calls := hcalls.trans ht.memberships
  generalize hsocks : t'.listensocks = l' at hlistened
  cases hlistened with
  | kept hex =>
    have hcover := covers_modify (l := t.listensocks) (a := a)
      (f := fun s => { s with ref := true }) fun _ => ⟨rfl, rfl⟩
    refine ⟨hmem, fun m hm => ?_, fun o ho => ?_, ?_⟩
    · obtain ⟨s, hs, hdata⟩ := ht.called m hm
      obtain ⟨s', hs', haddr, -⟩ := hcover s hs
      exact ⟨s', hsocks ▸ hs', (congrArg InetAddr.data haddr).trans hdata⟩
    · obtain ⟨s, hs, hdata⟩ := ht.kept o ho
      obtain ⟨s', hs', haddr, -⟩ := hcover s hs
      exact ⟨s', hsocks ▸ hs', (congrArg InetAddr.data haddr).trans hdata⟩
    · rw [hsocks]
      intro s' hs'
      rcases Keyed.mem_modify.1 hs' with ⟨s, hs, -, rfl⟩ | ⟨hs, -⟩
      · exact ht.groups s hs
      · exact ht.groups s' hs
  | opened s hnew hdata href hgroups =>
    refine ⟨hmem, fun m hm => ?_, fun o ho => ?_, ?_⟩
    · obtain ⟨s', hs', hdata'⟩ := ht.called m hm
      exact ⟨s', hsocks ▸ List.mem_cons_of_mem _ hs', hdata'⟩
    · obtain ⟨s', hs', hdata'⟩ := ht.kept o ho
      exact ⟨s', hsocks ▸ List.mem_cons_of_mem _ hs', hdata'⟩
    · rw [hsocks]
      refine List.forall_mem_cons.2 ⟨fun G => ?_, ht.groups⟩
      rw [hgroups]
      -- a new socket: it has had no groups, and there has been no call for it
      refine iff_of_false (by simp) ?_
      rintro (⟨o, ho, hodata, -⟩ | ⟨m, hm, hmdata, -⟩)
      · obtain ⟨s', hs', hdata'⟩ := ht.kept o ho
        exact hnew s' hs' (hdata'.trans (hodata.trans hdata))
      · obtain ⟨s', hs', hdata'⟩ := ht.called m hm
        exact hnew s' hs' (hdata'.trans (hmdata.trans hdata))
  | failed _ =>
    refine ⟨hmem, ?_, ?_, ?_⟩
    · rw [hsocks]
      exact ht.called
    · rw [hsocks]
      exact ht.kept
    · rw [hsocks]
      exact ht.groups

lemma called_append {more : List Membership} :
    Called (calls ++ more) a G ↔ Called calls a G ∨ Called more a G := by
  simp [Called, or_and_right, exists_or]

/-- The groups of one socket have changed, and the calls say how. -/
lemma Joining.write (ht : Joining old base calls t)
    (hdistinct : Keyed.Distinct ListenSock.data t.listensocks) (hs : s ∈ t.listensocks)
    {groups : List McastGroup} {more : List Membership}
    (hmem : t'.memberships = t.memberships ++ more)
    (hsocks : t'.listensocks = Keyed.modify ListenSock.data s.data
      (fun x => { x with mcastgroups := groups }) t.listensocks)
    (hmore : ∀ m ∈ more, m.socket.data = s.data)
    (hgroups : ∀ G, (∃ g ∈ groups, g.data = G) ↔
      (∃ g ∈ s.mcastgroups, g.data = G) ∨ Called more s.data G) :
    Joining old base (calls ++ more) t' := by
  have hcover := covers_modify (l := t.listensocks) (a := s.data)
    (f := fun x => { x with mcastgroups := groups }) fun _ => ⟨rfl, rfl⟩
  refine ⟨?_, fun m hm => ?_, fun o ho => ?_, ?_⟩
  · rw [hmem, ht.memberships, List.append_assoc]
  · have hex : ∃ s ∈ t.listensocks, s.data = m.socket.data := by
      rcases List.mem_append.1 hm with hm | hm
      · exact ht.called m hm
      · exact ⟨s, hs, (hmore m hm).symm⟩
    obtain ⟨s₁, hs₁, hdata⟩ := hex
    obtain ⟨s', hs', haddr, -⟩ := hcover s₁ hs₁
    exact ⟨s', hsocks ▸ hs', (congrArg InetAddr.data haddr).trans hdata⟩
  · obtain ⟨s₁, hs₁, hdata⟩ := ht.kept o ho
    obtain ⟨s', hs', haddr, -⟩ := hcover s₁ hs₁
    exact ⟨s', hsocks ▸ hs', (congrArg InetAddr.data haddr).trans hdata⟩
  · rw [hsocks]
    intro s' hs' G
    rw [called_append, ← or_assoc]
    rcases Keyed.mem_modify.1 hs' with ⟨s₁, hs₁, hdata, rfl⟩ | ⟨hs₁, hne⟩
    · obtain rfl := hdistinct.eq_of_mem hs₁ hs hdata
      exact (hgroups G).trans (or_congr_left (ht.groups s₁ hs₁ G))
    · rw [ht.groups s' hs₁ G]
      refine (or_iff_left fun hcalled => ?_).symm
      obtain ⟨m, hm, hmdata, -⟩ := hcalled
      exact hne (hmdata.symm.trans (hmore m hm))

/-- One call of `UpdateMcastGroup`: the group is there, or it is joined. -/
inductive GroupStep (old : List ListenSock) (base calls : List Membership) (r : Option ARRAY8)
    (addr : ListenAddr) (t' : Sockets) : Prop
  | still : Joining old base calls t' →
      (∀ a G, r = some a → addr = .bytes G → IsInet G → HasGroup old a G ∨ Called calls a G) →
      GroupStep old base calls r addr t'
  | call (m : Membership) : m.join = true → r = some m.socket.data → addr = .bytes m.group.data →
      ¬ HasGroup old m.socket.data m.group.data → Joining old base (calls ++ [m]) t' →
      GroupStep old base calls r addr t'

lemma wlp_updateMcastGroup_joining (ht : Joining old base calls t)
    (hdistinct : Keyed.Distinct ListenSock.data t.listensocks)
    (hr : ∀ a, r = some a → ∃ s ∈ t.listensocks, s.data = a) :
    Wlp (updateMcastGroup env addr r) (fun _ => GroupStep old base calls r addr) t := by
  refine (wlp_updateMcastGroup_calls hr).mono fun _ t' h => ?_
  obtain ⟨-, hcall⟩ := h
  cases hcall with
  | ignored hnone =>
    refine GroupStep.still ht fun b H hb hH hinet => ?_
    rcases hnone with hnone | hno
    · exact (Option.some_ne_none b (hb.symm.trans hnone)).elim
    · exact absurd hinet (hno H hH)
  | marked s g hs hg hr haddr =>
    have hhas := (ht.groups s hs g.data).1 ⟨g, hg, rfl⟩
    refine GroupStep.still ?_ fun b H hb hH _ => ?_
    · rw [← List.append_nil calls]
      refine ht.write hdistinct hs (List.append_nil _).symm rfl (List.forall_mem_nil _)
        fun H => ?_
      have hmap : (Keyed.modify McastGroup.data g.data (fun g => { g with ref := true })
          s.mcastgroups).map McastGroup.data = s.mcastgroups.map McastGroup.data :=
        Keyed.map_modify fun _ _ _ => rfl
      rw [← List.mem_map, ← List.mem_map, hmap]
      exact (or_iff_left fun ⟨_, hm, _⟩ => List.not_mem_nil hm).symm
    · obtain rfl := Option.some.inj (hr.symm.trans hb)
      obtain rfl := ListenAddr.bytes.inj (haddr.symm.trans hH)
      exact hhas
  | joined s group hs hnew hr haddr =>
    refine GroupStep.call ⟨s.addr, s.fd, group, true⟩ rfl hr haddr (fun hhas => ?_) ?_
    · obtain ⟨g, hg, hdata⟩ := (ht.groups s hs group.data).2 (Or.inl hhas)
      exact hnew g hg hdata
    · refine ht.write hdistinct hs rfl rfl ?_ fun H => ?_
      · exact fun m hm => by rw [List.mem_singleton.1 hm]; rfl
      · rw [List.exists_mem_cons_iff, or_comm]
        refine or_congr_right ?_
        simp [Called, McastGroup.data, ListenSock.data]

lemma Accounts.line (h : Accounts old done calls) :
    Accounts old (⟨passed, r, []⟩ :: done) calls := by
  have hlisted : ∀ a G, Listed (⟨passed, r, []⟩ :: done) a G ↔ Listed done a G := by
    intro a G
    rw [listed_cons]
    exact or_iff_right fun hl => List.not_mem_nil hl.2
  exact ⟨fun m hm => by rw [hlisted]; exact h.each m hm,
    fun a G => by rw [hlisted]; exact h.all a G⟩

lemma listed_group : Listed (⟨passed, r, addr :: gs⟩ :: done) a G ↔
    (r = some a ∧ addr = .bytes G) ∨ Listed (⟨passed, r, gs⟩ :: done) a G := by
  rw [listed_cons, listed_cons, List.mem_cons, and_or_left, or_assoc, eq_comm (a := addr)]

lemma GroupStep.accounts (h : GroupStep old base calls r addr t')
    (haccounts : Accounts old (⟨passed, r, gs⟩ :: done) calls) :
    ∃ calls', Joining old base calls' t' ∧
      Accounts old (⟨passed, r, addr :: gs⟩ :: done) calls' := by
  have heach : ∀ m ∈ calls, m.join = true ∧
      Listed (⟨passed, r, addr :: gs⟩ :: done) m.socket.data m.group.data ∧
      ¬ HasGroup old m.socket.data m.group.data := fun m hm =>
    have hm := haccounts.each m hm
    ⟨hm.1, listed_group.2 (Or.inr hm.2.1), hm.2.2⟩
  cases h with
  | still ht hhas =>
    refine ⟨calls, ht, heach, fun a G hl hG => ?_⟩
    rcases listed_group.1 hl with ⟨hr, haddr⟩ | hl
    · exact hhas a G hr haddr hG
    · exact haccounts.all a G hl hG
  | call m hjoin hr haddr hnew ht =>
    refine ⟨calls ++ [m], ht, fun m' hm' => ?_, fun a G hl hG => ?_⟩
    · rcases List.mem_append.1 hm' with hm' | hm'
      · exact heach m' hm'
      · obtain rfl := List.mem_singleton.1 hm'
        exact ⟨hjoin, listed_group.2 (Or.inl ⟨hr, haddr⟩), hnew⟩
    · rw [called_append, ← or_assoc]
      rcases listed_group.1 hl with ⟨hr', haddr'⟩ | hl
      · refine Or.inr ⟨m, List.mem_singleton_self m, ?_, ?_⟩
        · exact Option.some.inj (hr.symm.trans hr')
        · exact ListenAddr.bytes.inj (haddr.symm.trans haddr')
      · exact Or.inl (haccounts.all a G hl hG)

/-- The calls while the lines are read. -/
lemma walks_joining : Walks env fun done t => Marked old done t.listensocks ∧
    ∃ calls, Joining old base calls t ∧ Accounts old done calls where
  line {done addr c t} h := by
    obtain ⟨hmarked, calls, ht, haccounts⟩ := h
    have hjoining : Wlp (updateListener env addr c) (fun _ => Joining old base calls) t :=
      wlp_updateListener_of (fun _ _ ht => wlp_openListener_joining ht) ht
    refine ((wlp_updateListener hmarked).and hjoining).mono fun r t' h' => ?_
    exact ⟨h'.1.2, calls, h'.2, haccounts.line⟩
  group {done passed r gs addr t} h := by
    obtain ⟨hmarked, calls, ht, haccounts⟩ := h
    have hr := hmarked.present _ (List.mem_cons_self ..)
    refine ((wlp_updateMcastGroup hr).and
      (wlp_updateMcastGroup_joining ht hmarked.distinct hr)).mono fun r' t' h' => ?_
    exact ⟨hmarked.joined h'.1.2, h'.2.accounts haccounts⟩

/-! ### The calls of an update -/

/-- The socket is there after the update, and the lines have named the group for it, or it had the
group, but not both. -/
def Changed (old : List ListenSock) (done : List LineRead) (a G : ARRAY8) : Prop :=
  (∃ x ∈ done, x.sock = some a) ∧
    (Listed done a G ∧ ¬ HasGroup old a G ∨ HasGroup old a G ∧ ¬ Listed done a G)

lemma wlp_sweepSockets_calls : ∀ {socks : List ListenSock} {t : Sockets},
    Wlp (sweepSockets socks) (fun _ t' => t'.memberships = t.memberships ++
      (socks.filter ListenSock.ref).flatMap fun s => leaving s s.mcastgroups) t
  | [], t => (wlp_pure _ _ _).2 (by simp)
  | s :: socks, t => by
    refine wlp_ite (fun href => ?_) fun href => ?_
    · rw [wlp_bind]
      refine wp_sweepGroups.wlp.mono fun groups t₁ h₁ => ?_
      obtain ⟨-, rfl⟩ := h₁
      rw [wlp_bind]
      refine wlp_sweepSockets_calls.mono fun kept t₂ h₂ => (wlp_pure _ _ _).2 ?_
      rw [h₂, List.filter_cons_of_pos href, List.flatMap_cons, List.append_assoc]
    · simp only [destroyListeningSocket, closeFd, wlp_bind, wlp_modify]
      refine wlp_sweepSockets_calls.mono fun kept t₁ h₁ => ?_
      rw [h₁, List.filter_cons_of_neg href]

lemma mem_leaving {groups : List McastGroup} : m ∈ leaving s groups ↔
    ∃ g ∈ groups, g.ref = false ∧ m = ⟨s.addr, s.fd, g.addr, false⟩ := by
  simp only [leaving, List.mem_map, List.mem_filter, Bool.not_eq_true', and_assoc, eq_comm (b := m)]

lemma joining_clearRefs (hw : t.WellFormed) : Joining t.listensocks t.memberships []
    { t with listensocks := t.listensocks.map clearRefs } where
  memberships := (List.append_nil _).symm
  called := List.forall_mem_nil _
  kept o ho := ⟨clearRefs o, List.mem_map_of_mem ho, rfl⟩
  groups s hs G := by
    obtain ⟨o, ho, rfl⟩ := List.mem_map.1 hs
    have hnone : ¬ Called [] (clearRefs o).data G := fun ⟨_, hm, _⟩ => List.not_mem_nil hm
    rw [or_iff_left hnone]
    constructor
    · rintro ⟨g', hg', rfl⟩
      obtain ⟨g, hg, rfl⟩ := List.mem_map.1 hg'
      exact ⟨o, ho, rfl, g, hg, rfl⟩
    · rintro ⟨o', ho', hdata, g, hg, rfl⟩
      obtain rfl := hw.distinct.eq_of_mem ho' ho hdata
      exact ⟨_, List.mem_map_of_mem hg, rfl⟩

/-- The calls of an update, whatever the outcome of the attempts to get sockets is: one for each
group that is new for its socket or is named no more, and no others. -/
theorem Walks.wlp_updateListenSockets_calls {I : List LineRead → Sockets → Prop} (h : Walks env I)
    (hw : t.WellFormed) (hI : I [] { t with listensocks := t.listensocks.map clearRefs }) :
    Wlp (updateListenSockets env database) (fun _ t' => ∃ done calls,
      List.Forall₂ (ReadLine env) (listenLines env.defaultMcastAddress database) done ∧
      (∀ x ∈ done, Resolves t.listensocks x.first x.sock) ∧ Swept done t t' ∧
      t'.memberships = t.memberships ++ calls ∧
      (∀ m ∈ calls, Changed t.listensocks done m.socket.data m.group.data) ∧
      (∀ a G, IsInet G → Changed t.listensocks done a G → Called calls a G) ∧
      ∃ t₁ t₂, I done.reverse t₁ ∧
        sweepSockets t₁.listensocks t₁ = some (swept t₁.listensocks, t₂) ∧
        t' = { t₂ with listensocks := swept t₁.listensocks }) t := by
  refine ((h.and walks_joining).wlp_updateListenSockets hw
    ⟨hI, hw.marked, [], joining_clearRefs hw, ⟨List.forall_mem_nil _, ?_⟩⟩).mono fun _ t' h' => ?_
  · rintro a G ⟨x, hx, -⟩
    cases hx
  obtain ⟨done, hlines, hresolves, hswept, t₁, t₂, ⟨hI₁, hmarked, calls, ht₁, haccounts⟩, hsweep,
    rfl⟩ := h'
  have hcalls := wlp_sweepSockets_calls _ _ hsweep
  -- the order in which the lines have been read does not matter
  have hlisted : ∀ a G, Listed done.reverse a G ↔ Listed done a G := by
    intro a G
    simp only [Listed, List.mem_reverse]
  have hstays : ∀ a, (∃ x ∈ done.reverse, x.sock = some a) ↔ ∃ x ∈ done, x.sock = some a := by
    intro a
    simp only [List.mem_reverse]
  refine ⟨done, calls ++ (t₁.listensocks.filter ListenSock.ref).flatMap
    fun s => leaving s s.mcastgroups, hlines, hresolves, hswept, ?_, fun m hm => ?_,
    fun a G hG hchanged => ?_, t₁, t₂, hI₁, hsweep, rfl⟩
  · rw [← List.append_assoc, ← ht₁.memberships]
    exact hcalls
  · rcases List.mem_append.1 hm with hm | hm
    · obtain ⟨-, hl, hnew⟩ := haccounts.each m hm
      exact ⟨(hstays _).1 (hl.imp fun x hx => ⟨hx.1, hx.2.1⟩), Or.inl ⟨(hlisted _ _).1 hl, hnew⟩⟩
    · obtain ⟨s, hs, hm⟩ := List.mem_flatMap.1 hm
      obtain ⟨hs, href⟩ := List.mem_filter.1 hs
      obtain ⟨g, hg, hgref, rfl⟩ := mem_leaving.1 hm
      have hunlisted : ¬ Listed done.reverse s.data g.data := fun hl =>
        absurd (((hmarked.each s hs).groupRef g hg).2 hl) (by simp [hgref])
      refine ⟨(hstays _).1 ((hmarked.each s hs).ref.1 href), Or.inr ⟨?_, ?_⟩⟩
      · -- it was there, since what has been joined is listed
        rcases (ht₁.groups s hs g.data).1 ⟨g, hg, rfl⟩ with hhas | ⟨m, hm, hsock, hgroup⟩
        · exact hhas
        · have hl := (haccounts.each m hm).2.1
          rw [hsock, hgroup] at hl
          exact absurd hl hunlisted
      · exact fun hl => hunlisted ((hlisted _ _).2 hl)
  · rcases hchanged with ⟨hsock, ⟨hl, hnew⟩ | ⟨hhas, hunlisted⟩⟩
    · rcases haccounts.all a G ((hlisted a G).2 hl) hG with hhas | hcalled
      · exact absurd hhas hnew
      · exact called_append.2 (Or.inl hcalled)
    · have hold : ∃ o ∈ t.listensocks, o.data = a := hhas.imp fun o ho => ⟨ho.1, ho.2.1⟩
      obtain ⟨o, ho, rfl⟩ := hold
      obtain ⟨s, hs, hdata⟩ := ht₁.kept o ho
      rw [← hdata] at hsock hhas hunlisted ⊢
      obtain ⟨g, hg, rfl⟩ := (ht₁.groups s hs G).2 (Or.inl hhas)
      have hgref : g.ref = false := by
        rw [← Bool.not_eq_true, (hmarked.each s hs).groupRef g hg, hlisted]
        exact hunlisted
      refine called_append.2 (Or.inr ⟨⟨s.addr, s.fd, g.addr, false⟩, ?_, rfl, rfl⟩)
      refine List.mem_flatMap.2 ⟨s, List.mem_filter.2 ⟨hs, ?_⟩, mem_leaving.2 ⟨g, hg, hgref, rfl⟩⟩
      exact (hmarked.each s hs).ref.2 ((hstays _).2 hsock)

/-! ### Families -/

/-- The group's address is read as what it is. -/
def Membership.SameFamily (m : Membership) : Prop := m.group.family = m.socket.family

lemma sameFamily_iff : m.SameFamily ↔ m.group.data.length = m.socket.data.length := by
  rw [Membership.SameFamily, InetAddr.family, InetAddr.family]
  rcases m.group.length with hg | hg <;> rcases m.socket.length with hs | hs <;> simp [hg, hs]

/-- The changed groups have the family of their socket. -/
def FamiliesKept (old : List ListenSock) (done : List LineRead) : Prop :=
  ∀ a G, IsInet G → Changed old done a G → G.length = a.length

/-- The line may get a socket for this address: it begins with it, or with what is taken for a
wildcard. -/
def MayGet (first : HostOrAlias) (a : ARRAY8) : Prop :=
  first = .address a ∨ IsAny a ∧ ∀ b, first = .address b → b = []

/-- The groups of the line have the family of every socket that it may get. -/
def OneFamily (line : HostOrAlias × List HostOrAlias) : Prop :=
  ∀ a, IsInet a → MayGet line.1 a → ∀ G, HostOrAlias.address G ∈ line.2 → IsInet G →
    G.length = a.length

/-- The sockets after a number of updates with these databases. -/
inductive Updated (requestPort : UInt16) (m : Option (Octets 16)) :
    List (List DisplayEntry) → Sockets → Prop
  | start : Updated requestPort m [] Sockets.start
  | update {env : SocketEnv} {databases : List (List DisplayEntry)} {database : List DisplayEntry}
      {t t' : Sockets} : env.requestPort = requestPort → env.defaultMcastAddress = m →
      env.kernel.AssignsFree → Updated requestPort m databases t →
      updateListenSockets env database t = some ((), t') →
      Updated requestPort m (databases ++ [database]) t'

/-- Every group of every socket has its family. -/
def Sockets.GroupsKept (t : Sockets) : Prop :=
  ∀ s ∈ t.listensocks, ∀ g ∈ s.mcastgroups, g.data.length = s.data.length

lemma Resolves.mayGet {h : HostOrAlias} (hr : Resolves old (h.hostAddress env) (some a)) :
    MayGet h a := by
  have hzero : (h.hostAddress env).length = 0 → ∀ b, h = .address b → b = [] := by
    rintro hlen b rfl
    exact List.eq_nil_of_length_eq_zero hlen
  generalize haddr : h.hostAddress env = addr at hr hzero
  cases hr with
  | any6 hlen => exact Or.inr ⟨Or.inl rfl, hzero hlen⟩
  | any4 hlen _ => exact Or.inr ⟨Or.inr rfl, hzero hlen⟩
  | address _ _ => exact Or.inl (hostAddress_eq_bytes.1 haddr)

/-- The groups that such lines name for a socket have its family. -/
lemma Listed.length_eq {lines : List (HostOrAlias × List HostOrAlias)} (hl : Listed done a G)
    (hlines : List.Forall₂ (ReadLine env) lines done)
    (hresolves : ∀ x ∈ done, Resolves old x.first x.sock) (hone : ∀ line ∈ lines, OneFamily line)
    (ha : IsInet a) (hG : IsInet G) : G.length = a.length := by
  induction hlines with
  | nil =>
    obtain ⟨x, hx, -⟩ := hl
    cases hx
  | @cons line x lines done hline _ ih =>
    obtain ⟨hx, hresolves⟩ := List.forall_mem_cons.1 hresolves
    obtain ⟨hfirst, hone⟩ := List.forall_mem_cons.1 hone
    rcases listed_cons.1 hl with ⟨hsock, hmem⟩ | hl
    · rw [hline.first, hsock] at hx
      refine hfirst a ha hx.mayGet G ?_ hG
      rw [hline.groups, List.mem_reverse, List.mem_map] at hmem
      obtain ⟨h, hh, heq⟩ := hmem
      rwa [hostAddress_eq_bytes.1 heq] at hh
    · exact ih hl hresolves hone

/-- An update with lines that have one family each. -/
lemma wlp_updateListenSockets_families (hw : t.WellFormed) (hkept : t.GroupsKept)
    (hone : ∀ line ∈ listenLines env.defaultMcastAddress database, OneFamily line) :
    Wlp (updateListenSockets env database) (fun _ t' => t'.GroupsKept ∧ ∃ calls,
      t'.memberships = t.memberships ++ calls ∧ ∀ m ∈ calls, m.SameFamily) t := by
  refine (walks_true.wlp_updateListenSockets_calls hw trivial).mono fun _ t' h => ?_
  obtain ⟨done, calls, hlines, hresolves, hswept, hcalls, heach, -, -⟩ := h
  refine ⟨fun s hs g hg => ?_, calls, hcalls, fun m hm => sameFamily_iff.2 ?_⟩
  · obtain ⟨hG, hl⟩ := (hswept.groups s hs g.data).1 ⟨g, hg, rfl⟩
    exact hl.length_eq hlines hresolves hone s.isInet hG
  · rcases heach m hm with ⟨-, ⟨hl, -⟩ | ⟨⟨o, ho, hdata, g, hg, hgroup⟩, -⟩⟩
    · exact hl.length_eq hlines hresolves hone m.socket.length m.group.length
    · rw [← hdata, ← hgroup]
      exact hkept o ho g hg

/-- Without a request port no socket is ever opened. -/
lemma walks_closed (hport : env.requestPort = 0) : Walks env fun _ t => t.listensocks = [] := by
  refine walks_of (fun a t ht => ?_) fun t t' h ht => ?_
  · rw [openListener, wlp_bind, wlp_get]
    have hfind : findInList ListenSock.data t.listensocks a = none := by
      rw [ht]
      rfl
    rw [hfind]
    dsimp only
    cases createSocklistEntry env a with
    | none => exact (wlp_pure _ _ _).2 ht
    | some sock =>
      dsimp only
      rw [createListeningSocket, if_pos hport]
      exact (wlp_pure _ _ _).2 ht
  · have hbare := h.bare
    rw [ht, List.map_nil, List.map_eq_nil_iff] at hbare
    exact hbare

lemma wlp_updateListenSockets_closed (hport : env.requestPort = 0) (hw : t.WellFormed)
    (ht : t.listensocks = []) : Wlp (updateListenSockets env database) (fun _ t' =>
      t'.listensocks = [] ∧ t'.memberships = t.memberships) t := by
  have hstart : t.listensocks.map clearRefs = [] := by rw [ht, List.map_nil]
  refine ((walks_closed hport).wlp_updateListenSockets_calls hw hstart).mono fun _ t' h => ?_
  obtain ⟨done, calls, -, -, hswept, hcalls, heach, -, t₁, t₂, ht₁, -, heq⟩ := h
  have hnil : t'.listensocks = [] := by
    rw [heq]
    show swept t₁.listensocks = []
    rw [ht₁]
    rfl
  have hnone : calls = [] := by
    refine List.eq_nil_iff_forall_not_mem.2 fun m hm => ?_
    obtain ⟨⟨x, hx, hsock⟩, -⟩ := heach m hm
    obtain ⟨s, hs, -⟩ := hswept.present x hx _ hsock
    rw [hnil] at hs
    cases hs
  rw [hnone, List.append_nil] at hcalls
  exact ⟨hnil, hcalls⟩

variable {requestPort : UInt16} {group : Option (Octets 16)}
variable {databases : List (List DisplayEntry)}

lemma Updated.wellFormed (h : Updated requestPort group databases t) : t.WellFormed := by
  induction h with
  | start => exact wellFormed_start
  | update _ _ _ _ hrun ih =>
    obtain ⟨done, calls, -, -, hswept, -⟩ :=
      walks_true.wlp_updateListenSockets_calls ih trivial _ _ hrun
    exact hswept.wellFormed

lemma Updated.closed (h : Updated requestPort group databases t) (hport : requestPort = 0) :
    t.listensocks = [] ∧ t.memberships = [] := by
  induction h with
  | start => exact ⟨rfl, rfl⟩
  | update hport' _ _ hold hrun ih =>
    obtain ⟨hnil, hcalls⟩ := wlp_updateListenSockets_closed (hport'.trans hport) hold.wellFormed
      ih.1 _ _ hrun
    exact ⟨hnil, hcalls.trans ih.2⟩

lemma Updated.sameFamily (h : Updated requestPort group databases t)
    (hone : ∀ database ∈ databases, ∀ line ∈ listenLines group database, OneFamily line) :
    t.GroupsKept ∧ ∀ m ∈ t.memberships, m.SameFamily := by
  induction h with
  | start => exact ⟨List.forall_mem_nil _, List.forall_mem_nil _⟩
  | update _ hgroup _ hold hrun ih =>
    obtain ⟨hone, hlast⟩ := List.forall_mem_append.1 hone
    obtain ⟨hkept, hsame⟩ := ih hone
    obtain ⟨hkept', calls, hcalls, hnew⟩ := wlp_updateListenSockets_families hold.wellFormed hkept
      (hgroup ▸ hlast _ (List.mem_singleton_self _)) _ _ hrun
    refine ⟨hkept', ?_⟩
    rw [hcalls, List.forall_mem_append]
    exact ⟨hsame, hnew⟩

/-! ### A kernel that grants one address -/

/-- There is one descriptor, and only this address can be bound, if any. -/
def SocketEnv.only (requestPort : UInt16) (group : Option (Octets 16)) (a : Option ARRAY8) :
    SocketEnv where
  requestPort := requestPort
  defaultMcastAddress := group
  macroLength _ := 0
  kernel := ⟨fun _ process _ => if process = [] then some 3 else none,
    fun _ _ addr => some addr.data = a⟩

lemma assignsFree_only {b : Option ARRAY8} :
    (SocketEnv.only requestPort group b).kernel.AssignsFree := by
  intro n process family fd hsocket
  simp only [SocketEnv.only] at hsocket
  split_ifs at hsocket with hnil
  obtain rfl := Option.some.inj hsocket
  refine ⟨by decide, ?_⟩
  rw [hnil]
  exact List.forall_mem_nil _

/-- No socket, or one with the address that can be bound. -/
def OnlySock (b : Option ARRAY8) (t : Sockets) : Prop :=
  t.listensocks = [] ∧ t.process = [] ∨
    ∃ s, t.listensocks = [s] ∧ some s.data = b ∧ t.process ≠ []

variable {b : Option ARRAY8}

lemma wlp_openListener_inet (hport : requestPort ≠ 0) (ht : OnlySock b t) (ha : IsInet a) :
    Wlp (openListener (.only requestPort group b) a) (fun r t' =>
      OnlySock b t' ∧ r = if some a = b then some a else none) t := by
  have hentry : createSocklistEntry (.only requestPort group b) a =
      some ⟨portBytes requestPort, a, ha⟩ := createSocklistEntry_isInet ha
  have hport' : ¬ (SocketEnv.only requestPort group b).requestPort = 0 := hport
  rw [openListener, wlp_bind, wlp_get]
  rcases ht with ⟨hnil, hprocess⟩ | ⟨s, hone, hs, hprocess⟩
  · have hfind : findInList ListenSock.data t.listensocks a = none := by
      rw [hnil]
      rfl
    rw [hfind]
    dsimp only
    rw [hentry]
    dsimp only
    rw [wlp_bind, createListeningSocket, if_neg hport']
    simp only [SocketEnv.socket, SocketEnv.bind, SocketEnv.only, registerCloseOnFork, wlp_bind,
      wlp_get, wlp_set, wlp_modify, wlp_pure, hprocess, if_pos]
    refine wlp_ite (fun hbind => ?_) fun hbind => ?_
    · have hb : some a = b := by simpa using hbind
      simp only [addWellKnownSocket, wlp_bind, wlp_modify, wlp_pure, hb, if_pos]
      refine ⟨Or.inr ⟨⟨⟨portBytes requestPort, a, ha⟩, [], 3, true⟩, ?_, hb, ?_⟩, trivial⟩
      · rw [hnil]
      · simp [Keyed.modify]
    · have hb : some a ≠ b := by simpa using hbind
      simp only [closeFd, wlp_bind, wlp_modify, wlp_pure, if_neg hb]
      exact ⟨Or.inl ⟨hnil, by simp [Keyed.erase, hb]⟩, trivial⟩
  · by_cases hsa : s.data = a
    · have hfind : findInList ListenSock.data t.listensocks a = some s := by
        rw [hone, findInList, List.find?_cons_of_pos (by simpa using hsa)]
      rw [hfind]
      simp only [wlp_bind, wlp_set, wlp_pure]
      refine ⟨Or.inr ⟨{ s with ref := true }, ?_, hs, hprocess⟩, ?_⟩
      · simp [hone, Keyed.modify]
      · rw [hsa, if_pos (hsa ▸ hs)]
    · have hfind : findInList ListenSock.data t.listensocks a = none := by
        rw [hone, findInList, List.find?_cons_of_neg (by simpa using hsa)]
        rfl
      have hb : some a ≠ b := fun hb => hsa (Option.some.inj (hs.trans hb.symm))
      rw [hfind]
      dsimp only
      rw [hentry]
      dsimp only
      rw [wlp_bind, createListeningSocket, if_neg hport']
      simp only [SocketEnv.socket, SocketEnv.only, wlp_bind, wlp_get, wlp_set, wlp_pure,
        if_neg hprocess]
      exact ⟨Or.inr ⟨s, hone, hs, hprocess⟩, (if_neg hb).symm⟩

lemma wlp_openListener_only (hport : requestPort ≠ 0) (ht : OnlySock b t) :
    Wlp (openListener (.only requestPort group b) a) (fun r t' =>
      OnlySock b t' ∧ (IsInet a → r = if some a = b then some a else none)) t := by
  by_cases ha : IsInet a
  · exact (wlp_openListener_inet hport ht ha).mono fun r t' h => ⟨h.1, fun _ => h.2⟩
  · -- there is no socket for it, and none can be made
    have hfind : findInList ListenSock.data t.listensocks a = none := by
      refine List.find?_eq_none.2 fun s _ => ?_
      rw [decide_eq_true_eq]
      rintro rfl
      exact ha s.isInet
    rw [openListener, wlp_bind, wlp_get, hfind]
    dsimp only
    rw [createSocklistEntry_none ha]
    exact (wlp_pure _ _ _).2 ⟨ht, fun h => absurd h ha⟩

lemma OnlyGroups.onlySock (h : OnlyGroups t t') (ht : OnlySock b t) : OnlySock b t' := by
  have hprocess : t'.process = t.process := by rw [h.rest]
  have hbare := h.bare
  rcases ht with ⟨hnil, hempty⟩ | ⟨s, hone, hs, hne⟩
  · rw [hnil, List.map_nil, List.map_eq_nil_iff] at hbare
    exact Or.inl ⟨hbare, hprocess.trans hempty⟩
  · rw [hone, List.map_singleton, List.map_eq_singleton_iff] at hbare
    obtain ⟨s', hone', hsame⟩ := hbare
    have haddr : s'.addr = s.addr := by
      simp only [ListenSock.bare, ListenSock.mk.injEq] at hsame
      exact hsame.1
    refine Or.inr ⟨s', hone', ?_, hprocess ▸ hne⟩
    rw [← hs]
    exact congrArg (fun addr => some (InetAddr.data addr)) haddr

/-- What is passed on asks for the address. -/
def Asks (a : ARRAY8) (addr : ListenAddr) : Prop := addr = .bytes a ∨ addr.length = 0 ∧ IsAny a

/-- The lines that ask for this address get a socket. -/
lemma walks_only (hport : requestPort ≠ 0) : Walks (.only requestPort group b) fun done t =>
    OnlySock b t ∧ ∀ x ∈ done, ∀ a, some a = b → IsInet a → Asks a x.first → x.sock = some a where
  line {done addr c t} hI := by
    obtain ⟨ht, hdone⟩ := hI
    -- it is enough to look at this line
    suffices hline : Wlp (updateListener (.only requestPort group b) addr c) (fun r t' =>
        OnlySock b t' ∧ ∀ a, some a = b → IsInet a → Asks a addr → r = some a) t by
      exact hline.mono fun r t' h => ⟨h.1, List.forall_mem_cons.2 ⟨h.2, hdone⟩⟩
    refine wlp_ite (fun hzero => ?_) fun hlen => ?_
    · rw [wlp_bind]
      refine (wlp_openListener_only hport ht).mono fun r t₁ h₁ => ?_
      obtain ⟨ht₁, hr⟩ := h₁
      have hr := hr (Or.inr rfl)
      have hany : ∀ a, IsInet a → Asks a addr → IsAny a := by
        rintro a ha (rfl | ⟨-, hany⟩)
        · rw [List.eq_nil_of_length_eq_zero hzero] at ha
          exact absurd ha (by simp [IsInet])
        · exact hany
      cases r with
      | some data =>
        refine (wlp_pure _ _ _).2 ⟨ht₁, fun a hab _ _ => ?_⟩
        split_ifs at hr with h6
        rw [hr, hab, h6]
      | none =>
        refine (wlp_openListener_only hport ht₁).mono fun r t₂ h₂ =>
          ⟨h₂.1, fun a hab ha hasks => ?_⟩
        have hr' := h₂.2 (Or.inl rfl)
        rcases hany a ha hasks with rfl | rfl
        · rw [if_pos hab] at hr
          cases hr
        · rw [hr', if_pos hab]
    · rw [wlp_bind]
      refine wlp_read (fun a' haddr => ?_) fun a' hnull _ _ => ?_
      · refine (wlp_openListener_only hport ht).mono fun r t₁ h₁ => ⟨h₁.1, fun a hab ha hasks => ?_⟩
        rcases hasks with hasks | ⟨hzero, -⟩
        · obtain rfl := ListenAddr.bytes.inj (haddr.symm.trans hasks)
          rw [h₁.2 ha, if_pos hab]
        · exact absurd hzero hlen
      · refine (wlp_openListener_only hport ht).mono fun r t₁ h₁ => ⟨h₁.1, fun a hab ha hasks => ?_⟩
        rcases hasks with hasks | ⟨hzero, -⟩
        · exact absurd hasks (hnull a)
        · exact absurd hzero hlen
  group {done passed r gs addr t} hI := by
    obtain ⟨ht, hdone⟩ := hI
    obtain ⟨hx, hdone⟩ := List.forall_mem_cons.1 hdone
    exact (onlyGroups_updateMcastGroup t trivial).mono fun _ _ h =>
      ⟨h.2.onlySock ht, List.forall_mem_cons.2 ⟨hx, hdone⟩⟩

lemma readable_only : ∀ {h : HostOrAlias},
    (h.hostAddress (.only requestPort group b)).Readable
  | .address _ => fun _ => nofun
  | .alias _ => readable_null_zero
  | .broadcast => readable_null_zero
  | .chooser => readable_null_zero
  | .noBroadcast => readable_null_zero
  | .anyAddr => readable_null_zero

/-- With such a kernel an update returns. -/
lemma Updated.only (h : Updated requestPort group databases t) (b : Option ARRAY8)
    (database : List DisplayEntry) :
    ∃ t', updateListenSockets (.only requestPort group b) database t = some ((), t')
      ∧ Updated requestPort group (databases ++ [database]) t' := by
  have hreturns : Returns (updateListenSockets (.only requestPort group b) database) :=
    returns_updateListenSockets_of fun _ _ _ _ => readable_only
  obtain ⟨_, t', hrun, -⟩ := hreturns t
  exact ⟨t', hrun, h.update rfl rfl assignsFree_only hrun⟩

/-- If no address can be bound, there may be no socket after any number of updates. -/
lemma exists_updated (hport : requestPort ≠ 0) (databases : List (List DisplayEntry)) :
    ∃ t, Updated requestPort group databases t ∧ OnlySock none t := by
  induction databases using List.reverseRecOn with
  | nil => exact ⟨_, Updated.start, Or.inl ⟨rfl, rfl⟩⟩
  | append_singleton databases database ih =>
    obtain ⟨t, ht, honly⟩ := ih
    obtain ⟨t', hrun, ht'⟩ := ht.only none database
    refine ⟨t', ht', ?_⟩
    have hnone : ∀ {t : Sockets}, OnlySock none t → t.listensocks = [] ∧ t.process = [] := by
      rintro t (hnil | ⟨s, -, hs, -⟩)
      · exact hnil
      · cases hs
    obtain ⟨hnil, hprocess⟩ := hnone honly
    have hstart : OnlySock none { t with listensocks := t.listensocks.map clearRefs } :=
      Or.inl ⟨by rw [hnil, List.map_nil], hprocess⟩
    obtain ⟨done, -, -, -, t₁, t₂, ⟨ht₁, -⟩, hsweep, rfl⟩ :=
      (walks_only hport).wlp_updateListenSockets ht.wellFormed ⟨hstart, List.forall_mem_nil _⟩
        _ _ hrun
    obtain ⟨hnil₁, hprocess₁⟩ := hnone ht₁
    rw [hnil₁] at hsweep ⊢
    obtain ⟨-, rfl⟩ := Prod.mk.inj (Option.some.inj hsweep)
    exact Or.inl ⟨rfl, hprocess₁⟩

/-- A line with a group of another family can lead to a call for it. -/
lemma exists_mismatch (hport : requestPort ≠ 0) {database : List DisplayEntry}
    {line : HostOrAlias × List HostOrAlias} (hline : line ∈ listenLines group database)
    (hone : ¬ OneFamily line) : ∃ t, Updated requestPort group (databases ++ [database]) t ∧
      ∃ m ∈ t.memberships, ¬ m.SameFamily := by
  simp only [OneFamily, not_forall] at hone
  obtain ⟨a, ha, hget, G, hmem, hG, hne⟩ := hone
  obtain ⟨t, ht, honly⟩ : ∃ t, Updated requestPort group databases t ∧ OnlySock none t :=
    exists_updated hport databases
  have hnil : t.listensocks = [] := by
    rcases honly with ⟨hnil, -⟩ | ⟨s, -, hs, -⟩
    · exact hnil
    · cases hs
  obtain ⟨t', hrun, ht'⟩ := ht.only (some a) database
  refine ⟨t', ht', ?_⟩
  have hstart : OnlySock (some a) { t with listensocks := t.listensocks.map clearRefs } := by
    rcases honly with ⟨-, hprocess⟩ | ⟨s, -, hs, -⟩
    · exact Or.inl ⟨by rw [hnil, List.map_nil], hprocess⟩
    · cases hs
  obtain ⟨done, calls, hlines, -, -, hcalls, -, hall, t₁, -, ⟨-, hsocks⟩, -⟩ :=
    (walks_only hport).wlp_updateListenSockets_calls ht.wellFormed
      ⟨hstart, List.forall_mem_nil _⟩ _ _ hrun
  obtain ⟨x, hx, hread⟩ := exists_of_forall₂ hlines hline
  -- the line gets the socket
  have hasks : Asks a x.first := by
    rw [hread.first]
    rcases hget with hfirst | ⟨hany, hfirst⟩
    · exact Or.inl (hostAddress_eq_bytes.2 hfirst)
    · refine Or.inr ⟨?_, hany⟩
      cases hhost : line.1 with
      | address b' =>
        rw [hfirst b' hhost]
        rfl
      | «alias» _ => rfl
      | broadcast => rfl
      | chooser => rfl
      | noBroadcast => rfl
      | anyAddr => rfl
  have hsock : x.sock = some a := hsocks x (List.mem_reverse.2 hx) a rfl ha hasks
  have hlisted : Listed done a G := by
    refine ⟨x, hx, hsock, ?_⟩
    rw [hread.groups, List.mem_reverse]
    exact List.mem_map.2 ⟨_, hmem, rfl⟩
  have hnew : ¬ HasGroup t.listensocks a G := by
    rintro ⟨s, hs, -⟩
    rw [hnil] at hs
    cases hs
  obtain ⟨m, hm, hmsock, hmgroup⟩ := hall a G hG ⟨⟨x, hx, hsock⟩, Or.inl ⟨hlisted, hnew⟩⟩
  refine ⟨m, ?_, fun hsame => hne ?_⟩
  · rw [hcalls]
    exact List.mem_append_right _ hm
  · rw [← hmsock, ← hmgroup]
    exact sameFamily_iff.1 hsame

/-- The calls of further updates do not undo it. -/
lemma exists_mismatch_append (after : List (List DisplayEntry))
    (h : ∃ t, Updated requestPort group databases t ∧ ∃ m ∈ t.memberships, ¬ m.SameFamily) :
    ∃ t, Updated requestPort group (databases ++ after) t ∧
      ∃ m ∈ t.memberships, ¬ m.SameFamily := by
  induction after using List.reverseRecOn with
  | nil => rwa [List.append_nil]
  | append_singleton after database ih =>
    obtain ⟨t, ht, m, hm, hne⟩ := ih
    obtain ⟨t', hrun, ht'⟩ := ht.only none database
    obtain ⟨done, calls, -, -, -, hcalls, -⟩ :=
      walks_true.wlp_updateListenSockets_calls ht.wellFormed trivial _ _ hrun
    refine ⟨t', by rwa [← List.append_assoc], m, ?_, hne⟩
    rw [hcalls]
    exact List.mem_append_left _ hm

/-! ### All outcomes -/

/-- For every update and every outcome of it: the calls read each group's address as what it is if
and only if the changed groups have the family of the socket that their line has got.  For all
outcomes of any number of updates: they do if and only if there is no request port, or the groups
of every line have the family of every socket that the line may get. -/
theorem updateListenSockets_families_iff (requestPort : UInt16) (group : Option (Octets 16))
    (databases : List (List DisplayEntry)) :
    (∀ (env : SocketEnv) (database : List DisplayEntry) (t t' : Sockets), t.WellFormed →
      updateListenSockets env database t = some ((), t') → ∃ done calls,
        List.Forall₂ (ReadLine env) (listenLines env.defaultMcastAddress database) done ∧
        (∀ x ∈ done, Resolves t.listensocks x.first x.sock) ∧
        t'.memberships = t.memberships ++ calls ∧
        ((∀ m ∈ calls, m.SameFamily) ↔ FamiliesKept t.listensocks done)) ∧
    ((∀ t, Updated requestPort group databases t → ∀ m ∈ t.memberships, m.SameFamily) ↔
      requestPort = 0 ∨
        ∀ database ∈ databases, ∀ line ∈ listenLines group database, OneFamily line) := by
  refine ⟨fun env database t t' hw hrun => ?_, fun h => ?_, ?_⟩
  · obtain ⟨done, calls, hlines, hresolves, -, hcalls, heach, hall, -⟩ :=
      walks_true.wlp_updateListenSockets_calls hw trivial _ _ hrun
    refine ⟨done, calls, hlines, hresolves, hcalls, fun hsame a G hG hchanged => ?_,
      fun hkept m hm => ?_⟩
    · obtain ⟨m, hm, rfl, rfl⟩ := hall a G hG hchanged
      exact sameFamily_iff.1 (hsame m hm)
    · exact sameFamily_iff.2 (hkept _ _ m.group.length (heach m hm))
  · refine or_iff_not_imp_left.2 fun hport database hdatabase line hline => ?_
    by_contra hone
    obtain ⟨before, after, rfl⟩ := List.append_of_mem hdatabase
    have hbefore : ∃ t, Updated requestPort group (before ++ [database]) t ∧
        ∃ m ∈ t.memberships, ¬ m.SameFamily := exists_mismatch hport hline hone
    obtain ⟨t, ht, m, hm, hne⟩ := exists_mismatch_append after hbefore
    rw [List.append_assoc] at ht
    exact hne (h t ht m hm)
  · rintro (hport | hone) t ht
    · rw [(ht.closed hport).2]
      exact List.forall_mem_nil _
    · exact (ht.sameFamily hone).2

/-- The default group of IPv6, `ff02::12b`. -/
def defaultGroup : Octets 16 := ⟨[255, 2, 0, 0, 0, 0, 0, 0, 0, 0, 0, 0, 0, 0, 1, 43], rfl⟩

/-- Without `LISTEN` lines the default group is joined, be it on a socket for IPv4. -/
theorem updateListenSockets_defaultGroup : ∃ t, Updated 177 (some defaultGroup) [[]] t ∧
    ∃ m ∈ t.memberships, m.socket.data = inaddrAny ∧ ¬ m.SameFamily := by
  have hcalls : ((updateListenSockets (.only 177 (some defaultGroup) (some inaddrAny)) []
      Sockets.start).map fun p => p.2.memberships.map fun m => (m.socket.data, m.group.data)) =
        some [(inaddrAny, defaultGroup.1)] := by decide +kernel
  have hstart : Updated 177 (some defaultGroup) [] Sockets.start := Updated.start
  obtain ⟨t, hrun, ht⟩ := hstart.only (some inaddrAny) []
  rw [hrun, Option.map_some, Option.some_inj] at hcalls
  obtain ⟨m, hm, heq⟩ := List.mem_map.1 (hcalls ▸ List.mem_singleton_self _)
  obtain ⟨hsock, hgroup⟩ := Prod.mk.inj heq
  refine ⟨t, ht, m, hm, hsock, fun hsame => ?_⟩
  have hlen := sameFamily_iff.1 hsame
  rw [hsock, hgroup, defaultGroup.2] at hlen
  cases hlen

end Xdm
