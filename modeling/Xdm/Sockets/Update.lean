/-
# The listening sockets follow the access file

`UpdateListenSockets` marks the sockets and groups that the `LISTEN` lines name, opening those
that are missing, and then sweeps away what is not marked.  The invariant of the marking phase
is `Marked`: what is marked is what the lines have named so far.
-/
import Xdm.Sockets.Listen

namespace Xdm

open Prog

variable {env : SocketEnv} {t t' : Sockets} {l l' old : List ListenSock} {s : ListenSock}
variable {a G : ARRAY8} {r : Option ARRAY8} {fd : Nat}

/-! ### What leaves the list alone -/

/-- The list of sockets is the same. -/
def SameSocks (t t' : Sockets) : Prop := t'.listensocks = t.listensocks

instance : Std.Refl SameSocks := ⟨fun _ => rfl⟩

instance : IsTrans Sockets SameSocks := ⟨fun _ _ _ h h' => h'.trans h⟩

lemma sameSocks_modify {f : Sockets → Sockets} (h : ∀ t, (f t).listensocks = t.listensocks) :
    Respects SameSocks (modify f : Prog Sockets Unit) :=
  Keeps.modify fun t _ => ⟨trivial, h t⟩

lemma sameSocks_socket {family : AddrFamily} : Respects SameSocks (env.socket family) := by
  intro t _
  simp only [SocketEnv.socket, wlp_bind, wlp_get, wlp_set, wlp_pure]
  exact ⟨trivial, rfl⟩

lemma sameSocks_bind {addr : InetAddr} : Respects SameSocks (env.bind fd addr) := by
  intro t _
  simp only [SocketEnv.bind, wlp_bind, wlp_get, wlp_set, wlp_pure]
  exact ⟨trivial, rfl⟩

lemma sameSocks_createListeningSocket {addr : InetAddr} :
    Respects SameSocks (createListeningSocket env addr) := by
  refine Keeps.ite (fun _ => Keeps.pure _) fun _ => Keeps.bind sameSocks_socket fun r => ?_
  cases r with
  | none => exact Keeps.pure _
  | some fd =>
    refine Keeps.bind (sameSocks_modify fun _ => rfl) fun _ =>
      Keeps.bind sameSocks_bind fun ok => ?_
    refine Keeps.ite (fun _ => ?_) fun _ => ?_
    · exact Keeps.bind (sameSocks_modify fun _ => rfl) fun _ => Keeps.pure _
    · exact Keeps.bind (sameSocks_modify fun _ => rfl) fun _ => Keeps.pure _

/-! ### One call of `UpdateListener` -/

/-- What `UpdateListener` has done for the address `a`: it has marked a socket, or has opened
one, or has failed to. -/
inductive Listened (a : ARRAY8) (l : List ListenSock) :
    Option ARRAY8 → List ListenSock → Prop
  | kept : (∃ s ∈ l, s.data = a) →
      Listened a l (some a) (Keyed.modify ListenSock.data a (fun s => { s with ref := true }) l)
  | opened (s : ListenSock) : (∀ s' ∈ l, s'.data ≠ a) → s.data = a → s.ref = true →
      s.mcastgroups = [] → Listened a l (some a) (s :: l)
  | failed : (∀ s' ∈ l, s'.data ≠ a) → Listened a l none l

lemma findInList_some {α : Type} {data : α → ARRAY8} {list : List α} {x : α}
    (h : findInList data list a = some x) : x ∈ list ∧ data x = a :=
  ⟨List.mem_of_find?_eq_some h, by simpa using List.find?_some h⟩

lemma findInList_none {α : Type} {data : α → ARRAY8} {list : List α}
    (h : findInList data list a = none) : ∀ x ∈ list, data x ≠ a :=
  fun x hx => by simpa using List.find?_eq_none.1 h x hx

lemma createSocklistEntry_some {sock : InetAddr} (h : createSocklistEntry env a = some sock) :
    sock.data = a ∧ sock.port = portBytes env.requestPort := by
  rw [createSocklistEntry] at h
  split at h
  · obtain rfl := Option.some.inj h
    exact ⟨rfl, rfl⟩
  · cases h

/-- The rule for `openListener`: a socket of the list is marked, the address has a wrong length, or
a socket is made for it, which may fail. -/
lemma wlp_openListener_of {Q : Option ARRAY8 → Sockets → Prop}
    (hkept : (∃ s ∈ t.listensocks, s.data = a) → Q (some a) { t with
      listensocks := Keyed.modify ListenSock.data a (fun s => { s with ref := true })
        t.listensocks })
    (hwrong : (∀ s ∈ t.listensocks, s.data ≠ a) → createSocklistEntry env a = none → Q none t)
    (hmade : ∀ sock, (∀ s ∈ t.listensocks, s.data ≠ a) → sock.data = a →
      sock.port = portBytes env.requestPort →
      Wlp (createListeningSocket env sock) (fun r t' => (r = none → Q none t') ∧
        ∀ fd, r = some fd → Q (some a) { t' with
          listensocks := ⟨sock, [], fd, true⟩ :: t'.listensocks }) t) :
    Wlp (openListener env a) Q t := by
  rw [openListener, wlp_bind, wlp_get]
  cases hfind : findInList ListenSock.data t.listensocks a with
  | some s =>
    obtain ⟨hs, rfl⟩ := findInList_some hfind
    simp only [wlp_bind, wlp_set, wlp_pure]
    exact hkept ⟨s, hs, rfl⟩
  | none =>
    have hnew := findInList_none hfind
    dsimp only
    cases hentry : createSocklistEntry env a with
    | none => exact (wlp_pure _ _ _).2 (hwrong hnew hentry)
    | some sock =>
      obtain ⟨rfl, hport⟩ := createSocklistEntry_some hentry
      rw [wlp_bind]
      refine (hmade sock hnew rfl hport).mono fun r t' h => ?_
      cases r with
      | none => exact (wlp_pure _ _ _).2 (h.1 rfl)
      | some fd =>
        simp only [wlp_bind, wlp_modify, wlp_pure]
        exact h.2 fd rfl

lemma wlp_openListener :
    Wlp (openListener env a) (fun r t' => Listened a t.listensocks r t'.listensocks) t := by
  refine wlp_openListener_of Listened.kept (fun hnew _ => Listened.failed hnew)
    fun sock hnew hdata _ => (sameSocks_createListeningSocket t trivial).mono fun r t' ht => ?_
  obtain ⟨-, hsame⟩ := ht
  rw [SameSocks] at hsame
  refine ⟨fun _ => ?_, fun fd _ => ?_⟩
  · rw [hsame]
    exact Listened.failed hnew
  · dsimp only
    rw [hsame]
    exact Listened.opened ⟨sock, [], fd, true⟩ hnew hdata rfl rfl

/-! ### What is marked -/

/-- An address of IPv4 or IPv6. -/
def IsInet (a : ARRAY8) : Prop := a.length = 4 ∨ a.length = 16

lemma createSocklistEntry_isInet (ha : IsInet a) :
    createSocklistEntry env a = some ⟨portBytes env.requestPort, a, ha⟩ := dif_pos ha

lemma createSocklistEntry_none (ha : ¬ IsInet a) : createSocklistEntry env a = none := dif_neg ha

/-- A line that has been read: what is passed on for its first host, the address of the socket
that it has got, if any, and the groups of the line, the last one first. -/
structure LineRead where
  first : ListenAddr
  sock : Option ARRAY8
  groups : List ListenAddr

/-- One of the lines has named the group for the socket with this address. -/
def Listed (done : List LineRead) (a G : ARRAY8) : Prop :=
  ∃ x ∈ done, x.sock = some a ∧ ListenAddr.bytes G ∈ x.groups

/-- The socket and its groups are marked if the lines have named them. -/
structure SockMarked (done : List LineRead) (s : ListenSock) : Prop where
  ref : s.ref = true ↔ ∃ x ∈ done, x.sock = some s.data
  distinct : Keyed.Distinct McastGroup.data s.mcastgroups
  groupRef : ∀ g ∈ s.mcastgroups, (g.ref = true ↔ Listed done s.data g.data)
  groupAll : ∀ G, IsInet G → Listed done s.data G → ∃ g ∈ s.mcastgroups, g.data = G

/-- The state of the marking phase, with the sockets `old` at its start. -/
structure Marked (old : List ListenSock) (done : List LineRead) (l : List ListenSock) :
    Prop where
  distinct : Keyed.Distinct ListenSock.data l
  each : ∀ s ∈ l, SockMarked done s
  present : ∀ x ∈ done, ∀ a, x.sock = some a → ∃ s ∈ l, s.data = a
  kept : ∀ o ∈ old, ∃ s ∈ l, s.addr = o.addr ∧ s.fd = o.fd

variable {done : List LineRead} {passed addr : ListenAddr} {gs : List ListenAddr}

lemma listed_cons {x : LineRead} : Listed (x :: done) a G ↔
    (x.sock = some a ∧ ListenAddr.bytes G ∈ x.groups) ∨ Listed done a G := by
  simp [Listed]

namespace SockMarked

/-- A line that is about another socket. -/
lemma other (h : SockMarked done s) {x : LineRead} (hx : x.sock ≠ some s.data) :
    SockMarked (x :: done) s := by
  have hlisted : ∀ G, Listed (x :: done) s.data G ↔ Listed done s.data G := by
    intro G
    rw [listed_cons]
    exact or_iff_right fun hl => hx hl.1
  refine ⟨h.ref.trans ?_, h.distinct, fun g hg => ?_, fun G hG hl => ?_⟩
  · rw [List.exists_mem_cons_iff]
    exact (or_iff_right hx).symm
  · rw [hlisted]
    exact h.groupRef g hg
  · exact h.groupAll G hG ((hlisted G).1 hl)

/-- A line that is about this socket, before its groups are read. -/
lemma named (h : SockMarked done s) :
    SockMarked (⟨passed, some s.data, []⟩ :: done) { s with ref := true } := by
  have hlisted : ∀ G, Listed (⟨passed, some s.data, []⟩ :: done) s.data G ↔
      Listed done s.data G := by
    intro G
    rw [listed_cons]
    exact or_iff_right fun hl => List.not_mem_nil hl.2
  refine ⟨iff_of_true rfl ⟨_, List.mem_cons_self .., rfl⟩, h.distinct, fun g hg => ?_,
    fun G hG hl => ?_⟩
  · exact (h.groupRef g hg).trans (hlisted _).symm
  · exact h.groupAll G hG ((hlisted G).1 hl)

/-- A socket that this line has opened. -/
lemma fresh (href : s.ref = true) (hgroups : s.mcastgroups = [])
    (hnew : ∀ x ∈ done, x.sock ≠ some s.data) :
    SockMarked (⟨passed, some s.data, []⟩ :: done) s := by
  refine ⟨iff_of_true href ⟨_, List.mem_cons_self .., rfl⟩, ?_, ?_, ?_⟩
  · rw [hgroups]
    exact List.nodup_nil
  · rw [hgroups]
    exact List.forall_mem_nil _
  · rintro G - hl
    rcases listed_cons.1 hl with ⟨-, hl⟩ | ⟨x, hx, hxa, -⟩
    · exact absurd hl List.not_mem_nil
    · exact absurd hxa (hnew x hx)

/-- A group that is none: it has a different length, or is no address at all. -/
lemma ignored (h : SockMarked (⟨passed, r, gs⟩ :: done) s) (hr : r ≠ some s.data ∨
      ∀ G, addr = .bytes G → ¬ IsInet G) : SockMarked (⟨passed, r, addr :: gs⟩ :: done) s := by
  have hlisted : ∀ G, IsInet G → (Listed (⟨passed, r, addr :: gs⟩ :: done) s.data G ↔
      Listed (⟨passed, r, gs⟩ :: done) s.data G) := by
    intro G hG
    rw [listed_cons, listed_cons, List.mem_cons]
    refine or_congr_left (and_congr_right fun hra => or_iff_right fun haddr => ?_)
    rcases hr with hne | hnone
    · exact hne hra
    · exact hnone G haddr.symm hG
  refine ⟨h.ref.trans ?_, h.distinct, fun g hg => ?_, fun G hG hl => ?_⟩
  · rw [List.exists_mem_cons_iff, List.exists_mem_cons_iff]
  · exact (h.groupRef g hg).trans (hlisted g.data g.addr.length).symm
  · exact h.groupAll G hG ((hlisted G hG).1 hl)

/-- A group of this socket is marked, or joined. -/
lemma joined (h : SockMarked (⟨passed, some s.data, gs⟩ :: done) s) {groups : List McastGroup}
    (hdistinct : Keyed.Distinct McastGroup.data groups)
    (href : ∀ g ∈ groups, (g.data = G ∧ g.ref = true) ∨ (g.data ≠ G ∧ g ∈ s.mcastgroups))
    (hall : ∀ g ∈ s.mcastgroups, ∃ g' ∈ groups, g'.data = g.data)
    (hG : ∃ g ∈ groups, g.data = G) :
    SockMarked (⟨passed, some s.data, .bytes G :: gs⟩ :: done)
      { s with mcastgroups := groups } := by
  have hlisted : ∀ H, Listed (⟨passed, some s.data, .bytes G :: gs⟩ :: done) s.data H ↔
      H = G ∨ Listed (⟨passed, some s.data, gs⟩ :: done) s.data H := by
    intro H
    rw [listed_cons, listed_cons, List.mem_cons, ListenAddr.bytes.injEq]
    simp only [true_and, or_assoc]
  refine ⟨h.ref.trans ?_, hdistinct, fun g hg => ?_, fun H hH hl => ?_⟩
  · rw [List.exists_mem_cons_iff, List.exists_mem_cons_iff]
    exact Iff.rfl
  · refine Iff.trans ?_ (hlisted g.data).symm
    rcases href g hg with ⟨hdata, hmark⟩ | ⟨hne, hold⟩
    · exact iff_of_true hmark (Or.inl hdata)
    · rw [h.groupRef g hold]
      exact (or_iff_right hne).symm
  · rcases (hlisted H).1 hl with rfl | hl
    · exact hG
    · obtain ⟨g, hg, rfl⟩ := h.groupAll H hH hl
      exact hall g hg

end SockMarked

/-! ### One call of `UpdateMcastGroup` -/

/-- What `UpdateMcastGroup` does for the socket `r` of the list and the group `addr`. -/
inductive GroupCall (r : Option ARRAY8) (addr : ListenAddr) (t : Sockets) : Sockets → Prop
  | ignored : (r = none ∨ ∀ G, addr = .bytes G → ¬ IsInet G) → GroupCall r addr t t
  | marked (s : ListenSock) (g : McastGroup) : s ∈ t.listensocks → g ∈ s.mcastgroups →
      r = some s.data → addr = .bytes g.data →
      GroupCall r addr t { t with
        listensocks := Keyed.modify ListenSock.data s.data (fun x => { x with
          mcastgroups := Keyed.modify McastGroup.data g.data (fun g => { g with ref := true })
            s.mcastgroups }) t.listensocks }
  | joined (s : ListenSock) (group : InetAddr) : s ∈ t.listensocks →
      (∀ g ∈ s.mcastgroups, g.data ≠ group.data) → r = some s.data → addr = .bytes group.data →
      GroupCall r addr t { t with
        memberships := t.memberships ++ [⟨s.addr, s.fd, group, true⟩]
        listensocks := Keyed.modify ListenSock.data s.data
          (fun x => { x with mcastgroups := ⟨group, true⟩ :: s.mcastgroups }) t.listensocks }

lemma wlp_read {Q : ARRAY8 → Sockets → Prop} (hbytes : ∀ G, addr = .bytes G → Q G t)
    (hnull : ∀ G, (∀ H, addr ≠ .bytes H) → G.length ≠ 4 → G.length ≠ 16 → Q G t) :
    Wlp addr.read Q t := by
  cases addr with
  | bytes G => exact (wlp_pure _ _ _).2 (hbytes G rfl)
  | null n =>
    refine wlp_ite (fun _ => (wlp_failure _ _).2 trivial) fun hn => (wlp_pure _ _ _).2 ?_
    obtain ⟨h4, h16⟩ := not_or.1 hn
    exact hnull _ (fun _ => nofun) (by simpa using h4) (by simpa using h16)

lemma wlp_updateMcastGroup_calls (hr : ∀ a, r = some a → ∃ s ∈ t.listensocks, s.data = a) :
    Wlp (updateMcastGroup env addr r) (fun r' t' => r' = r ∧ GroupCall r addr t t') t := by
  rw [updateMcastGroup, wlp_bind, wlp_get]
  cases r with
  | none => exact (wlp_pure _ _ _).2 ⟨rfl, GroupCall.ignored (Or.inl rfl)⟩
  | some a =>
    rw [Option.bind_some]
    cases hfind : findInList ListenSock.data t.listensocks a with
    | none =>
      obtain ⟨s, hs, hdata⟩ := hr a rfl
      exact absurd hdata (findInList_none hfind s hs)
    | some s =>
      obtain ⟨hs, rfl⟩ := findInList_some hfind
      dsimp only
      rw [wlp_bind]
      refine wlp_read (fun G hG => ?_) fun G hnull h4 h16 => ?_
      · cases hgroup : findInList McastGroup.data s.mcastgroups G with
        | some g =>
          obtain ⟨hg, rfl⟩ := findInList_some hgroup
          simp only [updateMcastGroup.writeGroups, wlp_bind, wlp_modify, wlp_pure]
          exact ⟨trivial, GroupCall.marked s g hs hg rfl hG⟩
        | none =>
          dsimp only
          cases hentry : createSocklistEntry env G with
          | none =>
            simp only [wlp_pure]
            refine ⟨trivial, GroupCall.ignored (Or.inr fun H hH hinet => ?_)⟩
            obtain rfl := ListenAddr.bytes.inj (hG.symm.trans hH)
            rw [createSocklistEntry_isInet hinet] at hentry
            cases hentry
          | some group =>
            obtain ⟨rfl, -⟩ := createSocklistEntry_some hentry
            simp only [changeMcastMembership, updateMcastGroup.writeGroups, wlp_bind,
              wlp_modify, wlp_pure]
            exact ⟨trivial, GroupCall.joined s group hs (findInList_none hgroup) rfl hG⟩
      · -- no group of the list has so many bytes
        have hentry : createSocklistEntry env G = none :=
          createSocklistEntry_none (not_or.2 ⟨h4, h16⟩)
        have hgroup : findInList McastGroup.data s.mcastgroups G = none := by
          refine List.find?_eq_none.2 fun g _ => ?_
          rw [decide_eq_true_eq]
          rintro rfl
          exact g.addr.length.elim h4 h16
        simp only [hgroup, hentry, wlp_pure]
        exact ⟨trivial, GroupCall.ignored (Or.inr fun H hH => absurd hH (hnull H))⟩

/-- What `UpdateMcastGroup` has done with the group `addr` for the socket `r`. -/
inductive Joined (r : Option ARRAY8) (addr : ListenAddr) (l : List ListenSock) :
    List ListenSock → Prop
  | ignored : (r = none ∨ ∀ G, addr = .bytes G → ¬ IsInet G) → Joined r addr l l
  | joined (s : ListenSock) (G : ARRAY8) (groups : List McastGroup) : s ∈ l → r = some s.data →
      addr = .bytes G →
      (Keyed.Distinct McastGroup.data s.mcastgroups → Keyed.Distinct McastGroup.data groups) →
      (∀ g ∈ groups, (g.data = G ∧ g.ref = true) ∨ (g.data ≠ G ∧ g ∈ s.mcastgroups)) →
      (∀ g ∈ s.mcastgroups, ∃ g' ∈ groups, g'.data = g.data) → (∃ g ∈ groups, g.data = G) →
      Joined r addr l (Keyed.modify ListenSock.data s.data
        (fun s => { s with mcastgroups := groups }) l)

/-- The group has been found, and is marked. -/
lemma Joined.marked {g : McastGroup} {groups : List McastGroup} (hs : s ∈ l)
    (hg : g ∈ s.mcastgroups) (haddr : addr = .bytes g.data)
    (hgroups : groups = Keyed.modify McastGroup.data g.data (fun g => { g with ref := true })
      s.mcastgroups) :
    Joined (some s.data) addr l (Keyed.modify ListenSock.data s.data
      (fun s => { s with mcastgroups := groups }) l) := by
  subst hgroups
  refine Joined.joined s g.data _ hs rfl haddr (fun hd => hd.modify fun _ => rfl)
    (fun g' hg' => ?_) (fun g' hg' => ?_) ?_
  · rcases Keyed.mem_modify.1 hg' with ⟨h, -, hdata, rfl⟩ | ⟨hold, hne⟩
    · exact Or.inl ⟨hdata, rfl⟩
    · exact Or.inr ⟨hne, hold⟩
  · by_cases hdata : g'.data = g.data
    · exact ⟨_, Keyed.mem_modify.2 (Or.inl ⟨g', hg', hdata, rfl⟩), rfl⟩
    · exact ⟨g', Keyed.mem_modify.2 (Or.inr ⟨hg', hdata⟩), rfl⟩
  · exact ⟨_, Keyed.mem_modify.2 (Or.inl ⟨g, hg, rfl, rfl⟩), rfl⟩

/-- The group is a new one. -/
lemma Joined.new {group : InetAddr} (hs : s ∈ l)
    (hnew : ∀ g ∈ s.mcastgroups, g.data ≠ group.data) (haddr : addr = .bytes group.data) :
    Joined (some s.data) addr l (Keyed.modify ListenSock.data s.data
      (fun x => { x with mcastgroups := ⟨group, true⟩ :: s.mcastgroups }) l) := by
  refine Joined.joined s group.data _ hs rfl haddr (fun hd => hd.cons hnew) (fun g' hg' => ?_)
    (fun g' hg' => ⟨g', List.mem_cons_of_mem _ hg', rfl⟩) ⟨_, List.mem_cons_self .., rfl⟩
  rcases List.mem_cons.1 hg' with rfl | hg'
  · exact Or.inl ⟨rfl, rfl⟩
  · exact Or.inr ⟨hnew g' hg', hg'⟩

lemma wlp_updateMcastGroup (hr : ∀ a, r = some a → ∃ s ∈ t.listensocks, s.data = a) :
    Wlp (updateMcastGroup env addr r)
      (fun r' t' => r' = r ∧ Joined r addr t.listensocks t'.listensocks) t := by
  refine (wlp_updateMcastGroup_calls hr).mono fun r' t' h => ⟨h.1, ?_⟩
  obtain ⟨-, hcall⟩ := h
  cases hcall with
  | ignored hnone => exact Joined.ignored hnone
  | marked s g hs hg hr haddr =>
    subst hr
    exact Joined.marked hs hg haddr rfl
  | joined s group hs hnew hr haddr =>
    subst hr
    exact Joined.new hs hnew haddr

/-! ### The marking phase -/

/-- The sockets are still there when one of them has been changed. -/
lemma covers_modify {f : ListenSock → ListenSock}
    (hf : ∀ s, (f s).addr = s.addr ∧ (f s).fd = s.fd) :
    ∀ s ∈ l, ∃ s' ∈ Keyed.modify ListenSock.data a f l, s'.addr = s.addr ∧ s'.fd = s.fd := by
  intro s hs
  by_cases hsa : s.data = a
  · exact ⟨f s, Keyed.mem_modify.2 (Or.inl ⟨s, hs, hsa, rfl⟩), hf s⟩
  · exact ⟨s, Keyed.mem_modify.2 (Or.inr ⟨hs, hsa⟩), rfl, rfl⟩

lemma Marked.listened (h : Marked old done l) (hl : Listened a l r l') :
    Marked old (⟨passed, r, []⟩ :: done) l' := by
  cases hl with
  | kept hex =>
    obtain ⟨s₀, hs₀, hdata₀⟩ := hex
    have hcover := covers_modify (l := l) (a := a) (f := fun s => { s with ref := true })
      fun _ => ⟨rfl, rfl⟩
    refine ⟨h.distinct.modify fun _ => rfl, fun s' hs' => ?_, fun x hx b hb => ?_,
      fun o ho => ?_⟩
    · rcases Keyed.mem_modify.1 hs' with ⟨s, hs, rfl, rfl⟩ | ⟨hs, hne⟩
      · exact (h.each s hs).named
      · exact (h.each s' hs).other fun heq => hne (Option.some.inj heq).symm
    · have hex : ∃ s ∈ l, s.data = b := by
        rcases List.mem_cons.1 hx with rfl | hx
        · exact ⟨s₀, hs₀, hdata₀.trans (Option.some.inj hb)⟩
        · exact h.present x hx b hb
      obtain ⟨s, hs, rfl⟩ := hex
      obtain ⟨s', hs', haddr, -⟩ := hcover s hs
      exact ⟨s', hs', congrArg InetAddr.data haddr⟩
    · obtain ⟨s, hs, haddr, hfd⟩ := h.kept o ho
      obtain ⟨s', hs', haddr', hfd'⟩ := hcover s hs
      exact ⟨s', hs', haddr'.trans haddr, hfd'.trans hfd⟩
  | opened s hnew hdata href hgroups =>
    subst hdata
    have hunread : ∀ x ∈ done, x.sock ≠ some s.data := by
      intro x hx hxs
      obtain ⟨s', hs', hdata⟩ := h.present x hx _ hxs
      exact hnew s' hs' hdata
    refine ⟨h.distinct.cons hnew, fun s' hs' => ?_, fun x hx b hb => ?_, fun o ho => ?_⟩
    · rcases List.mem_cons.1 hs' with rfl | hs'
      · exact SockMarked.fresh href hgroups hunread
      · exact (h.each s' hs').other fun heq => hnew s' hs' (Option.some.inj heq).symm
    · rcases List.mem_cons.1 hx with rfl | hx
      · exact ⟨s, List.mem_cons_self .., Option.some.inj hb⟩
      · obtain ⟨s', hs', hdata⟩ := h.present x hx b hb
        exact ⟨s', List.mem_cons_of_mem _ hs', hdata⟩
    · obtain ⟨s', hs', hspec⟩ := h.kept o ho
      exact ⟨s', List.mem_cons_of_mem _ hs', hspec⟩
  | failed _ =>
    refine ⟨h.distinct, fun s hs => (h.each s hs).other (by simp), fun x hx b hb => ?_, h.kept⟩
    rcases List.mem_cons.1 hx with rfl | hx
    · cases hb
    · exact h.present x hx b hb

lemma Marked.joined (h : Marked old (⟨passed, r, gs⟩ :: done) l) (hj : Joined r addr l l') :
    Marked old (⟨passed, r, addr :: gs⟩ :: done) l' := by
  have hpresent : ∀ x ∈ (⟨passed, r, addr :: gs⟩ :: done : List LineRead), ∀ a, x.sock = some a →
      ∃ s ∈ l, s.data = a := by
    intro x hx b hb
    rcases List.mem_cons.1 hx with rfl | hx
    · exact h.present ⟨passed, r, gs⟩ (List.mem_cons_self ..) b hb
    · exact h.present x (List.mem_cons_of_mem _ hx) b hb
  cases hj with
  | ignored hnone =>
    refine ⟨h.distinct, fun s hs => (h.each s hs).ignored ?_, hpresent, h.kept⟩
    exact hnone.imp_left fun hr heq => by rw [hr] at heq; cases heq
  | joined s G groups hs hr haddr hdistinct href hall hG =>
    subst hr haddr
    have hcover := covers_modify (l := l) (a := s.data)
      (f := fun s => { s with mcastgroups := groups }) fun _ => ⟨rfl, rfl⟩
    refine ⟨h.distinct.modify fun _ => rfl, fun s' hs' => ?_, fun x hx b hb => ?_,
      fun o ho => ?_⟩
    · rcases Keyed.mem_modify.1 hs' with ⟨s₁, hs₁, hdata, rfl⟩ | ⟨hs₁, hne⟩
      · obtain rfl := h.distinct.eq_of_mem hs₁ hs hdata
        exact (h.each s₁ hs₁).joined (hdistinct (h.each s₁ hs₁).distinct) href hall hG
      · exact (h.each s' hs₁).ignored (Or.inl fun heq => hne (Option.some.inj heq).symm)
    · obtain ⟨s₁, hs₁, rfl⟩ := hpresent x hx b hb
      obtain ⟨s', hs', haddr, -⟩ := hcover s₁ hs₁
      exact ⟨s', hs', congrArg InetAddr.data haddr⟩
    · obtain ⟨s₁, hs₁, haddr, hfd⟩ := h.kept o ho
      obtain ⟨s', hs', haddr', hfd'⟩ := hcover s₁ hs₁
      exact ⟨s', hs', haddr'.trans haddr, hfd'.trans hfd⟩

end Xdm
