/-
# When the sockets are those of the lines

An update returns and follows the lines, whatever the kernel answers, if they name addresses.
Otherwise the first host is taken for a wildcard, or a macro for an address; a kernel that grants
everything shows it.
-/
import Xdm.Sockets.Named
import Xdm.Sockets.Passed

namespace Xdm

open Prog

variable {env : SocketEnv} {t t' : Sockets} {old : List ListenSock} {a : ARRAY8}
variable {r : Option ARRAY8} {done : List LineRead} {addr : ListenAddr}
variable {database : List DisplayEntry} {d : DisplayEntry}

/-! ### Updates that return -/

/-- It is not read through a null pointer. -/
def ListenAddr.Readable (addr : ListenAddr) : Prop :=
  ∀ n, addr = .null n → n ≠ 4 ∧ n ≠ 16

lemma readable_null_zero : (ListenAddr.null 0).Readable := by
  intro n hn
  obtain rfl := ListenAddr.null.inj hn
  exact ⟨by decide, by decide⟩

lemma readable_hostAddress :
    ∀ {h : HostOrAlias}, (∀ name, h ≠ .alias name) → (h.hostAddress env).Readable
  | .address _, _ => fun _ => nofun
  | .alias name, hh => absurd rfl (hh name)
  | .broadcast, _ => readable_null_zero
  | .chooser, _ => readable_null_zero
  | .noBroadcast, _ => readable_null_zero
  | .anyAddr, _ => readable_null_zero

lemma returns_read (hr : addr.Readable) : Returns addr.read := by
  cases addr with
  | bytes a => exact Returns.pure a
  | null n =>
    obtain ⟨h4, h16⟩ := hr n rfl
    exact Returns.ite (fun hn => absurd hn (not_or.2 ⟨h4, h16⟩)) fun _ => Returns.pure _

lemma returns_createListeningSocket {sock : InetAddr} :
    Returns (createListeningSocket env sock) := by
  refine Returns.ite (fun _ => Returns.pure _) fun _ => ?_
  refine Returns.bind (Returns.bind Returns.get fun s => Returns.bind (Returns.set _) fun _ =>
    Returns.pure _) fun fd => ?_
  cases fd with
  | none => exact Returns.pure _
  | some fd =>
    refine Returns.bind (Returns.modify _) fun _ => Returns.bind (Returns.bind Returns.get
      fun s => Returns.bind (Returns.set _) fun _ => Returns.pure _) fun ok => ?_
    refine Returns.ite (fun _ => ?_) fun _ => ?_
    · exact Returns.bind (Returns.modify _) fun _ => Returns.pure _
    · exact Returns.bind (Returns.modify _) fun _ => Returns.pure _

lemma returns_openListener : Returns (openListener env a) := by
  refine Returns.bind Returns.get fun t => ?_
  cases findInList ListenSock.data t.listensocks a with
  | some s => exact Returns.bind (Returns.set _) fun _ => Returns.pure _
  | none =>
    dsimp only
    cases createSocklistEntry env a with
    | none => exact Returns.pure _
    | some sock =>
      refine Returns.bind returns_createListeningSocket fun fd => ?_
      cases fd with
      | none => exact Returns.pure _
      | some fd => exact Returns.bind (Returns.modify _) fun _ => Returns.pure _

lemma returns_updateListener {c : Option ARRAY8} (hr : addr.Readable) :
    Returns (updateListener env addr c) := by
  refine Returns.ite (fun _ => Returns.bind returns_openListener fun r => ?_) fun _ =>
    Returns.bind (returns_read hr) fun _ => returns_openListener
  cases r with
  | some data => exact Returns.pure _
  | none => exact returns_openListener

lemma returns_updateMcastGroup (hr : addr.Readable) : Returns (updateMcastGroup env addr r) := by
  refine Returns.bind Returns.get fun t => ?_
  cases r.bind (findInList ListenSock.data t.listensocks) with
  | none => exact Returns.pure _
  | some s =>
    refine Returns.bind (returns_read hr) fun a => ?_
    cases findInList McastGroup.data s.mcastgroups a with
    | some g => exact Returns.bind (Returns.modify _) fun _ => Returns.pure _
    | none =>
      dsimp only
      cases createSocklistEntry env a with
      | none => exact Returns.pure _
      | some group =>
        exact Returns.bind (Returns.modify _) fun _ => Returns.bind (Returns.modify _)
          fun _ => Returns.pure _

/-- The addresses that the lines pass on can be read. -/
def LinesReadable (env : SocketEnv) (lines : List (HostOrAlias × List HostOrAlias)) : Prop :=
  ∀ line ∈ lines, ∀ h ∈ line.1 :: line.2, (h.hostAddress env).Readable

lemma returns_passLines {γ : Type} {f g : ListenAddr → γ → Prog Sockets γ}
    (hf : ∀ addr c, addr.Readable → Returns (f addr c))
    (hg : ∀ addr c, addr.Readable → Returns (g addr c)) :
    ∀ {lines : List (HostOrAlias × List HostOrAlias)} {c : γ}, LinesReadable env lines →
      Returns (passLines env f g lines c)
  | [], _, _ => Returns.pure _
  | line :: lines, c, hr => by
    obtain ⟨hline, hr⟩ := List.forall_mem_cons.1 hr
    obtain ⟨hfirst, hgroups⟩ := List.forall_mem_cons.1 hline
    refine Returns.bind (hf _ c hfirst) fun c => Returns.bind ?_ fun _ => returns_passLines hf hg hr
    clear hline
    generalize line.2 = hosts at hgroups
    induction hosts generalizing c with
    | nil => exact Returns.pure _
    | cons host hosts ih =>
      obtain ⟨hhost, hgroups⟩ := List.forall_mem_cons.1 hgroups
      exact Returns.bind (hg _ c hhost) fun c => ih c hgroups

lemma linesReadable {m : Option (Octets 16)} (hn : ∀ d ∈ database, d.NamesAddresses) :
    LinesReadable env (listenLines m database) := by
  have hplain : ∀ {line : HostOrAlias × List HostOrAlias},
      (line.1 = .anyAddr ∨ ∃ a, line.1 = .address a) → (∀ name, .alias name ∉ line.2) →
      ∀ h ∈ line.1 :: line.2, (h.hostAddress env).Readable := by
    intro line hfirst hmacro
    refine List.forall_mem_cons.2 ⟨readable_hostAddress fun name hname => ?_, fun h hh =>
      readable_hostAddress fun name hname => hmacro name (hname ▸ hh)⟩
    rcases hfirst with hany | ⟨a, ha⟩
    · rw [hany] at hname
      cases hname
    · rw [ha] at hname
      cases hname
  intro line hline
  rw [listenLines] at hline
  split_ifs at hline
  · obtain ⟨d, hd, hline⟩ := List.mem_filterMap.1 hline
    obtain ⟨hfirst, hmacro⟩ := hn d hd line.1 line.2 hline
    exact hplain hfirst hmacro
  · obtain rfl := List.mem_singleton.1 hline
    refine hplain (Or.inl rfl) fun name hname => ?_
    obtain ⟨group, -, heq⟩ := List.mem_map.1 hname
    cases heq

lemma returns_updateListenSockets_of
    (hr : LinesReadable env (listenLines env.defaultMcastAddress database)) :
    Returns (updateListenSockets env database) := by
  refine Returns.bind (Returns.modify _) fun _ => Returns.bind ?_ fun _ =>
    Returns.bind Returns.get fun t => Returns.bind ?_ fun _ => Returns.modify _
  · rw [forEachListenAddr_eq]
    exact returns_passLines (fun _ _ => returns_updateListener)
      (fun _ _ => returns_updateMcastGroup) hr
  · exact fun t => wp_sweepSockets.mono fun _ _ _ => trivial

lemma returns_updateListenSockets (hn : ∀ d ∈ database, d.NamesAddresses) :
    Returns (updateListenSockets env database) :=
  returns_updateListenSockets_of (linesReadable hn)

/-- Lines that name addresses are followed. -/
lemma updateListenSockets_follows (hdb : ∀ d ∈ database, d.Typed)
    (hn : ∀ d ∈ database, d.NamesAddresses) (ht : t.WellFormed) :
    ∃ t' rs, updateListenSockets env database t = some ((), t') ∧
      Follows (listenLines env.defaultMcastAddress database) rs t t' := by
  obtain ⟨_, t', hrun, done, hlines, hresolves, hswept⟩ :=
    (returns_updateListenSockets hn).wp (wlp_updateListenSockets ht)
  exact ⟨t', _, hrun, hswept.follows hlines hresolves fun _ =>
    plainLine_listenLines hdb hn⟩

/-! ### A kernel that grants everything -/

/-- Every socket can be opened and bound. -/
structure SocketEnv.Willing (env : SocketEnv) : Prop where
  requestPort : env.requestPort ≠ 0
  socket : ∀ n process family, (env.kernel.socket n process family).isSome = true
  bind : ∀ n process sock, env.kernel.bind n process sock = true

/-- Descriptors are counted up. -/
def SocketEnv.willing (macroLength : Nat) : SocketEnv where
  requestPort := 177
  defaultMcastAddress := none
  macroLength := fun _ => macroLength
  kernel := ⟨fun n _ _ => some n, fun _ _ _ => true⟩

lemma willing_willing {n : Nat} : (SocketEnv.willing n).Willing :=
  ⟨show (177 : UInt16) ≠ 0 by decide, fun _ _ _ => rfl, fun _ _ _ => rfl⟩

lemma wlp_createListeningSocket_willing (hw : env.Willing) {sock : InetAddr} :
    Wlp (createListeningSocket env sock) (fun fd _ => fd ≠ none) t := by
  refine wlp_ite (fun hport => absurd hport hw.requestPort) fun _ => ?_
  simp only [SocketEnv.socket, wlp_bind, wlp_get, wlp_set, wlp_pure]
  obtain ⟨fd, hfd⟩ := Option.isSome_iff_exists.1 (hw.socket t.calls t.process sock.family)
  simp only [hfd, registerCloseOnFork, addWellKnownSocket, SocketEnv.bind, wlp_bind, wlp_get,
    wlp_set, wlp_modify, wlp_pure, hw.bind, if_pos]
  exact Option.some_ne_none fd

lemma wlp_openListener_willing (hw : env.Willing) (ha : IsInet a) :
    Wlp (openListener env a) (fun r _ => r ≠ none) t := by
  refine wlp_openListener_of (fun _ => Option.some_ne_none _) (fun _ hentry => ?_)
    fun sock _ _ _ => ?_
  · rw [createSocklistEntry_isInet ha] at hentry
    cases hentry
  · exact (wlp_createListeningSocket_willing hw).mono fun fd t' hfd =>
      ⟨fun h => absurd h hfd, fun _ _ => Option.some_ne_none _⟩

/-- What can be an address of a socket. -/
def ListenAddr.Usable (addr : ListenAddr) : Prop :=
  addr.length = 0 ∨ ∃ a, addr = .bytes a ∧ IsInet a

/-- Each usable line gets a socket. -/
lemma walks_willing (hw : env.Willing) :
    Walks env fun done _ => ∀ x ∈ done, x.first.Usable → x.sock ≠ none where
  line {done addr c t} hdone := by
    have hcons : ∀ {r : Option ARRAY8}, (addr.Usable → r ≠ none) →
        ∀ x ∈ (⟨addr, r, []⟩ :: done : List LineRead), x.first.Usable → x.sock ≠ none :=
      fun hr => List.forall_mem_cons.2 ⟨hr, hdone⟩
    refine wlp_ite (fun _ => ?_) fun hlen => ?_
    · rw [wlp_bind]
      refine (wlp_openListener_willing hw (Or.inr rfl)).mono fun r t₁ hr => ?_
      cases r with
      | none => exact absurd rfl hr
      | some data => exact (wlp_pure _ _ _).2 (hcons fun _ => Option.some_ne_none _)
    · rw [wlp_bind]
      refine wlp_read (fun a ha => ?_) fun G hnull _ _ => ?_
      · refine fun r t₁ hrun => hcons fun husable => ?_
        rcases husable with hzero | ⟨b, hb, hinet⟩
        · exact absurd hzero hlen
        · obtain rfl := ListenAddr.bytes.inj (ha.symm.trans hb)
          exact wlp_openListener_willing hw hinet r t₁ hrun
      · refine fun r t₁ _ => hcons fun husable => ?_
        rcases husable with hzero | ⟨b, hb, -⟩
        · exact absurd hzero hlen
        · exact absurd hb (hnull b)
  group {done passed r gs addr t} hdone := by
    obtain ⟨hx, hdone⟩ := List.forall_mem_cons.1 hdone
    exact fun _ _ _ => List.forall_mem_cons.2 ⟨hx, hdone⟩

lemma wlp_readable : Wlp addr.read (fun _ _ => addr.Readable) t := by
  cases addr with
  | bytes a => exact (wlp_pure _ _ _).2 fun _ => nofun
  | null n =>
    refine wlp_ite (fun _ => (wlp_failure _ _).2 trivial) fun hn => (wlp_pure _ _ _).2 ?_
    rintro m hm
    obtain rfl := ListenAddr.null.inj hm
    exact not_or.1 hn

/-- Where a line has a socket, none of its groups has been read through a null pointer. -/
lemma walks_readable : Walks env fun done t => Marked old done t.listensocks ∧
    ∀ x ∈ done, x.sock ≠ none → ∀ addr ∈ x.groups, addr.Readable where
  line h := (wlp_updateListener h.1).mono fun _ _ hr =>
    ⟨hr.2, List.forall_mem_cons.2 ⟨fun _ => List.forall_mem_nil _, h.2⟩⟩
  group {done passed r gs addr t} h := by
    obtain ⟨hmarked, hread⟩ := h
    obtain ⟨hx, hdone⟩ := List.forall_mem_cons.1 hread
    have hpresent := hmarked.present _ (List.mem_cons_self ..)
    refine ((wlp_updateMcastGroup hpresent).mono fun _ _ hr => hmarked.joined hr.2).and ?_
    suffices hgroup : Wlp (updateMcastGroup env addr r) (fun _ _ => r ≠ none → addr.Readable) t from
      hgroup.mono fun _ _ haddr => List.forall_mem_cons.2
        ⟨fun hr => List.forall_mem_cons.2 ⟨haddr hr, hx hr⟩, hdone⟩
    rw [updateMcastGroup, wlp_bind, wlp_get]
    cases hsock : r.bind (findInList ListenSock.data t.listensocks) with
    | none =>
      refine (wlp_pure _ _ _).2 fun hr => ?_
      obtain ⟨a, rfl⟩ := Option.ne_none_iff_exists'.1 hr
      obtain ⟨s, hs, hdata⟩ := hpresent a rfl
      exact absurd hdata (findInList_none hsock s hs)
    | some s =>
      dsimp only
      rw [wlp_bind]
      exact wlp_readable.mono fun a t₁ haddr _ _ _ _ => haddr

/-! ### Other lines -/

/-- What is asked of an update of these entries, whatever the kernel answers and whatever the
sockets have been. -/
def Followed (database : List DisplayEntry) : Prop :=
  ∀ env t, t.WellFormed → ∃ t' rs, updateListenSockets env database t = some ((), t') ∧
    Follows (listenLines env.defaultMcastAddress database) rs t t'

lemma listenLines_singleton {m : Option (Octets 16)} {line : HostOrAlias × List HostOrAlias}
    (hline : d.listenLine = some line) : listenLines m [d] = [line] := by
  have hlisten : d.entry = .listen := by
    by_contra hne
    rw [DisplayEntry.listenLine, if_neg hne] at hline
    cases hline
  rw [listenLines, if_pos (by simp [hlisten]), List.filterMap_cons_some hline]
  rfl

/-- What the willing kernel makes of a single line. -/
lemma willing_line {n : Nat} {line : HostOrAlias × List HostOrAlias} (hf : Followed [d])
    (hline : d.listenLine = some line) : ∃ t' r,
      Follows [line] [r] Sockets.start t' ∧ ∃ x : LineRead, ReadLine (.willing n) line x ∧
      (x.first.Usable → ∃ s ∈ t'.listensocks, x.sock = some s.data) ∧
      (x.first.Usable → ∀ addr ∈ x.groups, addr.Readable) := by
  obtain ⟨t', rs, hrun, hfollows⟩ := hf (.willing n) Sockets.start wellFormed_start
  rw [listenLines_singleton hline] at hfollows
  obtain ⟨done, hlines, -, hswept, t₁, -, ⟨⟨-, hreadable⟩, hwilling⟩, -⟩ :=
    ((walks_readable.and (walks_willing willing_willing)).wlp_updateListenSockets wellFormed_start
      ⟨⟨wellFormed_start.marked, List.forall_mem_nil _⟩, List.forall_mem_nil _⟩) _ _ hrun
  rw [listenLines_singleton hline] at hlines
  obtain ⟨x, rfl, hx⟩ : ∃ x, done = [x] ∧ ReadLine (.willing n) line x := by
    cases hlines with
    | cons hx hnil =>
      cases hnil
      exact ⟨_, rfl, hx⟩
  obtain ⟨r, rfl⟩ : ∃ r, rs = [r] := by
    cases hfollows.stands with
    | cons _ hnil =>
      cases hnil
      exact ⟨_, rfl⟩
  have hsock : x.first.Usable → x.sock ≠ none := hwilling x (List.mem_singleton_self x)
  refine ⟨t', r, hfollows, x, hx, fun husable => ?_, fun husable => ?_⟩
  · obtain ⟨a, ha⟩ := Option.ne_none_iff_exists'.1 (hsock husable)
    obtain ⟨s, hs, rfl⟩ := hswept.present x (List.mem_singleton_self x) a ha
    exact ⟨s, hs, ha⟩
  · exact hreadable x (List.mem_singleton_self x) (hsock husable)

/-- A first host that is neither an address nor a star stands for nothing, but its address may be
zero all the same. -/
lemma taken_for_wildcard : ∀ first : HostOrAlias,
    ¬ (first = .anyAddr ∨ ∃ a, first = .address a) →
    (first.hostAddress (.willing 0)).length = 0 ∧ (Stands old first r → r = none)
  | .address a, hnot => absurd (Or.inr ⟨a, rfl⟩) hnot
  | .alias _, _ => ⟨rfl, id⟩
  | .broadcast, _ => ⟨rfl, id⟩
  | .chooser, _ => ⟨rfl, id⟩
  | .noBroadcast, _ => ⟨rfl, id⟩
  | .anyAddr, hnot => absurd (Or.inl rfl) hnot

/-- A line that is followed names addresses. -/
lemma namesAddresses_of_followed (hd : d.Typed) (hf : Followed [d]) : d.NamesAddresses := by
  intro first others hline
  have hfirst : first = .anyAddr ∨ ∃ a, first = .address a := by
    by_contra hnot
    -- it has been taken for a wildcard
    obtain ⟨t', r, hfollows, x, hx, hsock, -⟩ := willing_line (n := 0) hf hline
    obtain ⟨hzero, hstands⟩ := taken_for_wildcard first hnot
    obtain ⟨s, hs, -⟩ := hsock (Or.inl (hx.first ▸ hzero))
    have hmem := hfollows.named s hs
    rw [hstands (List.forall₂_cons.1 hfollows.stands).1, List.mem_singleton] at hmem
    cases hmem
  refine ⟨hfirst, fun name hname => ?_⟩
  -- the macro has been taken for an address
  obtain ⟨t', r, -, x, hx, -, hread⟩ := willing_line (n := 16) hf hline
  have husable : x.first.Usable := by
    rw [hx.first]
    rcases hfirst with rfl | ⟨a, rfl⟩
    · exact Or.inl rfl
    · exact Or.inr ⟨a, rfl, (hd.isInet hline).1 a rfl⟩
  have hmem : ListenAddr.null 16 ∈ x.groups := by
    rw [hx.groups, List.mem_reverse]
    exact List.mem_map.2 ⟨_, hname, rfl⟩
  exact (hread husable _ hmem 16 rfl).2 rfl

/-- The entries, and any of them by themselves, are followed if they name addresses, and only
then. -/
lemma followed_iff (hdb : ∀ d ∈ database, d.Typed) :
    (∀ part, (∀ d ∈ part, d ∈ database) → Followed part) ↔
      ∀ d ∈ database, d.NamesAddresses := by
  constructor
  · intro hf d hd
    refine namesAddresses_of_followed (hdb d hd) (hf [d] fun d' hd' => ?_)
    rwa [List.mem_singleton.1 hd']
  · intro hn part hpart env t ht
    exact updateListenSockets_follows (fun d hd => hdb d (hpart d hd))
      (fun d hd => hn d (hpart d hd)) ht

/-- For all that can be read from an access file. -/
theorem readAccessDatabase_followed_iff {resolver : Str → List SockAddr} {n : Nat}
    {file : Reader} :
    (∀ part, (∀ d ∈ part, d ∈ readAccessDatabase resolver n file) → Followed part) ↔
      ∀ d ∈ readAccessDatabase resolver n file, d.NamesAddresses :=
  followed_iff typed_readAccessDatabase

/-- A line without any address opens a socket for all of them. -/
theorem updateListenSockets_broadcast :
    (∃ t', updateListenSockets (.willing 0)
        (readAccessDatabase (fun _ => []) 20 ⟨"LISTEN BROADCAST\n".toList, false⟩)
        Sockets.start = some ((), t') ∧ t'.listensocks.map ListenSock.data = [in6addrAny]) ∧
      ¬ Followed (readAccessDatabase (fun _ => []) 20 ⟨"LISTEN BROADCAST\n".toList, false⟩) := by
  have hread : readAccessDatabase (fun _ => []) 20 ⟨"LISTEN BROADCAST\n".toList, false⟩ =
      [⟨.listen, false, false, false, [⟨.broadcast, 1⟩]⟩] := by decide +kernel
  rw [hread]
  refine ⟨⟨_, rfl, rfl⟩, fun hf => ?_⟩
  have htyped := typed_readAccessDatabase _ (hread ▸ List.mem_singleton_self _)
  rcases (namesAddresses_of_followed htyped hf .broadcast [] rfl).1 with hany | ⟨a, ha⟩
  · cases hany
  · cases ha

end Xdm
