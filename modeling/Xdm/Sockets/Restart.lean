/-
# Updating and restarting

The new sockets are opened before the old ones are closed.  So an old socket is in the way of a
new one that clashes with it, and a socket of the same address is kept, whatever its port is.
`Permits` says that this does not happen; `updateListenSockets_serves_iff` compares the update
with that of a daemon that has just been started.
-/
import Xdm.Sockets.Bound

namespace Xdm

open Prog

variable {env : SocketEnv} {kernel : SocketKernel} {ipv6 : Bool} {t t' : Sockets}
variable {old l : List (InetAddr × Nat)} {a b : ARRAY8} {r : Option ARRAY8}
variable {us : List ARRAY8} {socks : List (Option ARRAY8)} {done : List LineRead}
variable {database : List DisplayEntry} {process : List OpenSocket}

/-! ### What is served -/

/-- The address, if there can be a socket for it at all. -/
def SocketEnv.opens (env : SocketEnv) (ipv6 : Bool) (a : ARRAY8) : Option ARRAY8 :=
  if env.requestPort ≠ 0 ∧ (a.length = 4 ∨ a.length = 16 ∧ ipv6 = true) then some a else none

def ListenAddr.bytes? : ListenAddr → Option ARRAY8
  | bytes data => some data
  | null _ => none

lemma SocketEnv.opens_eq_none : env.opens ipv6 a = none ↔
    ¬ (env.requestPort ≠ 0 ∧ (a.length = 4 ∨ a.length = 16 ∧ ipv6 = true)) := by
  rw [SocketEnv.opens]
  split
  · rename_i hcan
    exact iff_of_false nofun fun h => h hcan
  · rename_i hcan
    exact iff_of_true rfl hcan

/-- The address that a line stands for when nothing is in the way. -/
def openable (env : SocketEnv) (ipv6 : Bool) (addr : ListenAddr) : Option ARRAY8 :=
  if addr.length = 0 then (env.opens ipv6 in6addrAny).or (env.opens ipv6 inaddrAny)
  else addr.bytes?.bind (env.opens ipv6)

/-- A daemon that has no sockets yet opens the first one of these addresses, and if it is no
wildcard all the others that are none. -/
def Serves (us : List ARRAY8) (a : ARRAY8) : Prop :=
  us.head? = some a ∨ a ∈ us ∧ ¬ IsAny a ∧ ∀ first, us.head? = some first → ¬ IsAny first

/-- An old socket does not prevent that the address `a` is served on the request port. -/
def Permits (env : SocketEnv) (o : InetAddr) (a : ARRAY8) : Prop :=
  if o.port = portBytes env.requestPort then o.data = a ∨ ¬ Bars o.data a else o.data ≠ a

instance (o : InetAddr) (a : ARRAY8) : Decidable (Permits env o a) :=
  inferInstanceAs (Decidable
    (if o.port = portBytes env.requestPort then o.data = a ∨ ¬ Bars o.data a else o.data ≠ a))

lemma not_serves_nil : ¬ Serves [] a := by
  rintro (h | ⟨h, -⟩)
  · cases h
  · cases h

lemma Serves.append (h : Serves us b) : Serves (us ++ [a]) b := by
  cases us with
  | nil => exact absurd h not_serves_nil
  | cons first us =>
    rcases h with h | ⟨hb, hrest⟩
    · exact Or.inl h
    · exact Or.inr ⟨List.mem_append_left _ hb, hrest⟩

lemma Serves.mem (h : Serves us a) : a ∈ us := by
  rcases h with h | ⟨h, -⟩
  · exact List.mem_of_head? h
  · exact h

/-- The last address is served unless it bars one before it. -/
lemma serves_append_of (h : ∀ b, Serves us b → ¬ Bars b a) : Serves (us ++ [a]) a := by
  cases us with
  | nil => exact Or.inl rfl
  | cons first us =>
    have hfirst := h first (Or.inl rfl)
    refine Or.inr ⟨by simp, fun ha => hfirst (Or.inr (Or.inr ha)), fun f hf hany => ?_⟩
    obtain rfl := Option.some.inj hf
    exact hfirst (Or.inr (Or.inl hany))

lemma serves_append (h : Serves (us ++ [a]) b) :
    Serves us b ∨ (b = a ∧ ∀ c, Serves us c → Bars c a → c = a) := by
  cases us with
  | nil =>
    refine Or.inr ⟨?_, fun c hc => absurd hc not_serves_nil⟩
    rcases h with h | ⟨h, -⟩
    · exact (Option.some.inj h).symm
    · exact List.mem_singleton.1 h
  | cons first us =>
    rcases h with h | ⟨hmem, hany, hfirst⟩
    · exact Or.inl (Or.inl h)
    · rcases List.mem_append.1 hmem with hmem | hmem
      · exact Or.inl (Or.inr ⟨hmem, hany, hfirst⟩)
      · obtain rfl := List.mem_singleton.1 hmem
        refine Or.inr ⟨rfl, fun c hc hbars => ?_⟩
        rcases hbars with heq | hc' | hb
        · exact heq
        · rcases hc with hc | ⟨-, hc, -⟩
          · exact absurd hc' (hfirst c hc)
          · exact absurd hc' hc
        · exact absurd hb hany

/-- Nothing is opened for an address that there can be no socket for. -/
lemma ListenStep.same {l' : List (InetAddr × Nat)} (h : ListenStep env ipv6 a l r l')
    (hopens : ¬ (env.requestPort ≠ 0 ∧ (a.length = 4 ∨ a.length = 16 ∧ ipv6 = true))) :
    l' = l := by
  cases h with
  | kept _ => rfl
  | opened addr fd _ hdata _ hport h6 _ =>
    refine absurd ⟨hport, ?_⟩ hopens
    have hlen : a.length = 4 ∨ a.length = 16 := hdata ▸ addr.length
    exact hlen.imp_right fun h16 => ⟨h16, h6 h16⟩
  | refused _ _ => rfl

/-! ### Serving them -/

/-- No old socket is in the way. -/
def Free (env : SocketEnv) (old : List (InetAddr × Nat)) (us : List ARRAY8) : Prop :=
  ∀ o ∈ old, ∀ a, Serves us a → Permits env o.1 a

/-- Those addresses that should be are served; `socks` are the sockets that the lines have got. -/
structure Serving (env : SocketEnv) (old : List (InetAddr × Nat)) (us : List ARRAY8)
    (socks : List (Option ARRAY8)) (l : List (InetAddr × Nat)) : Prop where
  only : ∀ b ∈ l, b ∈ old ∨ b.1.port = portBytes env.requestPort ∧ Serves us b.1.data
  all : ∀ a, Serves us a → ∃ b ∈ l, b.1.port = portBytes env.requestPort ∧ b.1.data = a
  named : ∀ a, Serves us a → some a ∈ socks

lemma Free.of_append (h : Free env old (us ++ [a])) : Free env old us :=
  fun o ho b hb => h o ho b hb.append

namespace Serving

/-- A line that asks for nothing that can be opened. -/
lemma skip (h : Serving env old us socks l) : Serving env old us (r :: socks) l where
  only := h.only
  all := h.all
  named a ha := List.mem_cons_of_mem _ (h.named a ha)

lemma of_none (h : Serving env old us (none :: socks) l) : Serving env old us socks l where
  only := h.only
  all := h.all
  named a ha := by
    rcases List.mem_cons.1 (h.named a ha) with heq | hmem
    · cases heq
    · exact hmem

lemma step {l' : List (InetAddr × Nat)} (h : Serving env old us socks l)
    (hstep : ListenStep env ipv6 a l r l') (hinet : IsInet a) (hport : env.requestPort ≠ 0)
    (h6 : a.length = 16 → ipv6 = true) (hfree : Free env old (us ++ [a])) :
    Serving env old (us ++ [a]) (r :: socks) l' := by
  -- those that have been served are served still
  have honly : ∀ b ∈ l, b ∈ old ∨ b.1.port = portBytes env.requestPort ∧
      Serves (us ++ [a]) b.1.data :=
    fun b hb => (h.only b hb).imp_right fun hserves => ⟨hserves.1, hserves.2.append⟩
  cases hstep with
  | kept hex =>
    obtain ⟨b, hb, rfl⟩ := hex
    refine ⟨honly, fun c hc => ?_, fun c hc => ?_⟩
    · rcases serves_append hc with hc' | ⟨rfl, -⟩
      · exact h.all c hc'
      · refine ⟨b, hb, ?_, rfl⟩
        rcases h.only b hb with hold | hserves
        · have hpermits := hfree b hold _ hc
          by_contra hne
          rw [Permits, if_neg hne] at hpermits
          exact hpermits rfl
        · exact hserves.1
    · rcases serves_append hc with hc' | ⟨rfl, -⟩
      · exact List.mem_cons_of_mem _ (h.named c hc')
      · exact List.mem_cons_self ..
  | opened addr fd hnew hdata haddr _ _ hclash =>
    have hserves : Serves (us ++ [a]) a := by
      refine serves_append_of fun b hb hbars => ?_
      obtain ⟨x, hx, hxport, rfl⟩ := h.all b hb
      exact hclash x hx ⟨hxport.trans haddr.symm, hdata ▸ hbars⟩
    refine ⟨List.forall_mem_cons.2 ⟨Or.inr ⟨haddr, hdata ▸ hserves⟩, honly⟩, fun c hc => ?_,
      fun c hc => ?_⟩
    · rcases serves_append hc with hc' | ⟨rfl, -⟩
      · obtain ⟨x, hx, hspec⟩ := h.all c hc'
        exact ⟨x, List.mem_cons_of_mem _ hx, hspec⟩
      · exact ⟨_, List.mem_cons_self .., haddr, hdata⟩
    · rcases serves_append hc with hc' | ⟨rfl, -⟩
      · exact List.mem_cons_of_mem _ (h.named c hc')
      · exact List.mem_cons_self ..
  | refused hnew hwhy =>
    -- what has barred it is none of the old sockets
    have hold : ∀ c, Serves (us ++ [a]) c → Serves us c := by
      intro c hc
      rcases serves_append hc with hc' | ⟨rfl, hbars⟩
      · exact hc'
      · obtain ⟨x, hx, hxport, hxbars⟩ := hwhy hinet hport h6
        rcases h.only x hx with hxold | ⟨-, hserves⟩
        · have hpermits := hfree x hxold c hc
          rw [Permits, if_pos hxport] at hpermits
          rcases hpermits with heq | hno
          · exact absurd heq (hnew x hx)
          · exact absurd hxbars hno
        · exact absurd (hbars _ hserves hxbars) (hnew x hx)
    exact ⟨honly, fun c hc => h.all c (hold c hc), fun c hc =>
      List.mem_cons_of_mem _ (h.named c (hold c hc))⟩

/-- Whatever has been asked for. -/
lemma next {l' : List (InetAddr × Nat)} (h : Free env old us → Serving env old us socks l)
    (hstep : ListenStep env ipv6 a l r l')
    (hfree : Free env old (us ++ (env.opens ipv6 a).toList)) :
    Serving env old (us ++ (env.opens ipv6 a).toList) (r :: socks) l' := by
  by_cases hopens : env.requestPort ≠ 0 ∧ (a.length = 4 ∨ a.length = 16 ∧ ipv6 = true)
  · rw [SocketEnv.opens, if_pos hopens, Option.toList_some] at hfree ⊢
    obtain ⟨hport, hlen⟩ := hopens
    refine (h hfree.of_append).step hstep (hlen.imp_right And.left) hport (fun h16 => ?_) hfree
    rcases hlen with h4 | h16'
    · omega
    · exact h16'.2
  · rw [hstep.same hopens]
    rw [SocketEnv.opens, if_neg hopens, Option.toList_none, List.append_nil] at hfree ⊢
    exact (h hfree).skip

end Serving

/-! ### The lines -/

/-- The addresses that the lines stand for. -/
def asked (env : SocketEnv) (ipv6 : Bool) (firsts : List ListenAddr) : List ARRAY8 :=
  firsts.filterMap (openable env ipv6)

lemma asked_append {firsts : List ListenAddr} {addr : ListenAddr} :
    asked env ipv6 (firsts ++ [addr]) =
      asked env ipv6 firsts ++ (openable env ipv6 addr).toList := by
  rw [asked, List.filterMap_append]
  cases h : openable env ipv6 addr with
  | none => rw [List.filterMap_cons_none h]; rfl
  | some a => rw [List.filterMap_cons_some h]; rfl

/-- Both tries for a wildcard. -/
lemma Serving.wildcard {l₁ l₂ : List (InetAddr × Nat)} {addr : ListenAddr}
    (h : Free env old us → Serving env old us socks l) (hzero : addr.length = 0)
    (h₁ : ListenStep env ipv6 in6addrAny l none l₁) (h₂ : ListenStep env ipv6 inaddrAny l₁ r l₂)
    (hfree : Free env old (us ++ (openable env ipv6 addr).toList)) :
    Serving env old (us ++ (openable env ipv6 addr).toList) (r :: socks) l₂ := by
  rw [openable, if_pos hzero] at hfree ⊢
  cases hopens : env.opens ipv6 in6addrAny with
  | none =>
    rw [hopens, Option.none_or] at hfree
    rw [Option.none_or]
    refine Serving.next (fun hfree => ?_) h₂ hfree
    have hnext := Serving.next h h₁ (by rwa [hopens, Option.toList_none, List.append_nil])
    rw [hopens, Option.toList_none, List.append_nil] at hnext
    exact hnext.of_none
  | some a =>
    rw [hopens, Option.some_or] at hfree
    rw [Option.some_or]
    have hnext := Serving.next h h₁ (by rwa [hopens])
    rw [hopens] at hnext
    -- what has been in the way of the first is in the way of the second
    have hsame : l₂ = l₁ := by
      rw [SocketEnv.opens] at hopens
      split at hopens
      · rename_i hcan
        cases h₁ with
        | refused _ hwhy =>
          obtain ⟨x, hx, hxport, -⟩ := hwhy (Or.inr rfl) hcan.1 fun _ => by
            rcases hcan.2 with h4 | h16
            · cases h4
            · exact h16.2
          cases h₂ with
          | kept _ => rfl
          | opened addr' fd _ hdata hport _ _ hclash =>
            exact absurd ⟨hxport.trans hport.symm, Or.inr (Or.inr (Or.inr hdata))⟩ (hclash x hx)
          | refused _ _ => rfl
      · cases hopens
    rw [hsame]
    exact hnext.of_none.skip

/-- While the lines are read, what they have asked for is served. -/
lemma walks_serving (hk : env.kernel.Exclusive ipv6) : Walks env fun done t =>
    t.Bound ipv6 ∧ old ⊆ t.bindings ∧
      (Free env old (asked env ipv6 (done.reverse.map LineRead.first)) →
        Serving env old (asked env ipv6 (done.reverse.map LineRead.first))
          (done.map LineRead.sock) t.bindings) where
  line {done addr c t} hI := by
    obtain ⟨ht, hold, hserving⟩ := hI
    have hcons : ∀ r, ((⟨addr, r, []⟩ :: done : List LineRead).reverse.map LineRead.first) =
        done.reverse.map LineRead.first ++ [addr] := by
      intro r
      rw [List.reverse_cons, List.map_append]
      rfl
    simp only [hcons, asked_append]
    refine wlp_ite (fun hzero => ?_) fun hlen => ?_
    · rw [wlp_bind]
      refine (wlp_openListener_bindings hk ht).mono fun r t₁ h₁ => ?_
      obtain ⟨hstep₁, ht₁⟩ := h₁
      cases r with
      | some data =>
        refine (wlp_pure _ _ _).2 ⟨ht₁, fun o ho => hstep₁.subset (hold ho), fun hfree => ?_⟩
        cases hopens : env.opens ipv6 in6addrAny with
        | some a =>
          have hopen : openable env ipv6 addr = env.opens ipv6 in6addrAny := by
            rw [openable, if_pos hzero, hopens, Option.some_or]
          rw [hopen] at hfree ⊢
          exact Serving.next hserving hstep₁ hfree
        | none =>
          -- there can be sockets for IPv6, so nothing is listened to at all
          have hcan := SocketEnv.opens_eq_none.1 hopens
          have h6 : ipv6 = true := by
            generalize t₁.bindings = l₁ at hstep₁
            cases hstep₁ with
            | kept hex =>
              obtain ⟨b, hb, hdata⟩ := hex
              exact ht.supported b hb (hdata ▸ rfl)
            | opened _ _ _ _ _ _ h6 _ => exact h6 rfl
          have hport : env.requestPort = 0 := by
            by_contra hne
            exact hcan ⟨hne, Or.inr ⟨rfl, h6⟩⟩
          have hnone : openable env ipv6 addr = none := by
            rw [openable, if_pos hzero, hopens, Option.none_or]
            exact SocketEnv.opens_eq_none.2 fun h => h.1 hport
          rw [hnone, Option.toList_none, List.append_nil] at hfree ⊢
          rw [hstep₁.same hcan]
          exact (hserving hfree).skip
      | none =>
        refine (wlp_openListener_bindings hk ht₁).mono fun r t₂ h₂ => ?_
        obtain ⟨hstep₂, ht₂⟩ := h₂
        refine ⟨ht₂, fun o ho => hstep₂.subset (hstep₁.subset (hold ho)), fun hfree => ?_⟩
        exact Serving.wildcard hserving hzero hstep₁ hstep₂ hfree
    · rw [wlp_bind]
      refine wlp_read (fun a ha => ?_) fun G hnull h4 h16 => ?_
      · refine (wlp_openListener_bindings hk ht).mono fun r t₁ h₁ => ?_
        obtain ⟨hstep₁, ht₁⟩ := h₁
        refine ⟨ht₁, fun o ho => hstep₁.subset (hold ho), fun hfree => ?_⟩
        have hopen : openable env ipv6 addr = env.opens ipv6 a := by
          rw [openable, if_neg hlen, ha]
          rfl
        rw [hopen] at hfree ⊢
        exact Serving.next hserving hstep₁ hfree
      · refine (wlp_openListener_bindings hk ht).mono fun r t₁ h₁ => ?_
        obtain ⟨hstep₁, ht₁⟩ := h₁
        refine ⟨ht₁, fun o ho => hstep₁.subset (hold ho), fun hfree => ?_⟩
        have hopen : openable env ipv6 addr = none := by
          rw [openable, if_neg hlen]
          cases addr with
          | bytes a => exact absurd rfl (hnull a)
          | null n => rfl
        rw [hopen, Option.toList_none, List.append_nil] at hfree ⊢
        rw [hstep₁.same fun hcan => hcan.2.elim h4 fun h => h16 h.1]
        exact (hserving hfree).skip
  group {done passed r gs addr t} hI :=
    wlp_updateMcastGroup_bindings.mono fun _ t' h => by
      rw [h.1]
      refine ⟨h.bound hI.1, hI.2.1, fun hfree => ?_⟩
      simp only [List.reverse_cons, List.map_append, List.map_cons, List.map_nil] at hI hfree ⊢
      exact hI.2.2 hfree

/-! ### The whole update -/

/-- The addresses that the `LISTEN` lines stand for. -/
def listened (env : SocketEnv) (ipv6 : Bool) (database : List DisplayEntry) : List ARRAY8 :=
  asked env ipv6 ((listenLines env.defaultMcastAddress database).map
    fun line => line.1.hostAddress env)

lemma firsts_of_read {lines : List (HostOrAlias × List HostOrAlias)}
    (hlines : List.Forall₂ (ReadLine env) lines done) :
    done.map LineRead.first = lines.map fun line => line.1.hostAddress env := by
  induction hlines with
  | nil => rfl
  | cons hline _ ih => rw [List.map_cons, List.map_cons, hline.first, ih]

/-- The state at the end of the marking phase. -/
lemma updateListenSockets_serving (hk : env.kernel.Exclusive ipv6) (hw : t.WellFormed)
    (ht : t.Bound ipv6) (hrun : updateListenSockets env database t = some ((), t')) :
    ∃ t₁ : Sockets, t₁.Bound ipv6 ∧ t.bindings ⊆ t₁.bindings ∧ t'.bindings ⊆ t₁.bindings ∧
      (Free env t.bindings (listened env ipv6 database) →
        ∃ socks, Serving env t.bindings (listened env ipv6 database) socks t₁.bindings ∧
          ∀ a, some a ∈ socks → ∃ s ∈ t'.listensocks, s.data = a) := by
  have hempty : t.bindings ⊆ Sockets.bindings
      { t with listensocks := t.listensocks.map clearRefs } ∧
      Serving env t.bindings (asked env ipv6 []) [] (Sockets.bindings
        { t with listensocks := t.listensocks.map clearRefs }) := by
    rw [bindings_clearRefs]
    exact ⟨List.Subset.refl _, fun b hb => Or.inl hb, fun a ha => absurd ha not_serves_nil,
      fun a ha => absurd ha not_serves_nil⟩
  obtain ⟨done, hlines, -, hswept, t₁, t₂, ⟨hbound, hold, hserving⟩, -, rfl⟩ :=
    (walks_serving hk).wlp_updateListenSockets hw ⟨bound_clearRefs ht, hempty.1,
      fun _ => hempty.2⟩ _ _ hrun
  rw [List.reverse_reverse, firsts_of_read hlines] at hserving
  refine ⟨t₁, hbound, hold, fun b hb => ?_,
    fun hfree => ⟨_, hserving hfree, fun a ha => ?_⟩⟩
  · obtain ⟨s', hs', rfl⟩ := mem_bindings.1 hb
    obtain ⟨s, hs, -, rfl⟩ := mem_swept.1 hs'
    exact mem_bindings.2 ⟨s, hs, rfl⟩
  · obtain ⟨x, hx, hsock⟩ := List.mem_map.1 ha
    exact hswept.present x (List.mem_reverse.1 hx) a hsock

/-- A socket is open and bound to the address. -/
def Sockets.Open (t : Sockets) (addr : InetAddr) : Prop :=
  ∃ x ∈ t.process, x.bound = some addr

instance (t : Sockets) (addr : InetAddr) : Decidable (t.Open addr) :=
  inferInstanceAs (Decidable (∃ x ∈ t.process, x.bound = some addr))

lemma Sockets.Bound.open_iff {addr : InetAddr} (h : t.Bound ipv6) :
    t.Open addr ↔ ∃ b ∈ t.bindings, b.1 = addr := by
  constructor
  · rintro ⟨x, hx, hbound⟩
    exact ⟨_, h.bound x hx addr hbound, rfl⟩
  · rintro ⟨b, hb, rfl⟩
    exact ⟨_, h.isOpen b hb, rfl⟩

lemma InetAddr.eq_of_data {addr addr' : InetAddr} (hport : addr.port = addr'.port)
    (hdata : addr.data = addr'.data) : addr = addr' := by
  cases addr
  cases addr'
  cases hport
  cases hdata
  rfl

/-- When nothing is in the way, all that is asked for is served. -/
lemma exists_binding_of_serves {t₁ : Sockets} (ht₁ : t₁.Bound ipv6)
    (hsub : t'.bindings ⊆ t₁.bindings) (h : Serving env old us socks t₁.bindings)
    (hnamed : ∀ a, some a ∈ socks → ∃ s ∈ t'.listensocks, s.data = a) (ha : Serves us a) :
    ∃ b ∈ t'.bindings, b.1.port = portBytes env.requestPort ∧ b.1.data = a := by
  obtain ⟨b, hb, hport, hdata⟩ := h.all a ha
  obtain ⟨s, hs, rfl⟩ := hnamed a (h.named a ha)
  have hmem : s.binding ∈ t'.bindings := mem_bindings.2 ⟨s, hs, rfl⟩
  -- there is only one socket for the address
  obtain rfl := ht₁.distinct.eq_of_mem hb (hsub hmem) hdata
  exact ⟨_, hmem, hport, rfl⟩

/-- A socket that is open besides an old one has been permitted by it. -/
lemma permits_of_bound {o b : InetAddr × Nat} (h : Bindings ipv6 l process) (ho : o ∈ l)
    (hb : b ∈ l) (hport : b.1.port = portBytes env.requestPort) : Permits env o.1 b.1.data := by
  by_cases hdata : o.1.data = b.1.data
  · obtain rfl := h.distinct.eq_of_mem ho hb hdata
    rw [Permits, if_pos hport]
    exact Or.inl rfl
  · have hapart := h.apart o ho b hb hdata
    rw [Permits]
    split
    · rename_i hoport
      exact Or.inr fun hbars => hapart ⟨hoport.trans hport.symm, hbars⟩
    · exact hdata

/-- After an update, the daemon listens to all that it would listen to after a restart, exactly
if no old socket has been in the way. -/
theorem updateListenSockets_serves_iff {t₀ t₀' : Sockets} (hk : env.kernel.Exclusive ipv6)
    (h₀ : Configured env.kernel t₀) (hnone : t₀.listensocks = [])
    (hfresh : updateListenSockets env database t₀ = some ((), t₀'))
    (ht : Configured env.kernel t)
    (hrun : updateListenSockets env database t = some ((), t')) :
    (∀ addr, t₀'.Open addr → t'.Open addr) ↔
      ∀ o ∈ t.listensocks, ∀ a, Serves (listened env ipv6 database) a →
        Permits env o.addr a := by
  obtain ⟨hw₀, hb₀⟩ := h₀.bound hk
  obtain ⟨hw, hb⟩ := ht.bound hk
  have hb₀' := (Configured.update rfl h₀ hfresh).bound hk
  have hb' := (Configured.update rfl ht hrun).bound hk
  obtain ⟨t₁, ht₁, hold, hsub, hserving⟩ := updateListenSockets_serving hk hw hb hrun
  obtain ⟨t₂, ht₂, -, hsub₀, hserving₀⟩ := updateListenSockets_serving hk hw₀ hb₀ hfresh
  have hbindings₀ : t₀.bindings = [] := by
    rw [Sockets.bindings, hnone]
    rfl
  rw [hbindings₀] at hserving₀
  obtain ⟨socks₀, hs₀, hnamed₀⟩ := hserving₀ (List.forall_mem_nil _)
  constructor
  · intro hopen o ho a ha
    obtain ⟨b, hb, hport, rfl⟩ := exists_binding_of_serves ht₂ hsub₀ hs₀ hnamed₀ ha
    obtain ⟨b', hb', haddr⟩ := hb'.2.open_iff.1 (hopen b.1 (hb₀'.2.open_iff.2 ⟨b, hb, rfl⟩))
    rw [← haddr] at hport ⊢
    exact permits_of_bound ht₁ (hold (mem_bindings.2 ⟨o, ho, rfl⟩)) (hsub hb') hport
  · intro hpermits addr hopen
    have hfree : Free env t.bindings (listened env ipv6 database) := by
      intro b hb a ha
      obtain ⟨o, ho, rfl⟩ := mem_bindings.1 hb
      exact hpermits o ho a ha
    obtain ⟨socks, hs, hnamed⟩ := hserving hfree
    obtain ⟨b, hb, rfl⟩ := hb₀'.2.open_iff.1 hopen
    obtain ⟨hport, hserves⟩ := (hs₀.only b (hsub₀ hb)).resolve_left List.not_mem_nil
    obtain ⟨b', hmem, hport', hdata'⟩ := exists_binding_of_serves ht₁ hsub hs hnamed hserves
    exact hb'.2.open_iff.2 ⟨b', hmem, InetAddr.eq_of_data (hport'.trans hport.symm) hdata'⟩

/-! ### A strict kernel -/

/-- A descriptor that is larger than those in use. -/
def freeFd : List OpenSocket → Nat
  | [] => 0
  | x :: process => max (x.fd + 1) (freeFd process)

lemma lt_freeFd : ∀ {process : List OpenSocket}, ∀ x ∈ process, x.fd < freeFd process
  | [], _, hx => nomatch hx
  | y :: process, x, hx => by
    rw [freeFd]
    rcases List.mem_cons.1 hx with rfl | hx
    · omega
    · have hlt := lt_freeFd x hx
      omega

def SocketKernel.strict (ipv6 : Bool) : SocketKernel where
  socket _ process family :=
    if family = .inet6 ∧ ipv6 = false then none else some (freeFd process)
  bind _ process addr :=
    process.all fun x => x.bound.all fun addr' => decide (¬ addr'.Clashes addr)

lemma exclusive_strict : (SocketKernel.strict ipv6).Exclusive ipv6 where
  socket n process family := by
    cases family <;> cases ipv6 <;> simp [SocketKernel.strict]
  fresh n process family fd hfd x hx := by
    simp only [SocketKernel.strict] at hfd
    split at hfd
    · cases hfd
    · obtain rfl := Option.some.inj hfd
      exact Nat.ne_of_lt (lt_freeFd x hx)
  bind n process addr := by
    simp [SocketKernel.strict, Option.all_eq_true]

def SocketEnv.strict : SocketEnv where
  requestPort := 177
  defaultMcastAddress := none
  macroLength := fun _ => 0
  kernel := SocketKernel.strict true

/-- The state that a program ends in. -/
def endOf (m : Prog Sockets Unit) (t : Sockets) : Sockets := ((m t).map Prod.snd).getD t

lemma run_endOf {m : Prog Sockets Unit} (h : (m t).isSome = true) :
    m t = some ((), endOf m t) := by
  obtain ⟨⟨⟨⟩, t'⟩, hrun⟩ := Option.isSome_iff_exists.1 h
  rw [endOf, hrun]
  rfl

/-- The sockets of a daemon that has just been started. -/
def Sockets.started : Sockets := endOf (createWellKnownSockets .strict) .start

def listenOn (hosts : List HostOrAlias) : List DisplayEntry :=
  hosts.map fun host => ⟨.listen, false, false, false, [⟨host, 1⟩]⟩

/-- The sockets after an update with such lines. -/
def Sockets.updated (t : Sockets) (hosts : List HostOrAlias) : Sockets :=
  endOf (updateListenSockets .strict (listenOn hosts)) t

lemma configured_started : Configured SocketEnv.strict.kernel Sockets.started :=
  Configured.start rfl (run_endOf (by decide +kernel))

lemma configured_updated {hosts : List HostOrAlias}
    (h : Configured SocketEnv.strict.kernel t)
    (hrun : (updateListenSockets .strict (listenOn hosts) t).isSome = true) :
    Configured SocketEnv.strict.kernel (t.updated hosts) :=
  Configured.update rfl h (run_endOf hrun)

/-- From one interface to two. -/
theorem updateListenSockets_serves_two :
    ((Sockets.started.updated [.address [10, 0, 0, 1]]).updated
      [.address [10, 0, 0, 1], .address [10, 0, 0, 2]]).Open
        ⟨portBytes 177, [10, 0, 0, 1], Or.inl rfl⟩ ∧
    ((Sockets.started.updated [.address [10, 0, 0, 1]]).updated
      [.address [10, 0, 0, 1], .address [10, 0, 0, 2]]).Open
        ⟨portBytes 177, [10, 0, 0, 2], Or.inl rfl⟩ := by
  have hpermits : ∀ o ∈ (Sockets.started.updated [.address [10, 0, 0, 1]]).listensocks,
      ∀ a ∈ listened .strict true (listenOn [.address [10, 0, 0, 1], .address [10, 0, 0, 2]]),
      Permits .strict o.addr a := by decide +kernel
  have hopen := (updateListenSockets_serves_iff exclusive_strict configured_started
    (by decide +kernel) (run_endOf (by decide +kernel))
    (configured_updated configured_started (by decide +kernel))
    (run_endOf (by decide +kernel))).2 fun o ho a ha => hpermits o ho a ha.mem
  exact ⟨hopen _ (by decide +kernel), hopen _ (by decide +kernel)⟩

/-- From all interfaces to one: the new socket cannot be bound, and then the old one is closed. -/
theorem updateListenSockets_deaf :
    SocketEnv.strict.kernel.Exclusive true ∧ Configured SocketEnv.strict.kernel Sockets.started ∧
    Configured SocketEnv.strict.kernel (Sockets.started.updated [.anyAddr]) ∧
    (Sockets.started.updated [.address [10, 0, 0, 1]]).Open
      ⟨portBytes 177, [10, 0, 0, 1], Or.inl rfl⟩ ∧
    ¬ ((Sockets.started.updated [.anyAddr]).updated [.address [10, 0, 0, 1]]).Open
      ⟨portBytes 177, [10, 0, 0, 1], Or.inl rfl⟩ ∧
    ((Sockets.started.updated [.anyAddr]).updated
      [.address [10, 0, 0, 1]]).listensocks.length = 0 :=
  ⟨exclusive_strict, configured_started, configured_updated configured_started (by decide +kernel),
    by decide +kernel, by decide +kernel, by decide +kernel⟩

end Xdm
