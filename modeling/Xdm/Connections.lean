/-
# The connections of a `REQUEST`

A `REQUEST` packet has a list of connection types and a list of connection addresses, each
with a length of its own, and the comparison of the two lengths in `request_respond` is
compiled out.  `SelectConnectionTypeIndex` goes over the types and reads the addresses at
the same indices.  `connection_reads_iff` says for which packets it stays within the
addresses, and `selectConnectionTypeIndex_withStray` that then nothing depends on what
memory holds behind them.
-/
import Xdm.Daemon
import Xdm.Xdmcp.Effects

namespace Xdm

variable {w : World} {addr : ARRAY8} {family : CARD16} {types : List CARD16}
  {addresses : List ARRAY8}

/-! ### The indices that are read -/

/-- One of the connections is the address that the packet comes from: the scan ends
there. -/
def listsSender (addr : ARRAY8) (family : CARD16) (types : List CARD16)
    (addresses : List ARRAY8) : Bool :=
  (types.zip addresses).any fun c => usableType c.1 && (family = c.1 ∧ addr = c.2)

/-- The types of a list are passed over once a connection has been chosen tentatively:
those that can be used are not of the sender's family. -/
def PassedOver (family : CARD16) (chosen : Bool) (types : List CARD16) : Prop :=
  ∀ type ∈ types, usableType type = true → chosen = true ∧ type ≠ family

instance (family : CARD16) (chosen : Bool) (types : List CARD16) :
    Decidable (PassedOver family chosen types) :=
  inferInstanceAs (Decidable (∀ type ∈ types, usableType type = true → _))

/-- The connections of a `REQUEST` are in order as far as `SelectConnectionTypeIndex` looks:
it finds the sender among them, or passes over all the types without an address. -/
def WithinAddresses (addr : ARRAY8) (family : CARD16) (types : List CARD16)
    (addresses : List ARRAY8) : Prop :=
  listsSender addr family types addresses = true ∨
    PassedOver family ((types.take addresses.length).any usableType)
      (types.drop addresses.length)

instance (addr : ARRAY8) (family : CARD16) (types : List CARD16) (addresses : List ARRAY8) :
    Decidable (WithinAddresses addr family types addresses) :=
  inferInstanceAs (Decidable (_ ∨ _))

lemma passedOver_cons {chosen : Bool} {type : CARD16} :
    PassedOver family chosen (type :: types) ↔
      (usableType type = true → chosen = true ∧ type ≠ family) ∧
        PassedOver family chosen types := by
  simp [PassedOver]

/-- Behind the end of the addresses every read is astray, so there must be none. -/
lemma loop_reads_behind (ret : Option Connection) {i : Nat} (hi : addresses.length ≤ i) :
    (∀ j ∈ (selectConnectionLoop w addr family addresses i ret types).2,
        j < addresses.length) ↔ PassedOver family ret.isSome types := by
  induction types generalizing i ret with
  | nil => simp [selectConnectionLoop, PassedOver]
  | cons type types ih =>
    rw [passedOver_cons]
    unfold selectConnectionLoop
    by_cases husable : usableType type = true
    · by_cases hfamily : family = type
      · -- the type is the sender's: the address is read
        simp only [husable, hfamily, if_true]
        refine iff_of_false (fun hreads => ?_) fun h => (h.1 trivial).2 rfl
        have := hreads i (by split_ifs <;> simp)
        omega
      · cases ret with
        | none =>
          -- no connection has been chosen: the address is read
          simp only [husable, hfamily, if_true, if_false, Option.isNone_none]
          refine iff_of_false (fun hreads => ?_) fun h => nomatch (h.1 trivial).1
          have := hreads i (by simp)
          omega
        | some c =>
          have hne : type ≠ family := fun h => hfamily h.symm
          simpa [husable, hfamily, hne] using ih (some c) (show _ ≤ i + 1 by omega)
    · simpa [husable] using ih ret (show _ ≤ i + 1 by omega)

/-- The loop from index `i` on, where `rest` are the addresses from there. -/
lemma loop_reads (ret : Option Connection) (before rest : List ARRAY8) :
    (∀ j ∈ (selectConnectionLoop w addr family (before ++ rest) before.length ret types).2,
        j < (before ++ rest).length) ↔
      listsSender addr family types rest = true ∨
        PassedOver family (ret.isSome || (types.take rest.length).any usableType)
          (types.drop rest.length) := by
  induction types generalizing before rest ret with
  | nil => simp [selectConnectionLoop, PassedOver]
  | cons type types ih =>
    cases rest with
    | nil =>
      rw [loop_reads_behind ret (by simp)]
      simp [listsSender]
    | cons address rest =>
      have hlt : before.length < (before ++ address :: rest).length := by simp
      have hread : connectionAddressAt w (before ++ address :: rest) before.length = address := by
        simp [connectionAddressAt]
      have hrest : ∀ ret : Option Connection,
          (∀ j ∈ (selectConnectionLoop w addr family (before ++ address :: rest)
              (before.length + 1) ret types).2, j < (before ++ address :: rest).length) ↔
            listsSender addr family types rest = true ∨
              PassedOver family (ret.isSome || (types.take rest.length).any usableType)
                (types.drop rest.length) := fun ret => by
        simpa using ih ret (before ++ [address]) rest
      unfold selectConnectionLoop
      simp only [hread, List.length_cons, List.take_succ_cons, List.drop_succ_cons,
        List.any_cons, listsSender, List.zip_cons_cons]
      by_cases husable : usableType type = true
      · by_cases hfamily : family = type
        · by_cases haddr : addr = address
          · -- the sender's own address ends the scan
            simp [husable, hfamily, haddr]
          · simpa [husable, hfamily, haddr, listsSender] using
              hrest (some (ret.getD ⟨before.length, type, address⟩))
        · cases ret with
          | none => simpa [husable, hfamily, listsSender] using hrest (some _)
          | some c => simpa [husable, hfamily, listsSender] using hrest (some c)
      · simpa [husable, listsSender] using hrest ret

lemma selectConnectionTypeIndex_snd (w : World) (addr : ARRAY8) (family : CARD16)
    (types : List CARD16) (addresses : List ARRAY8) :
    (selectConnectionTypeIndex w addr family types addresses).2 =
      (selectConnectionLoop w addr family addresses 0 none types).2 := by
  unfold selectConnectionTypeIndex
  obtain ⟨ret, reads⟩ := selectConnectionLoop w addr family addresses 0 none types
  cases ret with
  | some c => rfl
  | none =>
    simp only
    split <;> rfl

/-- `SelectConnectionTypeIndex` reads no connection address behind the last one, if and only
if the connections are in order as far as it looks. -/
lemma selectConnectionTypeIndex_reads : (∀ i ∈
    (selectConnectionTypeIndex w addr family types addresses).2, i < addresses.length) ↔
      WithinAddresses addr family types addresses := by
  rw [selectConnectionTypeIndex_snd]
  exact loop_reads none [] addresses

/-- The comparison that is compiled out would be enough. -/
lemma withinAddresses_of_length_le (h : types.length ≤ addresses.length) :
    WithinAddresses addr family types addresses := by
  right
  rw [List.drop_eq_nil_of_le h]
  exact fun type htype => nomatch htype

/-- For every datagram with a `REQUEST` that `request_respond` acts on: the indices at which
the connection addresses are read for a sender are within them, if and only if the sender is
one of the connections, or all the usable types without an address are of another family
than the sender's and come after a usable type that has one. -/
theorem connection_reads_iff (w : World) (addr : ARRAY8) (family : CARD16)
    (datagram : ARRAY8) : ∀ r ∈ requestIn datagram,
      ((∀ i ∈ (selectConnectionTypeIndex w addr family r.connectionTypes
          r.connectionAddresses).2, i < r.connectionAddresses.length) ↔
        WithinAddresses addr family r.connectionTypes r.connectionAddresses) :=
  fun _ _ => selectConnectionTypeIndex_reads

/-- A `REQUEST` with one connection type and no connection address. -/
def Request.bare : Request := { Request.plain 0 [] with connectionAddresses := [] }

/-- It passes the length check, and the address that is not there is read. -/
theorem connection_read_astray : ∃ r ∈ requestIn Request.bare.datagram,
    ∃ i ∈ (selectConnectionTypeIndex (World.lan 20 7) [10, 0, 0, 2] familyInternet
      r.connectionTypes r.connectionAddresses).2, ¬ i < r.connectionAddresses.length :=
  ⟨Request.bare, rfl, 0, by decide +kernel, by decide⟩

/-- The `REQUEST` of an ordinary display keeps to its addresses. -/
theorem connection_reads_within : ∃ r ∈ requestIn (Request.plain 0 []).datagram,
    ∀ i ∈ (selectConnectionTypeIndex (World.lan 20 7) [10, 0, 0, 2] familyInternet
      r.connectionTypes r.connectionAddresses).2, i < r.connectionAddresses.length :=
  ⟨Request.plain 0 [], rfl, (connection_reads_iff (World.lan 20 7) [10, 0, 0, 2] familyInternet
    (Request.plain 0 []).datagram _ rfl).2 (withinAddresses_of_length_le (by decide))⟩

/-! ### The memory behind the addresses -/

/-- The world in which other bytes stand behind arrays. -/
def World.withStray (w : World) (strayARRAY8 : Nat → ARRAY8) : World :=
  { w with strayARRAY8 := strayARRAY8 }

lemma connectionAddressAt_withStray {stray : Nat → ARRAY8} {i : Nat}
    (h : i < addresses.length) : connectionAddressAt (w.withStray stray) addresses i =
      connectionAddressAt w addresses i := by
  simp [connectionAddressAt, h]

lemma loop_withStray {stray : Nat → ARRAY8} {ret : Option Connection} {i : Nat}
    (hreads : ∀ j ∈ (selectConnectionLoop w addr family addresses i ret types).2,
      j < addresses.length) :
    selectConnectionLoop (w.withStray stray) addr family addresses i ret types =
      selectConnectionLoop w addr family addresses i ret types := by
  induction types generalizing i ret with
  | nil => rfl
  | cons type types ih =>
    unfold selectConnectionLoop at hreads ⊢
    by_cases husable : usableType type = true
    · by_cases hfamily : family = type
      · simp only [husable, hfamily, if_true] at hreads ⊢
        have hi : i < addresses.length := hreads i (by split_ifs <;> simp)
        rw [connectionAddressAt_withStray hi]
        split_ifs with haddr
        · rfl
        · rw [if_neg haddr] at hreads
          subst hfamily
          rw [ih fun j hj => hreads j (List.mem_cons_of_mem _ hj)]
      · cases ret with
        | none =>
          simp only [husable, hfamily, if_true, if_false, Option.isNone_none] at hreads ⊢
          rw [connectionAddressAt_withStray (hreads i (by simp)),
            ih fun j hj => hreads j (List.mem_cons_of_mem _ hj)]
        | some c =>
          simp only [husable, hfamily, if_true, if_false, Option.isNone_some] at hreads ⊢
          exact ih hreads
    · simp only [husable] at hreads ⊢
      exact ih hreads

/-- The connection that `SelectConnectionTypeIndex` selects for connections in order does not
depend on what is behind them. -/
theorem selectConnectionTypeIndex_withStray (stray : Nat → ARRAY8)
    (h : WithinAddresses addr family types addresses) :
    selectConnectionTypeIndex (w.withStray stray) addr family types addresses =
      selectConnectionTypeIndex w addr family types addresses := by
  have hreads := selectConnectionTypeIndex_reads (w := w).2 h
  rw [selectConnectionTypeIndex_snd] at hreads
  unfold selectConnectionTypeIndex
  rw [loop_withStray hreads]
  rfl

end Xdm
