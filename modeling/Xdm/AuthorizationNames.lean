/-
# Selecting an authorization

Two tables decide on the authorization of a display: the table `auth` of `policy.c`, which pairs
authentications with authorizations, and the protocols of `auth.c`.  The last entry of the first
table is empty and is searched as well.  So a display without an authentication is given an empty
authorization name, if it has sent one, which is no protocol.
-/
import Xdm.Auth

namespace Xdm

variable {cfg : Config} {name authenticationName paired : ARRAY8} {names : List ARRAY8}
variable {i : Nat}

/-! ### The tables -/

/-- An entry of the table is the one of `XDM-AUTHENTICATION-1`, or the empty one. -/
lemma pairedAuthorization_some (h : pairedAuthorization cfg authenticationName = some paired) :
    cfg.hasXdmAuth = true ∧ authenticationName = xdmAuthentication1 ∧
        paired = xdmAuthorization1 ∨ authenticationName = [] ∧ paired = [] := by
  rw [pairedAuthorization] at h
  obtain ⟨entry, hfind, rfl⟩ := Option.map_eq_some_iff.1 h
  have hname : authenticationName = entry.1 := by simpa using List.find?_some hfind
  rcases List.mem_append.1 (List.mem_of_find?_eq_some hfind) with hmem | hmem
  · split at hmem
    · obtain rfl := List.mem_singleton.1 hmem
      exact Or.inl ⟨‹_›, hname, rfl⟩
    · exact absurd hmem List.not_mem_nil
  · obtain rfl := List.mem_singleton.1 hmem
    exact Or.inr ⟨hname, rfl⟩

lemma pairedAuthorization_xdm (hx : cfg.hasXdmAuth = true) :
    pairedAuthorization cfg xdmAuthentication1 = some xdmAuthorization1 := by
  rw [pairedAuthorization, authTable, if_pos hx]
  exact congrArg (Option.map Prod.snd) (List.find?_cons_of_pos (by simp))

lemma pairedAuthorization_nil : pairedAuthorization cfg [] = some [] := by
  rw [pairedAuthorization, authTable]
  split
  · rfl
  · rfl

lemma validAuthorization_nil : validAuthorization cfg [] = false := by
  have hcookie : ([] : ARRAY8) ≠ mitMagicCookie1 := by decide
  have hxdm : ([] : ARRAY8) ≠ xdmAuthorization1 := by decide
  simp [validAuthorization, findProtocol, hcookie, hxdm]

lemma validAuthorization_xdm (hx : cfg.hasXdmAuth = true) :
    validAuthorization cfg xdmAuthorization1 = true := by
  have hcookie : xdmAuthorization1 ≠ mitMagicCookie1 := by decide
  simp [validAuthorization, findProtocol, hcookie, hx]

/-! ### The index -/

/-- The name at the index, and none before it, passes the test. -/
lemma getElem_of_findIdx {p : ARRAY8 → Bool} (h : names.findIdx? p = some i) :
    (∃ name, names[i]? = some name ∧ p name = true) ∧
      ∀ j < i, ∀ name, names[j]? = some name → p name = false := by
  obtain ⟨hi, hp, hbefore⟩ := List.findIdx?_eq_some_iff_getElem.1 h
  refine ⟨⟨names[i], List.getElem?_eq_getElem hi, hp⟩, fun j hj name hname => ?_⟩
  obtain ⟨hjl, rfl⟩ := List.getElem?_eq_some_iff.1 hname
  simpa using hbefore j hj

/-- What is asked of the index `r`: its name is accepted if one is, there is no index if none
is, and `XDM-AUTHENTICATION-1` goes with the first `XDM-AUTHORIZATION-1`. -/
structure SelectsValid (cfg : Config) (authenticationName : ARRAY8) (names : List ARRAY8)
    (r : Option Nat) : Prop where
  accepted : (∃ name ∈ names, validAuthorization cfg name = true) →
    ∃ i name, r = some i ∧ names[i]? = some name ∧ validAuthorization cfg name = true
  rejected : (∀ name ∈ names, validAuthorization cfg name = false) → r = none
  paired : cfg.hasXdmAuth = true → authenticationName = xdmAuthentication1 →
    xdmAuthorization1 ∈ names → ∃ i, r = some i ∧ names[i]? = some xdmAuthorization1 ∧
      ∀ j < i, names[j]? ≠ some xdmAuthorization1

/-- The first name that `ValidAuthorization` accepts. -/
lemma selectsValid_first (hpaired : pairedAuthorization cfg authenticationName = none ∨
      ∀ paired, pairedAuthorization cfg authenticationName = some paired → paired ∉ names) :
    SelectsValid cfg authenticationName names
      (names.findIdx? (validAuthorization cfg)) where
  accepted := by
    rintro ⟨name, hmem, hvalid⟩
    obtain ⟨⟨name', hname', hvalid'⟩, -⟩ :=
      getElem_of_findIdx (List.findIdx?_eq_some_of_exists ⟨name, hmem, hvalid⟩)
    exact ⟨_, name', List.findIdx?_eq_some_of_exists ⟨name, hmem, hvalid⟩, hname', hvalid'⟩
  rejected hnone := List.findIdx?_eq_none_iff.2 hnone
  paired hx hname hmem := by
    have hpair := pairedAuthorization_xdm hx
    rw [← hname] at hpair
    rcases hpaired with hnone | hall
    · exact absurd (hnone.symm.trans hpair) (by simp)
    · exact absurd hmem (hall _ hpair)

/-- `SelectAuthorizationTypeIndex` does what is asked, if and only if there is an authentication
name or no empty authorization name. -/
theorem selectAuthorizationTypeIndex_iff (cfg : Config) (authenticationName : ARRAY8)
    (names : List ARRAY8) :
    SelectsValid cfg authenticationName names
        (selectAuthorizationTypeIndex cfg authenticationName names) ↔
      ¬ (authenticationName = [] ∧ [] ∈ names) := by
  rw [selectAuthorizationTypeIndex]
  cases hpair : pairedAuthorization cfg authenticationName with
  | none =>
    refine iff_of_true (selectsValid_first (Or.inl hpair)) ?_
    rintro ⟨rfl, -⟩
    exact absurd (hpair.symm.trans pairedAuthorization_nil) (by simp)
  | some paired =>
    rw [Option.bind_some]
    cases hfind : names.findIdx? (· = paired) with
    | none =>
      have hmem : paired ∉ names := fun hmem => by
        simpa using List.findIdx?_eq_none_iff.1 hfind paired hmem
      refine iff_of_true (selectsValid_first (Or.inr fun q hq => ?_)) ?_
      · exact Option.some.inj (hpair.symm.trans hq) ▸ hmem
      · rintro ⟨rfl, hnil⟩
        obtain rfl := Option.some.inj (hpair.symm.trans pairedAuthorization_nil)
        exact hmem hnil
    | some i =>
      obtain ⟨⟨name, hname, heq⟩, hbefore⟩ := getElem_of_findIdx hfind
      obtain rfl : name = paired := by simpa using heq
      have hmem : name ∈ names := List.mem_of_getElem? hname
      rcases pairedAuthorization_some hpair with ⟨hx, hauth, hxdm⟩ | ⟨hauth, hnil⟩
      · -- the authorization that goes with `XDM-AUTHENTICATION-1`
        have hvalid : validAuthorization cfg name = true := hxdm ▸ validAuthorization_xdm hx
        refine iff_of_true ⟨fun _ => ⟨i, name, rfl, hname, hvalid⟩, fun hnone => ?_, ?_⟩ ?_
        · exact absurd (hvalid.symm.trans (hnone name hmem)) (by simp)
        · refine fun _ _ _ => ⟨i, rfl, hxdm ▸ hname, fun j hj hj' => ?_⟩
          simpa [hxdm] using hbefore j hj _ hj'
        · rintro ⟨hnil, -⟩
          exact absurd (hnil.symm.trans hauth) (by decide)
      · -- the empty entry, and an empty name
        refine iff_of_false (fun h => ?_) (not_not.2 ⟨hauth, hnil ▸ hmem⟩)
        by_cases hany : ∃ name ∈ names, validAuthorization cfg name = true
        · obtain ⟨k, name', hk, hname', hvalid⟩ := h.accepted hany
          obtain rfl := Option.some.inj hk
          obtain rfl := Option.some.inj (hname.symm.trans hname')
          rw [hnil, validAuthorization_nil] at hvalid
          exact Bool.false_ne_true hvalid
        · refine Option.some_ne_none i (h.rejected fun name' hmem' => ?_)
          rw [← Bool.not_eq_true]
          exact fun hvalid => hany ⟨name', hmem', hvalid⟩

/-- A display that names no authentication and sends an empty name before the one of the cookie
gets the empty one. -/
theorem selectAuthorizationTypeIndex_empty :
    selectAuthorizationTypeIndex Config.plain [] [[], mitMagicCookie1] = some 0 ∧
      validAuthorization Config.plain [] = false ∧
      validAuthorization Config.plain mitMagicCookie1 = true :=
  ⟨by decide, by decide, by decide⟩

end Xdm
