/-
# The names of clients

`NetworkAddressToHostname` asks the resolver for the name of an address, and then for the
addresses of that name.  If the client's is not among them it reports a possible DNS spoof
attempt, and returns the name all the same.  `hostname_vouched_iff` says when a client is
known by a name that its address is found under, or by its address in digits.
-/
import Xdm.Access.Control
import Xdm.Daemon

namespace Xdm

variable {w : World} {connectionType : CARD16} {addr : ARRAY8} {name : Str}

/-- The name resolves to a list with the address of the client. -/
def Confirmed (w : World) (connectionType : CARD16) (addr : ARRAY8) (name : Str) : Prop :=
  ∃ a ∈ w.getaddrinfo name, confirms (afType connectionType) addr a = true

/-- The name is the numeric form of the address, or a DNS name confirmed in the forward
direction. -/
def Vouched (w : World) (connectionType : CARD16) (addr : ARRAY8) (name : Str) : Prop :=
  name = dotted w connectionType addr ∨ Confirmed w connectionType addr name

instance (w : World) (connectionType : CARD16) (addr : ARRAY8) (name : Str) :
    Decidable (Confirmed w connectionType addr name) :=
  inferInstanceAs (Decidable (∃ a ∈ w.getaddrinfo name, _))

instance (w : World) (connectionType : CARD16) (addr : ARRAY8) (name : Str) :
    Decidable (Vouched w connectionType addr name) :=
  inferInstanceAs (Decidable (_ ∨ _))

/-- What `NetworkAddressToHostname` returns for an Internet address of another host: digits,
or the name of the reverse map, whether or not it is confirmed. -/
lemma networkAddressToHostname_cases
    (htype : connectionType = familyInternet ∨ connectionType = familyInternet6)
    (hlocal : isLocalAddress w addr connectionType = false) :
    (networkAddressToHostname w connectionType addr = some (dotted w connectionType addr) ∧
      possibleSpoof w connectionType addr = false) ∨
    ∃ hName, w.gethostbyaddr (afType connectionType) addr = some hName ∧
      networkAddressToHostname w connectionType addr = some hName ∧
      (possibleSpoof w connectionType addr = false ↔
        Confirmed w connectionType addr hName) := by
  unfold networkAddressToHostname possibleSpoof
  rw [hlocal, if_neg (by decide), if_pos htype]
  cases hreverse : w.gethostbyaddr (afType connectionType) addr with
  | none => exact Or.inl ⟨rfl, rfl⟩
  | some hName =>
    cases hforward : w.getaddrinfo hName with
    | nil => left; simp [hforward]
    | cons a as =>
      refine Or.inr ⟨hName, rfl, ?_, ?_⟩
      · simp [hforward]
      · simp only [hforward, Confirmed, Bool.not_eq_false', List.any_eq_true]

/-- A pattern entry that is about a client matches the name of the client. -/
lemma patternMatch_of_matchesClient {d : DisplayEntry} {pattern : Str}
    (hentry : d.entry = .pattern pattern)
    (hname : networkAddressToHostname w connectionType addr = some name)
    (hmatches : matchesClient w addr connectionType d = true) :
    patternMatch w pattern name = true := by
  simpa [matchesClient, hentry, hname] using hmatches

/-- For every resolver and every IPv4 or IPv6 address of another host: the client has a name
that is vouched for, and each pattern entry that is about the client matches such a name; if
and only if no spoof attempt is possible, or the name in question has the form of the address
in digits. -/
theorem hostname_vouched_iff (w : World) (addr : ARRAY8)
    (htype : connectionType = familyInternet ∨ connectionType = familyInternet6)
    (hlocal : isLocalAddress w addr connectionType = false) :
    ((∃ name, networkAddressToHostname w connectionType addr = some name ∧
        Vouched w connectionType addr name) ∧
      ∀ (d : DisplayEntry) (pattern : Str), d.entry = .pattern pattern →
        matchesClient w addr connectionType d = true →
        ∃ name, Vouched w connectionType addr name ∧ patternMatch w pattern name = true) ↔
    (possibleSpoof w connectionType addr = true →
      w.gethostbyaddr (afType connectionType) addr =
        some (dotted w connectionType addr)) := by
  -- the second part follows from the first
  have hpatterns : (∃ name, networkAddressToHostname w connectionType addr = some name ∧
      Vouched w connectionType addr name) →
      ∀ (d : DisplayEntry) (pattern : Str), d.entry = .pattern pattern →
        matchesClient w addr connectionType d = true →
        ∃ name, Vouched w connectionType addr name ∧ patternMatch w pattern name = true := by
    rintro ⟨name, hname, hvouched⟩ d pattern hentry hmatches
    exact ⟨name, hvouched, patternMatch_of_matchesClient hentry hname hmatches⟩
  rw [and_iff_left_of_imp hpatterns]
  rcases networkAddressToHostname_cases htype hlocal with
    ⟨hdigits, hspoof⟩ | ⟨hName, hreverse, hname, hspoof⟩
  · rw [hdigits, hspoof]
    exact iff_of_true ⟨_, rfl, Or.inl rfl⟩ fun h => nomatch h
  · rw [hname, hreverse]
    simp only [Option.some.injEq, exists_eq_left', Vouched, ← hspoof]
    cases possibleSpoof w connectionType addr <;> simp

/-- The network of the display, whose reverse map has the name `console.lab` for it; this
name resolves to the address `10.0.0.n`. -/
def World.named (n : UInt8) : World :=
  { World.lan 20 7 with
    gethostbyaddr := fun _ _ => some "console.lab".toList
    getaddrinfo := fun _ => [.inet ⟨[0, 0], rfl⟩ ⟨[10, 0, 0, n], rfl⟩]
    accessText := some "*.lab\n".toList }

/-- The name resolves to another host, and the display is admitted by it. -/
theorem forged_name_admitted :
    isLocalAddress (World.named 3) [10, 0, 0, 2] familyInternet = false ∧
    networkAddressToHostname (World.named 3) familyInternet [10, 0, 0, 2] =
      some "console.lab".toList ∧
    ¬ Vouched (World.named 3) familyInternet [10, 0, 0, 2] "console.lab".toList ∧
    patternMatch (World.named 3) "*.lab".toList
      (dotted (World.named 3) familyInternet [10, 0, 0, 2]) = false ∧
    acceptableDisplayAddress (World.named 3) Config.plain
      (scanAccessDatabase (World.named 3) Config.plain) [10, 0, 0, 2] familyInternet
      .query = true := by
  decide +kernel

/-- The name resolves to the display. -/
theorem console_name_vouched : ∃ name,
    networkAddressToHostname (World.named 2) familyInternet [10, 0, 0, 2] = some name ∧
      Vouched (World.named 2) familyInternet [10, 0, 0, 2] name :=
  ((hostname_vouched_iff (World.named 2) [10, 0, 0, 2] (Or.inl rfl) (by decide)).2
    fun h => nomatch h).1

end Xdm
