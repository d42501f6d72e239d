/-
# Readers that invert writers

A reader takes the encoding of a value off the front of a list.  `Codec` relates it to the
writer of the same format: the reader gives back every valid value that has been written,
whatever follows it, and it accepts nothing else.  The rules below build the codec of a
record from the codecs of its fields, in the order in which both sides go through them.
-/
import Xdm.Lib.Prog

namespace Prog

variable {α β : Type}

/-- `read` takes off exactly the encodings of valid values. -/
structure Codec (valid : α → Prop) (write : α → List β) (read : Prog (List β) α) : Prop where
  read_write : ∀ a rest, valid a → read (write a ++ rest) = some (a, rest)
  eq_write : ∀ bs a rest, read bs = some (a, rest) → valid a ∧ bs = write a ++ rest

namespace Codec

variable {valid valid' : α → Prop} {write write' : α → List β} {read : Prog (List β) α}

/-- The two directions as one. -/
lemma read_eq_some (h : Codec valid write read) {bs rest : List β} {a : α} :
    read bs = some (a, rest) ↔ valid a ∧ bs = write a ++ rest := by
  constructor
  · exact h.eq_write bs a rest
  · rintro ⟨ha, rfl⟩
    exact h.read_write a rest ha

/-- The same values, written in the same way. -/
lemma congr (h : Codec valid write read) (hvalid : ∀ a, valid' a ↔ valid a)
    (hwrite : ∀ a, valid a → write' a = write a) : Codec valid' write' read where
  read_write := fun a rest ha => by
    have ha' := (hvalid a).1 ha
    rw [hwrite a ha']
    exact h.read_write a rest ha'
  eq_write := fun bs a rest hread => by
    obtain ⟨ha, rfl⟩ := h.eq_write bs a rest hread
    exact ⟨(hvalid a).2 ha, by rw [hwrite a ha]⟩

/-- A value that is known takes no room. -/
lemma pure (a : α) : Codec (fun x => x = a) (fun _ => ([] : List β)) (pure a) where
  read_write := by
    rintro _ rest rfl
    rfl
  eq_write := by
    rintro bs x rest hread
    obtain ⟨rfl, rfl⟩ := Prod.mk.inj (Option.some.inj hread)
    exact ⟨rfl, rfl⟩

/-- A part of the value first, and then the rest of it, which may depend on this part. -/
lemma bind {γ : Type} {valid' : γ → Prop} {write' : γ → List β} {next : α → Prog (List β) γ}
    (h : Codec valid write read) (part : γ → α) (hpart : ∀ c, valid' c → valid (part c))
    (hnext : ∀ a, valid a → Codec (fun c => part c = a ∧ valid' c) write' (next a)) :
    Codec valid' (fun c => write (part c) ++ write' c) (read >>= next) where
  read_write := by
    intro c rest hc
    change (read _).bind (fun p => next p.1 p.2) = _
    rw [List.append_assoc, h.read_write (part c) _ (hpart c hc)]
    exact (hnext (part c) (hpart c hc)).read_write c rest ⟨rfl, hc⟩
  eq_write := by
    intro bs c rest hread
    change (read bs).bind (fun p => next p.1 p.2) = _ at hread
    obtain ⟨⟨a, bs'⟩, hfirst, hrest⟩ := Option.bind_eq_some_iff.1 hread
    obtain ⟨ha, rfl⟩ := h.eq_write bs a bs' hfirst
    obtain ⟨⟨rfl, hc⟩, rfl⟩ := (hnext a ha).eq_write bs' c rest hrest
    exact ⟨hc, by rw [List.append_assoc]⟩

/-- A value in another guise. -/
lemma map {γ : Type} {valid' : γ → Prop} {write' : γ → List β} (h : Codec valid write read)
    (f : α → γ) (hvalid : ∀ c, valid' c ↔ ∃ a, c = f a ∧ valid a)
    (hwrite : ∀ a, valid a → write' (f a) = write a) : Codec valid' write' (f <$> read) where
  read_write := by
    intro c rest hc
    obtain ⟨a, rfl, ha⟩ := (hvalid c).1 hc
    change (read _).bind (fun p => some (f p.1, p.2)) = _
    rw [hwrite a ha, h.read_write a rest ha]
    rfl
  eq_write := by
    intro bs c rest hread
    change (read bs).bind (fun p => some (f p.1, p.2)) = _ at hread
    obtain ⟨⟨a, bs'⟩, hfirst, heq⟩ := Option.bind_eq_some_iff.1 hread
    obtain ⟨rfl, rfl⟩ := Prod.mk.inj (Option.some.inj heq)
    obtain ⟨ha, rfl⟩ := h.eq_write bs a bs' hfirst
    exact ⟨(hvalid _).2 ⟨a, rfl, ha⟩, by rw [hwrite a ha]⟩

/-- A list of `n` values, for any reader `many` that reads so many of them. -/
lemma many (h : Codec valid write read) {many : Nat → Prog (List β) (List α)}
    (hzero : many 0 = Pure.pure [])
    (hsucc : ∀ n, many (n + 1) = read >>= fun a => many n >>= fun l => Pure.pure (a :: l))
    (n : Nat) : Codec (fun l => l.length = n ∧ ∀ a ∈ l, valid a) (fun l => l.flatMap write)
      (many n) := by
  induction n with
  | zero =>
    rw [hzero]
    refine (Codec.pure []).congr (fun l => ?_) fun l hl => by simp [hl]
    rw [List.length_eq_zero_iff]
    exact and_iff_left_of_imp fun hl => by simp [hl]
  | succ n ih =>
    rw [hsucc]
    constructor
    · rintro l rest ⟨hlen, hl⟩
      obtain _ | ⟨a, l⟩ := l
      · exact nomatch hlen
      have hrest := ih.read_write l rest ⟨Nat.succ.inj hlen, fun b hb => hl b (by simp [hb])⟩
      change (read _).bind (fun p => (many n p.2).bind fun q => some (p.1 :: q.1, q.2)) = _
      rw [List.flatMap_cons, List.append_assoc, h.read_write a _ (hl a (by simp))]
      simp only [Option.bind_some, hrest]
    · intro bs l rest hread
      change (read bs).bind (fun p => (many n p.2).bind fun q => some (p.1 :: q.1, q.2)) = _
        at hread
      obtain ⟨⟨a, bs'⟩, hfirst, hread'⟩ := Option.bind_eq_some_iff.1 hread
      obtain ⟨⟨l', bs''⟩, hmany, heq⟩ := Option.bind_eq_some_iff.1 hread'
      obtain ⟨rfl, rfl⟩ := Prod.mk.inj (Option.some.inj heq)
      obtain ⟨ha, rfl⟩ := h.eq_write bs a bs' hfirst
      obtain ⟨⟨hlen, hl⟩, rfl⟩ := ih.eq_write bs' l' bs'' hmany
      exact ⟨⟨by simp [hlen], by simpa using ⟨ha, hl⟩⟩,
        by simp [List.append_assoc]⟩

end Codec

end Prog
