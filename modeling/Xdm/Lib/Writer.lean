/-
# Writers into a buffer of fixed size

A writer is given one item after the other.  An item that fits is appended; of one that does
not fit, a part is, or nothing: a writer that drops such items and one that cuts them are the
two instances at the end.  Nobody looks at what a writer says about an item, so what ends up
in the buffer is what counts: it is everything if and only if the items fit together.
-/
import Mathlib.Data.List.Basic

namespace Prog

/-- A writer into a buffer that holds `size` elements. -/
structure Writer (β : Type) (size : Nat) where
  /-- The buffer after an item has been put behind what it holds. -/
  put : List β → List β → List β
  put_fits : ∀ held item, held.length + item.length ≤ size → put held item = held ++ item
  put_full : ∀ held item, held.length ≤ size → size < held.length + item.length →
    ∃ part, part <+: item ∧ held.length + part.length ≤ size ∧ put held item = held ++ part

namespace Writer

variable {β : Type} {size : Nat} (W : Writer β size)

/-- The buffer after some items have been put behind what it holds. -/
def writeFrom (held : List β) (items : List (List β)) : List β := items.foldl W.put held

/-- The buffer after the items have been written from its beginning. -/
def write (items : List (List β)) : List β := W.writeFrom [] items

/-- Of every item a part is put into the buffer, and never more than fits. -/
lemma put_eq_append {held : List β} (item : List β) (hheld : held.length ≤ size) :
    ∃ part, part <+: item ∧ held.length + part.length ≤ size ∧ W.put held item = held ++ part := by
  rcases Nat.lt_or_ge size (held.length + item.length) with hfull | hfits
  · exact W.put_full held item hheld hfull
  · exact ⟨item, List.prefix_refl item, hfits, W.put_fits held item hfits⟩

/-- What the buffer holds stays, and it does not overflow. -/
lemma writeFrom_eq_append {held : List β} (items : List (List β)) (hheld : held.length ≤ size) :
    ∃ part, held.length + part.length ≤ size ∧ W.writeFrom held items = held ++ part := by
  induction items generalizing held with
  | nil => exact ⟨[], hheld, (List.append_nil held).symm⟩
  | cons item items ih =>
    obtain ⟨part, -, hsize, hput⟩ := W.put_eq_append item hheld
    have hlen : (held ++ part).length ≤ size := by rwa [List.length_append]
    obtain ⟨part', hsize', hwrite⟩ := ih hlen
    refine ⟨part ++ part', ?_, ?_⟩
    · rw [List.length_append] at hsize' ⊢
      omega
    · rw [writeFrom, List.foldl_cons, hput, ← List.append_assoc]
      exact hwrite

/-- Items that fit together are all there. -/
lemma writeFrom_eq_flatten {held : List β} {items : List (List β)}
    (h : held.length + items.flatten.length ≤ size) :
    W.writeFrom held items = held ++ items.flatten := by
  induction items generalizing held with
  | nil => exact (List.append_nil held).symm
  | cons item items ih =>
    rw [List.flatten_cons, List.length_append] at h
    rw [writeFrom, List.foldl_cons, W.put_fits held item (by omega), List.flatten_cons,
      ← List.append_assoc]
    exact ih (by rw [List.length_append]; omega)

lemma write_eq_flatten {items : List (List β)} (h : items.flatten.length ≤ size) :
    W.write items = items.flatten :=
  W.writeFrom_eq_flatten (by simpa using h)

lemma length_write_le (items : List (List β)) : (W.write items).length ≤ size := by
  have hnil : ([] : List β).length ≤ size := Nat.zero_le size
  obtain ⟨part, hsize, hwrite⟩ := W.writeFrom_eq_append items hnil
  rw [write, hwrite, List.length_append]
  exact hsize

/-- The buffer holds as much as has been written if and only if that fits. -/
lemma length_write_eq_iff (items : List (List β)) :
    (W.write items).length = items.flatten.length ↔ items.flatten.length ≤ size := by
  constructor
  · intro h
    rw [← h]
    exact W.length_write_le items
  · intro h
    rw [W.write_eq_flatten h]

/-- A first item that fits stands at the beginning of the buffer. -/
lemma write_cons {item : List β} (items : List (List β)) (h : item.length ≤ size) :
    ∃ part, item.length + part.length ≤ size ∧ W.write (item :: items) = item ++ part := by
  rw [write, writeFrom, List.foldl_cons, W.put_fits [] item (by simpa using h)]
  exact W.writeFrom_eq_append items h

/-- The writer that drops an item that does not fit. -/
def dropping (β : Type) (size : Nat) : Writer β size where
  put held item := if held.length + item.length ≤ size then held ++ item else held
  put_fits _ _ h := if_pos h
  put_full held item hheld hfull :=
    ⟨[], List.nil_prefix, hheld, by rw [if_neg (by omega), List.append_nil]⟩

/-- The writer that goes on until the buffer is full. -/
def cutting (β : Type) (size : Nat) : Writer β size where
  put held item := held ++ item.take (size - held.length)
  put_fits held item h := by rw [List.take_of_length_le (by omega)]
  put_full held item hheld _ := by
    refine ⟨item.take (size - held.length), List.take_prefix _ _, ?_, rfl⟩
    rw [List.length_take]
    omega

end Writer

end Prog
