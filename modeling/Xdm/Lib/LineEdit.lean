/-
# A line with a cursor

A line is kept as the elements in front of the cursor and those behind it, so that no cursor is
outside it.  The second part is about a buffer of a fixed size that holds a line, up to a
terminator.  Each operation on the line is there one on the buffer, which writes over a part of it.
-/
import Mathlib.Data.List.Basic

structure Line (α : Type) where
  front : List α
  back : List α

namespace Line

variable {α : Type}

def text (l : Line α) : List α := l.front ++ l.back

def empty : Line α := ⟨[], []⟩

def insert (s : List α) (l : Line α) : Line α := ⟨l.front ++ s, l.back⟩

/-- Take out the element behind the cursor. -/
def delete (l : Line α) : Line α := ⟨l.front, l.back.tail⟩

/-- Take out the element in front of the cursor. -/
def backspace (l : Line α) : Line α := ⟨l.front.dropLast, l.back⟩

/-- Take out all elements behind the cursor. -/
def truncate (l : Line α) : Line α := ⟨l.front, []⟩

def left (l : Line α) : Line α := ⟨l.front.dropLast, l.front.getLast?.toList ++ l.back⟩

def right (l : Line α) : Line α := ⟨l.front ++ l.back.head?.toList, l.back.tail⟩

def first (l : Line α) : Line α := ⟨[], l.text⟩

def last (l : Line α) : Line α := ⟨l.text, []⟩

variable {l : Line α} {s : List α}

/-! ### The text and the cursor -/

@[simp] lemma text_truncate : l.truncate.text = l.front := List.append_nil _

@[simp] lemma text_first : l.first.text = l.text := rfl

@[simp] lemma text_last : l.last.text = l.text := List.append_nil _

@[simp] lemma text_left : l.left.text = l.text := by
  obtain ⟨front, back⟩ := l
  rcases List.eq_nil_or_concat front with rfl | ⟨front, c, rfl⟩
  · rfl
  · simp [left, text]

@[simp] lemma text_right : l.right.text = l.text := by
  obtain ⟨front, back⟩ := l
  cases back with
  | nil => simp [right, text]
  | cons c back => simp [right, text]

@[simp] lemma length_front_left : l.left.front.length = l.front.length - 1 := List.length_dropLast

lemma length_front_right (h : l.back ≠ []) : l.right.front.length = l.front.length + 1 := by
  obtain ⟨front, back⟩ := l
  cases back with
  | nil => exact absurd rfl h
  | cons c back => simp [right]

lemma right_of_back_nil (h : l.back = []) : l.right = l := by
  obtain ⟨front, back⟩ := l
  subst h
  simp [right]

lemma length_text : l.text.length = l.front.length + l.back.length := List.length_append

lemma backspace_of_front_nil (h : l.front = []) : l.backspace = l := by
  obtain ⟨front, back⟩ := l
  subst h
  rfl

lemma delete_of_back_nil (h : l.back = []) : l.delete = l := by
  obtain ⟨front, back⟩ := l
  subst h
  rfl

lemma delete_left (h : l.front ≠ []) : l.left.delete = l.backspace := by
  obtain ⟨front, back⟩ := l
  obtain ⟨front, c, rfl⟩ := (List.eq_nil_or_concat front).resolve_left h
  simp [left, delete, backspace]

lemma length_front_le : l.front.length ≤ l.text.length := by
  rw [length_text]
  exact Nat.le_add_right _ _

lemma length_text_delete : l.delete.text.length = l.front.length + (l.back.length - 1) := by
  rw [length_text, delete, List.length_tail]

lemma length_text_insert : (l.insert s).text.length = l.text.length + s.length := by
  simp only [length_text, insert, List.length_append]
  omega

/-! ### Buffers -/

/-- A part of a buffer is written over.  What would be behind its end is left out. -/
def overwrite (buf : List α) (i : ℕ) (cells : List α) : List α :=
  buf.take i ++ (cells.take (buf.length - i) ++ buf.drop (i + cells.length))

@[simp] lemma length_overwrite (buf : List α) (i : ℕ) (cells : List α) :
    (overwrite buf i cells).length = buf.length := by
  simp only [overwrite, List.length_append, List.length_take, List.length_drop]
  omega

variable {buf a b cells rest : List α}

lemma overwrite_append (h : cells.length ≤ rest.length) :
    overwrite (a ++ rest) a.length cells = a ++ (cells ++ rest.drop cells.length) := by
  have hlen : (a ++ rest).length - a.length = rest.length := by
    rw [List.length_append, Nat.add_sub_cancel_left]
  rw [overwrite, hlen, List.take_left, List.take_of_length_le h, List.drop_append]
  rw [List.drop_of_length_le (Nat.le_add_right _ _), Nat.add_sub_cancel_left, List.nil_append]

/-- The buffer holds the text, up to a terminator. -/
structure Holds (z : α) (buf text : List α) : Prop where
  eq : ∃ junk, buf = text ++ z :: junk
  not_mem : z ∉ text

/-- The buffer holds the line, and this is its cursor. -/
structure HoldsAt (z : α) (buf : List α) (cursor : ℕ) (l : Line α) : Prop where
  holds : Holds z buf l.text
  cursor : cursor = l.front.length

variable {z : α} {cursor : ℕ}

namespace Holds

lemma mem (h : Holds z buf s) : z ∈ buf := by
  obtain ⟨junk, rfl⟩ := h.eq
  exact List.mem_append_right _ (List.mem_cons_self ..)

lemma length_lt (h : Holds z buf s) : s.length < buf.length := by
  obtain ⟨junk, rfl⟩ := h.eq
  rw [List.length_append, List.length_cons]
  omega

/-- A text is written behind one that is there. -/
lemma of_overwrite (ha : z ∉ a) (hs : z ∉ s) (hbegin : a <+: buf)
    (hroom : a.length + (s ++ z :: rest).length ≤ buf.length) :
    Holds z (overwrite buf a.length (s ++ z :: rest)) (a ++ s) := by
  obtain ⟨old, rfl⟩ := hbegin
  rw [show (a ++ old).length = a.length + old.length from List.length_append] at hroom
  rw [overwrite_append (by omega)]
  refine ⟨⟨rest ++ old.drop (s ++ z :: rest).length, ?_⟩, ?_⟩
  · simp only [List.append_assoc, List.cons_append]
  · rw [List.mem_append]
    exact not_or.2 ⟨ha, hs⟩

lemma prefix_left (h : Holds z buf (a ++ b)) : a <+: buf := by
  obtain ⟨junk, rfl⟩ := h.eq
  exact ⟨b ++ z :: junk, (List.append_assoc ..).symm⟩

variable [DecidableEq α]

/-- The part of the text behind a point. -/
lemma takeWhile_drop (h : Holds z buf (a ++ b)) :
    (buf.drop a.length).takeWhile (· ≠ z) = b := by
  obtain ⟨junk, rfl⟩ := h.eq
  have hb : ∀ c ∈ b, decide (c ≠ z) = true := fun c hc => decide_eq_true fun heq =>
    h.not_mem (heq ▸ List.mem_append_right _ hc)
  rw [List.append_assoc, List.drop_left, List.takeWhile_append_of_pos hb]
  simp

end Holds

/-- The text does not go on behind a terminator. -/
lemma length_takeWhile_lt [DecidableEq α] (hs : z ∈ s) :
    ((s ++ rest).takeWhile (· ≠ z)).length < s.length := by
  induction s with
  | nil => simp at hs
  | cons c s ih =>
    rw [List.cons_append, List.takeWhile_cons]
    by_cases hc : c = z
    · simp [hc]
    · have hs : z ∈ s := (List.mem_cons.1 hs).resolve_left (Ne.symm hc)
      simpa [hc] using ih hs

namespace HoldsAt

lemma length_back (h : HoldsAt z buf cursor l) : l.text.length = cursor + l.back.length := by
  rw [h.cursor, length_text]

lemma cursor_le (h : HoldsAt z buf cursor l) : cursor ≤ l.text.length := by
  rw [h.length_back]
  exact Nat.le_add_right _ _

lemma moved {l' : Line α} (h : HoldsAt z buf cursor l) (htext : l'.text = l.text) :
    HoldsAt z buf l'.front.length l' := ⟨htext ▸ h.holds, rfl⟩

lemma left (h : HoldsAt z buf cursor l) : HoldsAt z buf (cursor - 1) l.left := by
  rw [h.cursor, ← length_front_left]
  exact h.moved text_left

lemma back_eq_nil (h : HoldsAt z buf cursor l) : l.back = [] ↔ ¬ cursor < l.text.length := by
  rw [h.length_back, ← List.length_eq_zero_iff]
  omega

lemma right (h : HoldsAt z buf cursor l) (hlt : cursor < l.text.length) :
    HoldsAt z buf (cursor + 1) l.right := by
  have hback : l.back ≠ [] := fun hback => h.back_eq_nil.1 hback hlt
  rw [h.cursor, ← length_front_right hback]
  exact h.moved text_right

lemma first (h : HoldsAt z buf cursor l) : HoldsAt z buf 0 l.first := h.moved text_first

lemma last (h : HoldsAt z buf cursor l) : HoldsAt z buf l.text.length l.last := h.moved text_last

lemma front_not_mem (h : HoldsAt z buf cursor l) : z ∉ l.front :=
  fun hmem => h.holds.not_mem (List.mem_append_left _ hmem)

lemma back_not_mem (h : HoldsAt z buf cursor l) : z ∉ l.back :=
  fun hmem => h.holds.not_mem (List.mem_append_right _ hmem)

/-- What is behind the cursor is moved on, and the gap is filled. -/
lemma overwrite_gap (h : HoldsAt z buf cursor l)
    (hroom : l.text.length + s.length < buf.length) :
    ∃ junk, overwrite (overwrite buf (cursor + s.length) (l.back ++ [z])) cursor s =
      l.front ++ (s ++ (l.back ++ z :: junk)) := by
  obtain ⟨junk, hbuf⟩ := h.holds.eq
  rw [text, List.append_assoc] at hbuf
  generalize l.back ++ z :: junk = rest at hbuf
  have hlength : buf.length = cursor + rest.length := by rw [hbuf, h.cursor, List.length_append]
  rw [h.length_back] at hroom
  obtain ⟨gap, after, rfl, hgap⟩ : ∃ gap after, rest = gap ++ after ∧ gap.length = s.length := by
    refine ⟨_, _, (List.take_append_drop s.length rest).symm, ?_⟩
    rw [List.length_take]
    omega
  rw [List.length_append, hgap] at hlength
  have hafter : (l.back ++ [z]).length ≤ after.length := by
    rw [List.length_append, List.length_singleton]
    omega
  have hat : cursor + s.length = (l.front ++ gap).length := by
    rw [List.length_append, hgap, h.cursor]
  refine ⟨after.drop (l.back ++ [z]).length, ?_⟩
  rw [hat, hbuf, ← List.append_assoc, overwrite_append hafter, List.append_assoc, h.cursor,
    overwrite_append]
  · rw [List.drop_left' hgap]
    simp only [List.append_assoc, List.singleton_append]
  · rw [List.length_append, hgap]
    exact Nat.le_add_right _ _

lemma insert (h : HoldsAt z buf cursor l) (hs : z ∉ s)
    (hroom : l.text.length + s.length < buf.length) :
    HoldsAt z (overwrite (overwrite buf (cursor + s.length) (l.back ++ [z])) cursor s)
      (cursor + s.length) (l.insert s) := by
  obtain ⟨junk, heq⟩ := h.overwrite_gap hroom
  refine ⟨⟨⟨junk, ?_⟩, ?_⟩, ?_⟩
  · rw [heq]
    simp only [text, Line.insert, List.append_assoc]
  · simp only [text, Line.insert, List.mem_append]
    exact not_or.2 ⟨not_or.2 ⟨h.front_not_mem, hs⟩, h.back_not_mem⟩
  · rw [Line.insert, List.length_append, h.cursor]

/-- The text behind the cursor is moved back by one. -/
lemma delete (h : HoldsAt z buf cursor l) :
    HoldsAt z (overwrite buf cursor (l.back.tail ++ [z])) cursor l.delete := by
  refine ⟨?_, h.cursor⟩
  have hroom := h.holds.length_lt
  rw [h.length_back] at hroom
  rw [h.cursor]
  refine Holds.of_overwrite h.front_not_mem ?_ h.holds.prefix_left ?_
  · exact fun hmem => h.back_not_mem (List.mem_of_mem_tail hmem)
  · rw [List.length_append, List.length_tail, List.length_singleton, ← h.cursor]
    omega

lemma truncate (h : HoldsAt z buf cursor l) :
    HoldsAt z (overwrite buf cursor (List.replicate (buf.length - cursor) z)) cursor
      l.truncate := by
  refine ⟨?_, h.cursor⟩
  have hlt : cursor < buf.length := Nat.lt_of_le_of_lt h.cursor_le h.holds.length_lt
  obtain ⟨k, hk⟩ : ∃ k, buf.length - cursor = k + 1 := ⟨buf.length - cursor - 1, by omega⟩
  rw [hk, List.replicate_succ, h.cursor]
  refine Holds.of_overwrite (s := []) h.front_not_mem List.not_mem_nil h.holds.prefix_left ?_
  rw [List.nil_append, List.length_cons, List.length_replicate, ← hk, ← h.cursor]
  omega

end HoldsAt

/-- The whole buffer is cleared. -/
lemma holdsAt_empty (hne : buf ≠ []) :
    HoldsAt z (overwrite buf 0 (List.replicate buf.length z)) 0 empty := by
  refine ⟨?_, rfl⟩
  obtain ⟨c, rest, rfl⟩ := List.exists_cons_of_ne_nil hne
  rw [List.length_cons, List.replicate_succ]
  refine Holds.of_overwrite (a := []) (s := []) List.not_mem_nil List.not_mem_nil
    List.nil_prefix ?_
  simp

end Line
