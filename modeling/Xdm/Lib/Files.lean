/-
# Files that are replaced by way of a second name

A directory is a map from names to contents.  A file is replaced in four calls: the new contents
are written under a second name, the old file is unlinked, the second name is linked to the
first one, and the second name is unlinked.  Each of the calls may fail.
-/
import Mathlib.Logic.Function.Basic
import Mathlib.Tactic.SplitIfs

/-- The files of a directory, with their contents. -/
abbrev Files (ν κ : Type) : Type := ν → Option κ

namespace Files

variable {ν κ : Type} [DecidableEq ν] {fs : Files ν κ} {p q name temp : ν} {c : κ} {ok : Bool}

/-- A file with these contents, whatever was there. -/
def put (p : ν) (c : κ) (fs : Files ν κ) : Files ν κ := Function.update fs p (some c)

/-- `unlink`; if the kernel refuses, the file stays. -/
def unlink (ok : Bool) (p : ν) (fs : Files ν κ) : Files ν κ :=
  if ok then Function.update fs p none else fs

/-- `link` gives a file a second name, if there is such a file and the name is free. -/
def link (ok : Bool) (p q : ν) (fs : Files ν κ) : Option (Files ν κ) :=
  match fs p with
  | some c => if ok ∧ (fs q).isNone then some (fs.put q c) else none
  | none => none

@[simp] lemma put_same (p : ν) (c : κ) (fs : Files ν κ) : fs.put p c p = some c :=
  Function.update_self ..

lemma put_of_ne (h : q ≠ p) : fs.put p c q = fs q := Function.update_of_ne h ..

lemma put_put (p : ν) (c c' : κ) (fs : Files ν κ) : (fs.put p c).put p c' = fs.put p c' :=
  Function.update_idem ..

lemma unlink_of_ne (h : q ≠ p) : fs.unlink ok p q = fs q := by
  unfold unlink
  split_ifs
  · exact Function.update_of_ne h ..
  · rfl

@[simp] lemma unlink_true (p : ν) (fs : Files ν κ) : fs.unlink true p p = none :=
  Function.update_self ..

@[simp] lemma unlink_false (p : ν) (fs : Files ν κ) : fs.unlink false p = fs := rfl

lemma unlink_put (ok : Bool) (p : ν) (c : κ) (fs : Files ν κ) :
    (fs.unlink ok p).put p c = fs.put p c := by
  unfold unlink put
  split_ifs
  · exact Function.update_idem ..
  · rfl

/-- The name is free after `unlink` if it was free, or the kernel has not refused. -/
lemma unlink_isNone : (fs.unlink ok p p).isNone = ((fs p).isNone || ok) := by
  cases ok with
  | true => simp
  | false => simp

/-! ### Replacing a file -/

/-- What the kernel answers to the calls that replace a file.  `unlinkTemp` is the one that
makes the second name free. -/
structure Answers where
  unlinkTemp : Bool
  unlinkOld : Bool
  link : Bool
  unlinkNew : Bool
deriving DecidableEq

/-- No call is refused. -/
def Answers.granted : Answers := ⟨true, true, true, true⟩

/-- The old file is unlinked, and the new one cannot be linked to its name. -/
def Answers.strands (a : Answers) : Bool := a.unlinkOld && !a.link

/-- Replace the file `name` by way of `temp`.  Returns whether `link` has succeeded. -/
def replace (a : Answers) (name temp : ν) (c : κ) (fs : Files ν κ) : Files ν κ × Bool :=
  let fs := (fs.put temp c).unlink a.unlinkOld name
  match fs.link a.link temp name with
  | some fs => (fs.unlink a.unlinkNew temp, true)
  | none => (fs, false)

variable {a : Answers}

/-- The contents are under the second name when it comes to `link`. -/
lemma replace_eq (hne : name ≠ temp) : fs.replace a name temp c =
    if a.link = true ∧ ((fs name).isNone || a.unlinkOld) = true then
      ((((fs.put temp c).unlink a.unlinkOld name).put name c).unlink a.unlinkNew temp, true)
    else ((fs.put temp c).unlink a.unlinkOld name, false) := by
  have htemp : (fs.put temp c).unlink a.unlinkOld name temp = some c := by
    rw [unlink_of_ne hne.symm, put_same]
  have hname : ((fs.put temp c).unlink a.unlinkOld name name).isNone =
      ((fs name).isNone || a.unlinkOld) := by
    rw [unlink_isNone, put_of_ne hne]
  unfold replace link
  simp only [htemp, hname]
  split_ifs <;> rfl

lemma replace_other (hne : name ≠ temp) (hq : q ≠ name) (hq' : q ≠ temp) :
    (fs.replace a name temp c).1 q = fs q := by
  rw [replace_eq hne]
  split_ifs
  · dsimp only
    rw [unlink_of_ne hq', put_of_ne hq, unlink_of_ne hq, put_of_ne hq']
  · dsimp only
    rw [unlink_of_ne hq, put_of_ne hq']

/-- The file has been replaced. -/
lemma replace_linked (fs : Files ν κ) (c : κ) (hne : name ≠ temp) (hlink : a.link = true)
    (hfree : fs name = none ∨ a.unlinkOld = true) :
    (fs.replace a name temp c).2 = true ∧ (fs.replace a name temp c).1 name = some c ∧
      (fs.replace a name temp c).1 temp = if a.unlinkNew then none else some c := by
  have hcond : a.link = true ∧ ((fs name).isNone || a.unlinkOld) = true :=
    ⟨hlink, by rcases hfree with h | h <;> simp [h]⟩
  rw [replace_eq hne, if_pos hcond]
  refine ⟨rfl, ?_, ?_⟩ <;> dsimp only
  · rw [unlink_of_ne hne, put_same]
  · cases a.unlinkNew with
    | true => simp
    | false =>
      simp only [unlink_false, Bool.false_eq_true, if_false]
      rw [put_of_ne hne.symm, unlink_of_ne hne.symm, put_same]

/-- All calls succeed: the file is replaced and nothing else is left. -/
lemma replace_granted (hne : name ≠ temp) :
    fs.replace .granted name temp c = ((fs.unlink true temp).put name c, true) := by
  rw [replace_eq hne, if_pos (by simp [Answers.granted])]
  congr 1
  funext q
  by_cases hname : q = name
  · subst hname
    rw [put_same, unlink_of_ne hne, put_same]
  · rw [put_of_ne hname]
    by_cases htemp : q = temp
    · subst htemp
      rw [unlink_true, Answers.granted, unlink_true]
    · rw [unlink_of_ne htemp, put_of_ne hname, unlink_of_ne hname, put_of_ne htemp,
        unlink_of_ne htemp]

lemma unlink_put_comm (hne : p ≠ q) (c : κ) (fs : Files ν κ) :
    (fs.put q c).unlink true p = (fs.unlink true p).put q c :=
  Function.update_comm hne.symm ..

lemma unlink_unlink (p : ν) (fs : Files ν κ) :
    (fs.unlink true p).unlink true p = fs.unlink true p :=
  Function.update_idem ..

lemma unlink_true_put (p : ν) (c : κ) (fs : Files ν κ) :
    (fs.put p c).unlink true p = fs.unlink true p :=
  Function.update_idem ..

/-- The old file is gone, and the contents are under the second name only. -/
lemma replace_stranded (fs : Files ν κ) (c : κ) (hne : name ≠ temp) (hlink : a.link = false)
    (hfree : fs name = none ∨ a.unlinkOld = true) :
    (fs.replace a name temp c).2 = false ∧ (fs.replace a name temp c).1 name = none ∧
      (fs.replace a name temp c).1 temp = some c := by
  rw [replace_eq hne, if_neg (by simp [hlink])]
  refine ⟨rfl, ?_, ?_⟩ <;> dsimp only
  · rcases hfree with h | h
    · cases a.unlinkOld with
      | true => simp
      | false => rw [unlink_false, put_of_ne hne, h]
    · simp [h]
  · rw [unlink_of_ne hne.symm, put_same]

/-- The old file could not be unlinked, and is as it was. -/
lemma replace_stuck (c : κ) (hne : name ≠ temp) (hold : fs name ≠ none)
    (hunlink : a.unlinkOld = false) :
    (fs.replace a name temp c).2 = false ∧ (fs.replace a name temp c).1 name = fs name ∧
      (fs.replace a name temp c).1 temp = some c := by
  have hsome : (fs name).isNone = false := by
    cases h : fs name with
    | none => exact absurd h hold
    | some c => rfl
  rw [replace_eq hne, if_neg (by simp [hsome, hunlink]), hunlink, unlink_false]
  exact ⟨rfl, put_of_ne hne, put_same ..⟩

/-- If there was no old file, then the names have the contents or nothing. -/
lemma replace_fresh (a : Answers) (c : κ) (hne : name ≠ temp) (hfree : fs name = none)
    (hq : q = name ∨ q = temp) :
    (fs.replace a name temp c).1 q = none ∨ (fs.replace a name temp c).1 q = some c := by
  cases hlink : a.link with
  | true =>
    obtain ⟨-, hname, htemp⟩ := replace_linked (a := a) fs c hne hlink (Or.inl hfree)
    rcases hq with rfl | rfl
    · exact Or.inr hname
    · rw [htemp]
      split_ifs
      · exact Or.inl rfl
      · exact Or.inr rfl
  | false =>
    obtain ⟨-, hname, htemp⟩ := replace_stranded (a := a) fs c hne hlink (Or.inl hfree)
    rcases hq with rfl | rfl
    · exact Or.inl hname
    · exact Or.inr htemp

/-- In any case the contents are under one of the names. -/
lemma replace_holds (fs : Files ν κ) (a : Answers) (c : κ) (hne : name ≠ temp) :
    (fs.replace a name temp c).1
      (if (fs.replace a name temp c).2 = true then name else temp) = some c := by
  by_cases h : a.link = true ∧ ((fs name).isNone || a.unlinkOld) = true
  · rw [replace_eq hne, if_pos h]
    dsimp only
    rw [if_pos rfl, unlink_of_ne hne, put_same]
  · rw [replace_eq hne, if_neg h]
    dsimp only
    rw [if_neg (by simp), unlink_of_ne hne.symm, put_same]

end Files
