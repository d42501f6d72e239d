/-
# Argument vectors and environments

`parseArgs`, `getEnv`, `makeEnv` and `setEnv` of `xdm/util.c`, when allocations succeed.  The
strings of an environment are of the form `name=value`.
-/
import Xdm.Access.Grammar

namespace Xdm

/-- Write to an array.  Behind its end there is no outcome. -/
def store {α : Type} (cells : List α) (i : Nat) (v : α) : Option (List α) :=
  if i < cells.length then some (cells.set i v) else none

lemma store_append {α : Type} (a b : List α) (c v : α) :
    store (a ++ c :: b) a.length v = some (a ++ v :: b) := by
  rw [store, if_pos (by rw [List.length_append, List.length_cons]; omega),
    List.set_append_right _ _ (Nat.le_refl _), Nat.sub_self, List.set_cons_zero]

/-! ### Argument vectors -/

/-- A word that has come to its end. -/
def putWord (argv : List Str) (word : Str) : List Str := if word = [] then argv else argv ++ [word]

/-- The loop of `parseArgs`, with the characters between `word` and `string`. -/
def parseArgsLoop (argv : List Str) (word : Str) : Str → List Str
  | [] => putWord argv word
  | c :: string =>
    if isBlank c then parseArgsLoop (putWord argv word) [] string
    else parseArgsLoop argv (word ++ [c]) string

def parseArgs (argv : List Str) (string : Str) : List Str := parseArgsLoop argv [] string

variable {name name' : Str}

/-! ### Environments -/

/-- The entry of an environment is one of this variable. -/
def isEnv (name entry : Str) : Bool := (name ++ ['=']).isPrefixOf entry

def getEnv (e : List Str) (name : Str) : Option Str :=
  (e.find? (isEnv name)).map fun entry => entry.drop (name.length + 1)

def makeEnv (name value : Str) : Str := name ++ ['='] ++ value

def setEnv (name value : Str) : List Str → List Str
  | [] => [makeEnv name value]
  | entry :: e =>
    if isEnv name entry then makeEnv name value :: e else entry :: setEnv name value e

lemma isEnv_makeEnv (name value : Str) : isEnv name (makeEnv name value) = true := by
  unfold isEnv makeEnv
  rw [List.isPrefixOf_iff_prefix]
  exact List.prefix_append ..

@[simp] lemma getEnv_setEnv (name value : Str) (e : List Str) :
    getEnv (setEnv name value e) name = some value := by
  have hvalue : (makeEnv name value).drop (name.length + 1) = value := by
    simp [makeEnv]
  induction e with
  | nil => simp [getEnv, setEnv, isEnv_makeEnv, hvalue]
  | cons entry e ih =>
    unfold setEnv
    split_ifs with h
    · simp [getEnv, isEnv_makeEnv, hvalue]
    · simpa [getEnv, List.find?_cons, h] using ih

/-- An entry is of one variable only. -/
lemma isEnv_other {entry : Str} (hne : name ≠ name') (hn : '=' ∉ name) (hn' : '=' ∉ name')
    (h : isEnv name entry = true) : isEnv name' entry = false := by
  rw [Bool.eq_false_iff]
  intro h'
  unfold isEnv at h h'
  rw [List.isPrefixOf_iff_prefix] at h h'
  -- of two prefixes of one entry one is a prefix of the other, up to its only equals sign
  have hcut : ∀ {a b : Str}, '=' ∉ b → a ++ ['='] <+: entry → b ++ ['='] <+: entry →
      a.length ≤ b.length → a = b := by
    intro a b hb ha hb' hlength
    rcases Nat.lt_or_eq_of_le hlength with hlt | heq
    · have hinit : a ++ ['='] <+: b :=
        List.prefix_of_prefix_length_le ha ((List.prefix_append b ['=']).trans hb') (by
          rw [List.length_append, List.length_singleton]
          omega)
      exact absurd (hinit.subset (by simp)) hb
    · have hsame : a ++ ['='] = b ++ ['='] :=
        (List.prefix_of_prefix_length_le ha hb' (by simp [heq])).eq_of_length (by simp [heq])
      exact List.append_cancel_right hsame
  rcases Nat.le_total name.length name'.length with hle | hle
  · exact hne (hcut hn' h h' hle)
  · exact hne (hcut hn h' h hle).symm

lemma getEnv_setEnv_of_ne (hne : name' ≠ name) (hn : '=' ∉ name) (hn' : '=' ∉ name')
    (value : Str) (e : List Str) : getEnv (setEnv name value e) name' = getEnv e name' := by
  have hmake : isEnv name' (makeEnv name value) = false :=
    isEnv_other hne.symm hn hn' (isEnv_makeEnv name value)
  induction e with
  | nil => simp [getEnv, setEnv, hmake]
  | cons entry e ih =>
    unfold setEnv
    split_ifs with h
    · simp [getEnv, hmake, isEnv_other hne.symm hn hn' h]
    · unfold getEnv at ih ⊢
      rw [List.find?_cons, List.find?_cons]
      split
      · rfl
      · exact ih

end Xdm
