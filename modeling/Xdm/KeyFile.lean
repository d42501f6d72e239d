/-
# The key file

`XdmGetKey` (`xdm/xdmauth.c`) looks for the key that a display shares with xdm.  A key in hex is
decoded in the buffer that it has been read into, and what has been decoded is then taken for
a C string; `xdmGetKey_iff` says for which keys this gives the bytes that are denoted.
-/
import Xdm.Base
import Mathlib.Data.List.TakeWhile

namespace Xdm

/-! ### Reading the file -/

def isSpaceByte (c : UInt8) : Bool := c = 32 ∨ (9 ≤ c ∧ c ≤ 13)

/-- The lines that `fgets` returns: each ends behind a newline, or when `n` bytes have been
read.  `line` is what the current one has so far. -/
def fgetsFrom (n : Nat) : List UInt8 → List UInt8 → List (List UInt8)
  | line, [] => if line = [] then [] else [line]
  | line, c :: file =>
    if c = 10 ∨ line.length + 1 = n then (line ++ [c]) :: fgetsFrom n [] file
    else fgetsFrom n (line ++ [c]) file

/-- `fgets (line, sizeof (line) - 1, keys)`, with a byte less for the NUL. -/
def fgetsLines (file : List UInt8) : List (List UInt8) := fgetsFrom 1022 [] file

/-- A `%s` of `sscanf`: the word, and what is behind it. -/
def scanWord (s : List UInt8) : Option (List UInt8 × List UInt8) :=
  let s := s.dropWhile isSpaceByte
  if s = [] then none
  else some (s.takeWhile fun c => !isSpaceByte c, s.dropWhile fun c => !isSpaceByte c)

/-- The two words of a line, unless `XdmGetKey` skips it: as a comment, or because `sscanf` has
not found two. -/
def scanEntry (line : List UInt8) : Option (List UInt8 × List UInt8) :=
  if line.head? = some 35 then none
  else do
    let (id, rest) ← scanWord (line.takeWhile fun c => c ≠ 0)
    let (key, _) ← scanWord rest
    pure (id, key)

/-! ### Decoding a key -/

def atox (c : UInt8) : Option UInt8 :=
  if 48 ≤ c ∧ c ≤ 57 then some (c - 48)
  else if 97 ≤ c ∧ c ≤ 102 then some (c - 97 + 10)
  else if 65 ≤ c ∧ c ≤ 70 then some (c - 65 + 10)
  else none

/-- The loop of `HexToBinary`, with `in` and `out` as indices into `key`: whether it succeeds,
and the buffer then. -/
def hexToBinaryFrom : Nat → Nat → Nat → List UInt8 → Option (Bool × List UInt8)
  | 0, _, _, _ => none
  | fuel + 1, i, out, key =>
    if key.getD i 0 ≠ 0 ∧ key.getD (i + 1) 0 ≠ 0 then
      match atox (key.getD i 0), atox (key.getD (i + 1) 0) with
      | some top, some bottom =>
        hexToBinaryFrom fuel (i + 2) (out + 1) (key.set out (top <<< 4 ||| bottom))
      | _, _ => some (false, key)
    else if key.getD i 0 ≠ 0 then some (false, key)
    else some (true, key.set out 0)

/-- `HexToBinary`.  There are not more turns than bytes in the buffer. -/
def hexToBinary (key : List UInt8) : Option (Bool × List UInt8) :=
  hexToBinaryFrom key.length 2 0 key

def strlen (key : List UInt8) : Nat := (key.takeWhile fun c => c ≠ 0).length

/-- `while (keylen < 7) key[keylen++] = '\0'` -/
def padKey : Nat → Nat → List UInt8 → List UInt8
  | 0, _, key => key
  | fuel + 1, keylen, key =>
    if keylen < 7 then padKey fuel (keylen + 1) (key.set keylen 0) else key

/-- What becomes `pdpy->key.data`. -/
def keyData (key : List UInt8) : ARRAY8 := 0 :: (padKey 7 (strlen key) key).take 7

/-- The word begins with `0x` or `0X`. -/
def isHex (key : List UInt8) : Bool := key.take 2 = [48, 120] ∨ key.take 2 = [48, 88]

/-- The loop of `XdmGetKey` over the lines.  The buffer `key` keeps behind each word what was
there before. -/
def xdmGetKeyLoop (displayID : ARRAY8) :
    List (List UInt8) → List UInt8 → Option (Option ARRAY8)
  | [], _ => some none
  | line :: lines, key =>
    match scanEntry line with
    | none => xdmGetKeyLoop displayID lines key
    | some (id, word) =>
      let key := word ++ 0 :: key.drop (word.length + 1)
      if id = displayID then
        if isHex key then do
          let (ok, key) ← hexToBinary key
          pure (if ok then some (keyData key) else none)
        else some (some (keyData key))
      else xdmGetKeyLoop displayID lines key

/-- `XdmGetKey`, with the bytes that the buffer happens to have at first: whether it returns,
and the key. -/
def xdmGetKey (stale : Vector UInt8 1024) (keyFile : Option (List UInt8))
    (displayID : ARRAY8) : Option (Option ARRAY8) :=
  match keyFile with
  | none => some none
  | some file => xdmGetKeyLoop displayID (fgetsLines file) stale.toList

/-! ### What the file says -/

/-- The bytes that an even number of digits denotes. -/
def hexBytes : List UInt8 → Option (List UInt8)
  | [] => some []
  | [_] => none
  | a :: b :: digits =>
    match atox a, atox b with
    | some top, some bottom => (hexBytes digits).map fun bytes => (top <<< 4 ||| bottom) :: bytes
    | _, _ => none

/-- A zero byte, the first seven bytes, and zero bytes up to eight. -/
def sevenBytes (bytes : List UInt8) : ARRAY8 := 0 :: (bytes ++ List.replicate 7 0).take 7

/-- The key that a word stands for. -/
def keyOf (word : List UInt8) : Option ARRAY8 :=
  if isHex word then (hexBytes (word.drop 2)).map sevenBytes else some (sevenBytes word)

/-- The key of the first of these lines that is for the display. -/
def keyWord (lines : List (List UInt8)) (displayID : ARRAY8) : Option (List UInt8) :=
  ((lines.filterMap scanEntry).find? fun entry => entry.1 = displayID).map Prod.snd

/-! ### Decoding in place -/

lemma getD_behind (l l' : List UInt8) (i : Nat) :
    (l ++ l').getD (l.length + i) 0 = l'.getD i 0 := by
  rw [List.getD_eq_getElem?_getD, List.getElem?_append_right (Nat.le_add_right ..),
    Nat.add_sub_cancel_left, List.getD_eq_getElem?_getD]

/-- The digits that have not been read are where they were: behind `gap`, which has been read
and may be written.  There is more of it with every turn. -/
lemma hexToBinaryFrom_eq : ∀ (digits : List UInt8) {out gap stale : List UInt8} {fuel : Nat},
    (∀ c ∈ digits, c ≠ 0) → gap ≠ [] → digits.length < fuel →
    ∃ ok rest, hexToBinaryFrom fuel (out ++ gap).length out.length
        ((out ++ gap) ++ (digits ++ 0 :: stale)) = some (ok, rest) ∧
      rest.length = ((out ++ gap) ++ (digits ++ 0 :: stale)).length ∧
      match hexBytes digits with
      | none => ok = false
      | some bytes => ok = true ∧ ∃ stale', rest = out ++ bytes ++ 0 :: stale'
  | [], out, gap, stale, fuel + 1, _, hgap, _ => by
    obtain ⟨g, gap, rfl⟩ := List.exists_cons_of_ne_nil hgap
    have hend := getD_behind (out ++ g :: gap) (0 :: stale) 0
    refine ⟨true, ((out ++ g :: gap) ++ 0 :: stale).set out.length 0, ?_, List.length_set ..,
      rfl, gap ++ 0 :: stale, ?_⟩
    · change ((out ++ g :: gap) ++ (0 :: stale)).getD _ 0 = 0 at hend
      rw [Nat.add_zero] at hend
      rw [hexToBinaryFrom, List.nil_append, hend, if_neg (fun h => h.1 rfl),
        if_neg (fun h => h rfl)]
    · simp
  | [a], out, gap, stale, fuel + 1, hne, _, _ => by
    have ha : a ≠ 0 := hne a (List.mem_singleton.2 rfl)
    have hget := getD_behind (out ++ gap) (a :: 0 :: stale) 0
    have hend := getD_behind (out ++ gap) (a :: 0 :: stale) 1
    refine ⟨false, _, ?_, rfl, rfl⟩
    change ((out ++ gap) ++ ([a] ++ 0 :: stale)).getD _ 0 = a at hget
    change ((out ++ gap) ++ ([a] ++ 0 :: stale)).getD _ 0 = 0 at hend
    rw [Nat.add_zero] at hget
    rw [hexToBinaryFrom, hget, hend, if_neg (fun h => h.2 rfl), if_pos ha]
  | a :: b :: digits, out, gap, stale, fuel + 1, hne, hgap, hfuel => by
    obtain ⟨g, gap, rfl⟩ := List.exists_cons_of_ne_nil hgap
    have ha : a ≠ 0 := hne a (List.mem_cons_self ..)
    have hb : b ≠ 0 := hne b (List.mem_cons_of_mem _ (List.mem_cons_self ..))
    have hgetA := getD_behind (out ++ g :: gap) (a :: b :: digits ++ 0 :: stale) 0
    have hgetB := getD_behind (out ++ g :: gap) (a :: b :: digits ++ 0 :: stale) 1
    change _ = a at hgetA
    change _ = b at hgetB
    rw [Nat.add_zero] at hgetA
    rw [hexToBinaryFrom, hgetA, hgetB, if_pos ⟨ha, hb⟩, hexBytes]
    cases hta : atox a with
    | none => exact ⟨false, _, rfl, rfl, rfl⟩
    | some top =>
      cases htb : atox b with
      | none => exact ⟨false, _, rfl, rfl, rfl⟩
      | some bottom =>
        -- one byte of the gap is written, and the two digits join it
        obtain ⟨ok, rest, hrun, hlen, hspec⟩ := @hexToBinaryFrom_eq digits
          (out ++ [top <<< 4 ||| bottom]) (gap ++ [a, b]) stale fuel
          (fun c hc => hne c (by simp [hc])) (by simp)
          (by simp only [List.length_cons] at hfuel; omega)
        have hset : ((out ++ g :: gap) ++ (a :: b :: digits ++ 0 :: stale)).set out.length
            (top <<< 4 ||| bottom) =
            ((out ++ [top <<< 4 ||| bottom]) ++ (gap ++ [a, b])) ++ (digits ++ 0 :: stale) := by
          simp
        have hi : (out ++ g :: gap).length + 2 =
            ((out ++ [top <<< 4 ||| bottom]) ++ (gap ++ [a, b])).length := by
          simp only [List.length_append, List.length_cons, List.length_nil]
          omega
        have ho : out.length + 1 = (out ++ [top <<< 4 ||| bottom]).length := by simp
        refine ⟨ok, rest, ?_, ?_, ?_⟩
        · rw [← hrun, ← hset, ← hi, ← ho]
        · rw [hlen, ← hset, List.length_set]
        · cases hbytes : hexBytes digits with
          | none => simpa [hbytes] using hspec
          | some bytes =>
            rw [hbytes] at hspec
            obtain ⟨hok, stale', hrest⟩ := hspec
            exact ⟨hok, stale', by simpa using hrest⟩

/-! ### Taking the key for a string -/

/-- `padKey` clears what is behind the string, up to seven bytes. -/
lemma take_padKey : ∀ (fuel : Nat) (t rest : List UInt8), 7 - t.length ≤ fuel →
    7 ≤ (t ++ rest).length →
    (padKey fuel t.length (t ++ rest)).take 7 = (t ++ List.replicate 7 0).take 7
  | 0, t, rest, hfuel, _ => by
    have ht : 7 ≤ t.length := by omega
    rw [padKey, List.take_append_of_le_length ht, List.take_append_of_le_length ht]
  | fuel + 1, t, rest, hfuel, hlen => by
    rw [padKey]
    split_ifs with ht
    · cases rest with
      | nil => simp only [List.append_nil] at hlen; omega
      | cons r rest =>
        have hset : (t ++ r :: rest).set t.length 0 = (t ++ [0]) ++ rest := by simp
        have hone : t.length + 1 = (t ++ [0]).length := by simp
        have height : [0] ++ List.replicate 7 (0 : UInt8) = List.replicate 8 0 := rfl
        have hmin : min (7 - t.length) 8 = min (7 - t.length) 7 := by omega
        rw [hset, hone, take_padKey fuel (t ++ [0]) rest
          (by simp only [List.length_append, List.length_singleton]; omega) (by simpa using hlen),
          List.append_assoc, height, List.take_append, List.take_append, List.take_replicate,
          List.take_replicate, hmin]
    · have ht : 7 ≤ t.length := by omega
      rw [List.take_append_of_le_length ht, List.take_append_of_le_length ht]

/-- What is used of the buffer ends at its first zero byte. -/
lemma keyData_eq {key : List UInt8} (hlen : 7 ≤ key.length) :
    keyData key = sevenBytes (key.takeWhile fun c => c ≠ 0) := by
  have hsplit := List.takeWhile_append_dropWhile (p := fun c : UInt8 => decide (c ≠ 0)) (l := key)
  have hpad := take_padKey 7 (key.takeWhile fun c => c ≠ 0) (key.dropWhile fun c => c ≠ 0)
    (by omega) (by rw [hsplit]; exact hlen)
  rw [hsplit] at hpad
  rw [keyData, strlen, hpad, sevenBytes]

lemma takeWhile_terminated (bytes rest : List UInt8) :
    ((bytes ++ 0 :: rest).takeWhile fun c => c ≠ 0) = bytes.takeWhile fun c => c ≠ 0 := by
  induction bytes with
  | nil => rfl
  | cons b bytes ih =>
    rw [List.cons_append, List.takeWhile_cons, List.takeWhile_cons, ih]

/-- Among the first seven bytes there are only zero bytes behind a zero byte. -/
def NoGap (bytes : List UInt8) : Prop :=
  ∀ b ∈ (bytes.take 7).dropWhile (fun c => c ≠ 0), b = 0

instance (bytes : List UInt8) : Decidable (NoGap bytes) :=
  inferInstanceAs (Decidable (∀ b ∈ _, _))

/-- Stopping at the first zero byte makes no difference if there is nothing behind it. -/
lemma takeWhile_padded_iff (m : Nat) : ∀ (n : Nat) (bytes : List UInt8), n ≤ m →
    (((bytes.takeWhile fun c => c ≠ 0) ++ List.replicate m 0).take n =
        (bytes ++ List.replicate m 0).take n ↔
      ∀ b ∈ (bytes.take n).dropWhile (fun c => c ≠ 0), b = 0)
  | 0, bytes, _ => by simp
  | n + 1, [], _ => by simp
  | n + 1, b :: bytes, hn => by
    have ih := takeWhile_padded_iff m n bytes (by omega)
    by_cases hb : b = 0
    · subst hb
      rw [List.takeWhile_cons_of_neg (by simp), List.nil_append, List.take_succ_cons,
        List.dropWhile_cons_of_neg (by simp), List.take_replicate, Nat.min_eq_left hn, eq_comm,
        List.eq_replicate_iff, List.cons_append, List.take_succ_cons, List.take_append]
      constructor
      · rintro ⟨-, hall⟩ b hb
        rcases List.mem_cons.1 hb with rfl | hb
        · rfl
        · exact hall b (List.mem_cons_of_mem _ (List.mem_append_left _ hb))
      · intro hall
        refine ⟨by simp; omega, fun b hb => ?_⟩
        rcases List.mem_cons.1 hb with rfl | hb
        · rfl
        · rcases List.mem_append.1 hb with hb | hb
          · exact hall b (List.mem_cons_of_mem _ hb)
          · exact List.eq_of_mem_replicate (List.mem_of_mem_take hb)
    · rw [List.takeWhile_cons_of_pos (by simpa using hb), List.cons_append, List.cons_append,
        List.take_succ_cons, List.take_succ_cons, List.take_succ_cons,
        List.dropWhile_cons_of_pos (by simpa using hb), List.cons_inj_right, ih]

/-! ### The key that is used -/

variable {line word : List UInt8} {lines : List (List UInt8)} {key : List UInt8}
variable {displayID : ARRAY8}

/-- The key that `XdmGetKey` makes of a word. -/
def usedKey (word : List UInt8) : Option ARRAY8 :=
  if isHex word then
    (hexBytes (word.drop 2)).map fun bytes => sevenBytes (bytes.takeWhile fun c => c ≠ 0)
  else some (sevenBytes word)

lemma mem_of_scanWord {s w rest : List UInt8} (h : scanWord s = some (w, rest)) {c : UInt8} :
    (c ∈ w → c ∈ s) ∧ (c ∈ rest → c ∈ s) := by
  rw [scanWord] at h
  split at h
  · cases h
  · obtain ⟨rfl, rfl⟩ := Prod.mk.inj (Option.some.inj h)
    exact ⟨fun hc => List.dropWhile_sublist _ |>.subset (List.takeWhile_sublist _ |>.subset hc),
      fun hc => List.dropWhile_sublist _ |>.subset (List.dropWhile_sublist _ |>.subset hc)⟩

/-- A word ends before the first zero byte of its line. -/
lemma ne_zero_of_scanEntry {id : List UInt8} (h : scanEntry line = some (id, word)) :
    ∀ c ∈ word, c ≠ 0 := by
  intro c hc
  rw [scanEntry] at h
  split at h
  · cases h
  · obtain ⟨⟨id', rest⟩, hid, h⟩ := Option.bind_eq_some_iff.1 h
    obtain ⟨⟨word', rest'⟩, hword, h⟩ := Option.bind_eq_some_iff.1 h
    obtain ⟨rfl, rfl⟩ := Prod.mk.inj (Option.some.inj h)
    have hmem := (mem_of_scanWord hid).2 ((mem_of_scanWord hword).1 hc)
    simpa using List.mem_takeWhile_imp hmem

lemma isHex_terminated (word rest : List UInt8) : isHex (word ++ 0 :: rest) = isHex word := by
  match word with
  | [] => rfl
  | [c] => simp [isHex]
  | c :: d :: word => rfl

/-- Whatever the buffer had before, the word makes the key. -/
lemma key_of_word (hword : ∀ c ∈ word, c ≠ 0) (hlen : 7 ≤ key.length) :
    (if isHex (word ++ 0 :: key.drop (word.length + 1)) then do
        let (ok, key) ← hexToBinary (word ++ 0 :: key.drop (word.length + 1))
        pure (if ok then some (keyData key) else none)
      else some (some (keyData (word ++ 0 :: key.drop (word.length + 1))))) =
      some (usedKey word) := by
  have hbuf : 7 ≤ (word ++ 0 :: key.drop (word.length + 1)).length := by
    simp only [List.length_append, List.length_cons, List.length_drop]
    omega
  rw [isHex_terminated, usedKey]
  cases hhex : isHex word with
  | false =>
    rw [if_neg Bool.false_ne_true, if_neg Bool.false_ne_true, keyData_eq hbuf,
      takeWhile_terminated, List.takeWhile_eq_self_iff.2 fun c hc => by simpa using hword c hc]
  | true =>
    obtain ⟨c, d, digits, rfl⟩ : ∃ c d digits, word = c :: d :: digits := by
      match word, hhex with
      | [_], h => simp [isHex] at h
      | c :: d :: digits, _ => exact ⟨c, d, digits, rfl⟩
    obtain ⟨ok, rest, hrun, hrest, hspec⟩ := @hexToBinaryFrom_eq digits [] [c, d]
      (key.drop ((c :: d :: digits).length + 1))
      (c :: d :: digits ++ 0 :: key.drop ((c :: d :: digits).length + 1)).length
      (fun b hb => hword b (List.mem_cons_of_mem _ (List.mem_cons_of_mem _ hb))) (by simp)
      (by simp only [List.length_append, List.length_cons]; omega)
    have hdecode : hexToBinary (c :: d :: digits ++
        0 :: key.drop ((c :: d :: digits).length + 1)) = some (ok, rest) := hrun
    rw [if_pos rfl, if_pos rfl, hdecode]
    change some (if ok then some (keyData rest) else none) = some ((hexBytes digits).map _)
    cases hbytes : hexBytes digits with
    | none =>
      rw [hbytes] at hspec
      rw [show ok = false from hspec]
      rfl
    | some bytes =>
      rw [hbytes] at hspec
      obtain ⟨rfl, stale', rfl⟩ := hspec
      rw [if_pos rfl, keyData_eq (hrest ▸ hbuf), List.nil_append, takeWhile_terminated]
      rfl

/-- The first entry for the display is the one that is used, and no other. -/
lemma xdmGetKeyLoop_eq : ∀ {lines : List (List UInt8)} {key : List UInt8}, 7 ≤ key.length →
    xdmGetKeyLoop displayID lines key = some ((keyWord lines displayID).bind usedKey)
  | [], _, _ => rfl
  | line :: lines, key, hlen => by
    rw [xdmGetKeyLoop, keyWord]
    cases hentry : scanEntry line with
    | none =>
      rw [List.filterMap_cons_none hentry]
      exact xdmGetKeyLoop_eq hlen
    | some entry =>
      obtain ⟨id, word⟩ := entry
      rw [List.filterMap_cons_some hentry]
      by_cases hid : id = displayID
      · rw [List.find?_cons_of_pos (by simpa using hid)]
        dsimp only
        rw [if_pos hid]
        exact key_of_word (ne_zero_of_scanEntry hentry) hlen
      · rw [List.find?_cons_of_neg (by simpa using hid)]
        dsimp only
        rw [if_neg hid]
        refine xdmGetKeyLoop_eq ?_
        simp only [List.length_append, List.length_cons, List.length_drop]
        omega

/-- The key that is used is the one that is denoted, unless a zero byte cuts it off. -/
lemma usedKey_iff : usedKey word = keyOf word ↔
    (isHex word = true → ∀ bytes, hexBytes (word.drop 2) = some bytes → NoGap bytes) := by
  rw [usedKey, keyOf]
  cases isHex word with
  | false => simp
  | true =>
    cases hexBytes (word.drop 2) with
    | none => simp
    | some bytes =>
      rw [if_pos rfl, if_pos rfl, Option.map_some, Option.map_some, Option.some_inj, sevenBytes,
        sevenBytes, List.cons_inj_right, takeWhile_padded_iff 7 7 bytes (Nat.le_refl 7)]
      exact ⟨fun h _ _ hb => Option.some.inj hb ▸ h, fun h => h rfl bytes rfl⟩

/-! ### Long lines -/

/-- The lines of a file, however long they are. -/
def fileLinesFrom : List UInt8 → List UInt8 → List (List UInt8)
  | line, [] => if line = [] then [] else [line]
  | line, c :: file =>
    if c = 10 then (line ++ [c]) :: fileLinesFrom [] file else fileLinesFrom (line ++ [c]) file

def fileLines (file : List UInt8) : List (List UInt8) := fileLinesFrom [] file

/-- The current line goes on with the next byte. -/
lemma exists_longer : ∀ (file line : List UInt8) (c : UInt8),
    ∃ l ∈ fileLinesFrom line (c :: file), line.length < l.length
  | file, line, c => by
    by_cases hc : c = 10
    · rw [fileLinesFrom, if_pos hc]
      exact ⟨_, List.mem_cons_self .., by simp⟩
    · rw [fileLinesFrom, if_neg hc]
      cases file with
      | nil => exact ⟨line ++ [c], by simp [fileLinesFrom], by simp⟩
      | cons d file =>
        obtain ⟨l, hl, hlen⟩ := exists_longer file (line ++ [c]) d
        exact ⟨l, hl, Nat.lt_of_succ_lt (by simpa using hlen)⟩

/-- `fgets` cuts no line that fits. -/
lemma fgetsFrom_eq {n : Nat} : ∀ {file line : List UInt8},
    (∀ l ∈ fileLinesFrom line file, l.length ≤ n) →
    fgetsFrom n line file = fileLinesFrom line file
  | [], _, _ => rfl
  | c :: file, line, h => by
    rw [fileLinesFrom] at h ⊢
    rw [fgetsFrom]
    by_cases hc : c = 10
    · rw [if_pos hc] at h
      rw [if_pos (Or.inl hc), if_pos hc, fgetsFrom_eq fun l hl => h l (List.mem_cons_of_mem _ hl)]
    · rw [if_neg hc] at h
      rw [if_neg hc]
      by_cases hn : line.length + 1 = n
      · -- the buffer is full, so this is the last byte of the file
        cases file with
        | nil => simp [hn, fgetsFrom, fileLinesFrom]
        | cons d file =>
          obtain ⟨l, hl, hlen⟩ := exists_longer file (line ++ [c]) d
          have hle := h l hl
          simp only [List.length_append, List.length_singleton] at hlen
          omega
      · rw [if_neg (not_or.2 ⟨hc, hn⟩)]
        exact fgetsFrom_eq h

/-- `XdmGetKey` returns the key that the first entry for the display denotes, if and only if this
is not a key in hex that has a zero byte among the first seven with a different byte behind it.
The lines are those of the file if all of these fit into the buffer. -/
theorem xdmGetKey_iff (stale : Vector UInt8 1024) (file : List UInt8) (displayID : ARRAY8) :
    (xdmGetKey stale (some file) displayID =
        some ((keyWord (fgetsLines file) displayID).bind keyOf) ↔
      ∀ word, keyWord (fgetsLines file) displayID = some word → isHex word = true →
        ∀ bytes, hexBytes (word.drop 2) = some bytes → NoGap bytes) ∧
    ((∀ line ∈ fileLines file, line.length ≤ 1022) → fgetsLines file = fileLines file) := by
  refine ⟨?_, fgetsFrom_eq⟩
  have hstale : 7 ≤ stale.toList.length := by simp
  rw [xdmGetKey, xdmGetKeyLoop_eq hstale, Option.some_inj]
  cases keyWord (fgetsLines file) displayID with
  | none => simp
  | some word =>
    rw [Option.bind_some, Option.bind_some, usedKey_iff]
    exact ⟨fun h _ hword => Option.some.inj hword ▸ h, fun h => h word rfl⟩

/-- A file with a comment, a line without a key, and the keys of two displays. -/
def keyFileText : List UInt8 :=
  bytesOf "# keys\nD\nE secret\n D 0x0102030405060708\nD later\n".toList

/-- The keys of the two displays. -/
theorem xdmGetKey_read :
    xdmGetKey (Vector.replicate 1024 255) (some keyFileText) (bytesOf "D".toList) =
        some (some [0, 1, 2, 3, 4, 5, 6, 7]) ∧
      xdmGetKey (Vector.replicate 1024 255) (some keyFileText) (bytesOf "E".toList) =
        some (some (0 :: bytesOf "secret".toList ++ [0])) := by
  have hread : ∀ displayID,
      (∀ word, keyWord (fgetsLines keyFileText) displayID = some word → isHex word = true →
        ∀ bytes, hexBytes (word.drop 2) = some bytes → NoGap bytes) →
      xdmGetKey (Vector.replicate 1024 255) (some keyFileText) displayID =
        some ((keyWord (fgetsLines keyFileText) displayID).bind keyOf) :=
    fun displayID => (xdmGetKey_iff _ keyFileText displayID).1.2
  have hD : keyWord (fgetsLines keyFileText) (bytesOf "D".toList) =
      some (bytesOf "0x0102030405060708".toList) := by decide +kernel
  have hE : keyWord (fgetsLines keyFileText) (bytesOf "E".toList) =
      some (bytesOf "secret".toList) := by decide +kernel
  constructor
  · rw [hread, hD]
    · decide +kernel
    · intro word hword _ bytes hbytes
      obtain rfl := Option.some.inj (hD.symm.trans hword)
      obtain rfl := Option.some.inj ((by decide +kernel : hexBytes
        ((bytesOf "0x0102030405060708".toList).drop 2) =
          some [1, 2, 3, 4, 5, 6, 7, 8]).symm.trans hbytes)
      decide +kernel
  · rw [hread, hE]
    · decide +kernel
    · intro word hword hhex
      obtain rfl := Option.some.inj (hE.symm.trans hword)
      exact absurd hhex (by decide +kernel)

/-- A key with a zero byte in it is cut off there. -/
theorem xdmGetKey_cut :
    xdmGetKey (Vector.replicate 1024 255) (some (bytesOf "D 0x01000203040506\n".toList))
        (bytesOf "D".toList) = some (some [0, 1, 0, 0, 0, 0, 0, 0]) ∧
      (keyWord (fgetsLines (bytesOf "D 0x01000203040506\n".toList)) (bytesOf "D".toList)).bind
        keyOf = some [0, 1, 0, 2, 3, 4, 5, 6] :=
  ⟨by decide +kernel, by decide +kernel⟩

end Xdm
