/-
# The way of a choice

From the words on the command line of the chooser to the host that `IndirectChoice` returns:
`choice_reaches_daemon` follows an address of a client through both programs and back, and says
how long the choice that has come with it is remembered.
-/
import Xdm.Chooser.Answer

namespace Xdm

open Prog

/-! ### The choice -/

/-- The first choice of a client, with the time at which it was made. -/
inductive FirstChoice (client : ARRAY8) (connectionType : CARD16) (choice : ARRAY8)
    (time : Time) : List Choice → Prop
  | here (choices : List Choice) : FirstChoice client connectionType choice time
      (⟨client, connectionType, choice, time⟩ :: choices)
  | there {c : Choice} {choices : List Choice} : c.isFor client connectionType = false →
      FirstChoice client connectionType choice time choices →
      FirstChoice client connectionType choice time (c :: choices)

namespace FirstChoice

variable {client choice client' choice' : ARRAY8} {connectionType connectionType' : CARD16}
variable {time now choiceTimeout : Time} {choices : List Choice}

lemma isFor_self (client : ARRAY8) (connectionType : CARD16) (choice : ARRAY8) (time : Time) :
    Choice.isFor client connectionType ⟨client, connectionType, choice, time⟩ = true := by
  simp [Choice.isFor]

/-- `IndirectChoice` returns the first choice until it has timed out. -/
lemma found (h : FirstChoice client connectionType choice time choices)
    (hnow : now - time ≤ choiceTimeout) :
    (indirectChoiceLoop now choiceTimeout client connectionType choices).2 = some choice := by
  induction h with
  | here choices =>
    rw [indirectChoiceLoop, if_neg (by simpa using hnow), if_pos (isFor_self ..)]
  | @there c choices hc _ ih =>
    rw [indirectChoiceLoop]
    split_ifs with hold hfor
    · exact ih
    · exact absurd hfor (by simp [hc])
    · exact ih

/-- Until then it stays, whoever is asked for. -/
lemma loop (h : FirstChoice client connectionType choice time choices)
    (hnow : now - time ≤ choiceTimeout) :
    FirstChoice client connectionType choice time
      (indirectChoiceLoop now choiceTimeout client' connectionType' choices).1 := by
  induction h with
  | here choices =>
    rw [indirectChoiceLoop, if_neg (by simpa using hnow)]
    split_ifs with hfor
    · exact .here choices
    · exact .here _
  | @there c choices hc h ih =>
    rw [indirectChoiceLoop]
    split_ifs with hold hfor
    · exact ih
    · exact .there hc h
    · exact .there hc ih

/-- A choice that replaces another one is the first choice. -/
lemma updated (w : World)
    (h : choices.any (Choice.isFor client connectionType) = true) :
    FirstChoice client connectionType choice w.time
      (registerIndirectChoice.update w client connectionType choice choices) := by
  induction choices with
  | nil => exact nomatch h
  | cons c choices ih =>
    rw [registerIndirectChoice.update]
    split_ifs with hfor
    · obtain ⟨rfl, rfl⟩ : client = c.client ∧ connectionType = c.connectionType := by
        simpa [Choice.isFor] using hfor
      exact .here choices
    · refine .there (by simpa using hfor) (ih ?_)
      simpa [hfor] using h

/-- A choice of another client does not replace it. -/
lemma update_other {w : World} (h : FirstChoice client connectionType choice time choices)
    (hother : ¬ (client' = client ∧ connectionType' = connectionType)) :
    FirstChoice client connectionType choice time
      (registerIndirectChoice.update w client' connectionType' choice' choices) := by
  induction h with
  | here choices =>
    rw [registerIndirectChoice.update, if_neg (by simpa [Choice.isFor] using hother)]
    exact .here _
  | @there c choices hc h ih =>
    rw [registerIndirectChoice.update]
    split_ifs with hfor
    · exact .there (by simpa [Choice.isFor] using hc) h
    · exact .there hc ih

end FirstChoice

/-! ### The choices of all clients -/

/-- The functions of `choose.c` that work on the list of choices, and a change of the
configuration. -/
inductive ChoiceCall
  | indirectChoice (w : World) (clientAddress : ARRAY8) (connectionType : CARD16)
  | registerIndirectChoice (w : World) (clientAddress : ARRAY8) (connectionType : CARD16)
      (choice : ARRAY8)
  | loadConfig (config : Config)

def ChoiceCall.perform : ChoiceCall → M Unit
  | .indirectChoice w clientAddress connectionType =>
    discard (Xdm.indirectChoice w clientAddress connectionType)
  | .registerIndirectChoice w clientAddress connectionType choice =>
    Xdm.registerIndirectChoice w clientAddress connectionType choice
  | .loadConfig config => modify fun s => { s with config := config }

/-- The call comes before a choice of the client made at `time` has timed out, and is no other
choice of this client. -/
def SparesChoice (client : ARRAY8) (connectionType : CARD16) (time : Time)
    (x : Step State ChoiceCall) : Prop :=
  match x.input with
  | .indirectChoice w _ _ => w.time - time ≤ x.pre.config.choiceTimeout
  | .registerIndirectChoice _ client' connectionType' _ =>
    ¬ (client' = client ∧ connectionType' = connectionType)
  | .loadConfig _ => True

section Choices

variable {client choice : ARRAY8} {connectionType : CARD16} {time : Time} {w : World}
variable {s s' : State}

lemma firstChoice_registered
    (h : registerIndirectChoice w client connectionType choice s = some ((), s')) :
    FirstChoice client connectionType choice w.time s'.choices := by
  obtain ⟨-, rfl⟩ := Prod.mk.inj (Option.some.inj h)
  dsimp only
  split_ifs with hany
  · exact FirstChoice.updated w hany
  · exact .here _

/-- What one call leaves alone. -/
lemma firstChoice_perform {call : ChoiceCall}
    (h : FirstChoice client connectionType choice time s.choices)
    (hspares : SparesChoice client connectionType time ⟨s, call, s'⟩)
    (hcall : call.perform s = some ((), s')) :
    FirstChoice client connectionType choice time s'.choices := by
  cases call with
  | indirectChoice w client' connectionType' =>
    obtain ⟨-, rfl⟩ := Prod.mk.inj (Option.some.inj hcall)
    exact h.loop hspares
  | registerIndirectChoice w client' connectionType' choice' =>
    obtain ⟨-, rfl⟩ := Prod.mk.inj (Option.some.inj hcall)
    dsimp only
    split_ifs with hany
    · exact h.update_other hspares
    · refine .there ?_ h
      exact decide_eq_false fun hfor => hspares ⟨hfor.1.symm, hfor.2.symm⟩
  | loadConfig config =>
    obtain ⟨-, rfl⟩ := Prod.mk.inj (Option.some.inj hcall)
    exact h

lemma firstChoice_run {h : List (Step State ChoiceCall)}
    (hchoice : FirstChoice client connectionType choice time s.choices)
    (run : Run ChoiceCall.perform s h s')
    (hspares : ∀ x ∈ h, SparesChoice client connectionType time x) :
    FirstChoice client connectionType choice time s'.choices :=
  Run.invariant_of (I := fun _ s => FirstChoice client connectionType choice time s.choices)
    (C := SparesChoice client connectionType time) hchoice
    (fun _ _ _ _ _ hs hcall hx => firstChoice_perform hs hx hcall) run hspares

/-- The choice is returned as long as it is the first one and has not timed out. -/
lemma FirstChoice.returned (h : FirstChoice client connectionType choice time s.choices)
    (hnow : w.time - time ≤ s.config.choiceTimeout) :
    ∃ s', indirectChoice w client connectionType s = some (some choice, s') :=
  ⟨_, congrArg some (Prod.ext (h.found hnow) rfl)⟩

end Choices

/-! ### A toolkit -/

/-- The value that the last of these options for the resource `name` has. -/
def scanOptions (table : List XrmOptionDescRec) (name : Str) : List Str → Option Str
  | word :: value :: rest =>
    match Keyed.find XrmOptionDescRec.option word table with
    | some o =>
      if o.specifier = '*' :: name then (scanOptions table name rest).or (some (value ++ ['\x00']))
      else scanOptions table name rest
    | none => scanOptions table name (value :: rest)
  | _ => none

/-- The toolkit as far as the chooser needs it. -/
def Toolkit.plain : Toolkit where
  isCommand table command := ∀ word ∈ command, word ∉ table.map XrmOptionDescRec.option
  resource table argv name := scanOptions table name argv
  stringToInt s := some (Nat.ofDigitChars 10 (s.takeWhile Char.isDigit) 0)

section Plain

variable {table : List XrmOptionDescRec} {name : Str}

lemma scanOptions_word {word : Str} {rest : List Str}
    (hword : word ∉ table.map XrmOptionDescRec.option) :
    scanOptions table name (word :: rest) = scanOptions table name rest := by
  cases rest with
  | nil => rfl
  | cons value rest =>
    have hfind : Keyed.find XrmOptionDescRec.option word table = none :=
      Keyed.find_eq_none.2 fun o ho hoption => hword (List.mem_map.2 ⟨o, ho, hoption⟩)
    rw [scanOptions, hfind]

lemma scanOptions_append {words rest : List Str}
    (hwords : ∀ word ∈ words, word ∉ table.map XrmOptionDescRec.option) :
    scanOptions table name (words ++ rest) = scanOptions table name rest := by
  induction words with
  | nil => rfl
  | cons word words ih =>
    rw [List.forall_mem_cons] at hwords
    rw [List.cons_append, scanOptions_word hwords.1]
    exact ih hwords.2

/-- An option of the table, with its argument. -/
lemma scanOptions_argument {o : XrmOptionDescRec} {value : Str} {rest : List Str}
    (hoptions : Keyed.Distinct XrmOptionDescRec.option table) (ho : o ∈ table) :
    scanOptions table name (o.option :: value :: rest) =
      if o.specifier = '*' :: name then (scanOptions table name rest).or (some (value ++ ['\x00']))
      else scanOptions table name rest := by
  rw [scanOptions, hoptions.find_of_mem ho]

variable {args : List Argument} {operands : List Str}

/-- An option that is not there has no value. -/
lemma scanOptions_absent {o : XrmOptionDescRec}
    (hoptions : Keyed.Distinct XrmOptionDescRec.option table)
    (hspecifiers : Keyed.Distinct XrmOptionDescRec.specifier table)
    (ho : o ∈ table) (hname : o.specifier = '*' :: name)
    (hargs : ∀ a ∈ args, a.option ∈ table.map XrmOptionDescRec.option)
    (hoperands : ∀ operand ∈ operands, operand ∉ table.map XrmOptionDescRec.option)
    (habsent : ∀ a ∈ args, a.option ≠ o.option) :
    scanOptions table name (args.flatMap Argument.words ++ operands) = none := by
  induction args with
  | nil =>
    have hrest : scanOptions table name (operands ++ []) = scanOptions table name [] :=
      scanOptions_append hoperands
    rw [List.append_nil] at hrest
    exact hrest
  | cons a args ih =>
    rw [List.forall_mem_cons] at hargs habsent
    obtain ⟨o', ho', hoption⟩ := List.mem_map.1 hargs.1
    have hother : o'.specifier ≠ '*' :: name := by
      intro hname'
      have heq := hspecifiers.eq_of_mem ho' ho (hname'.trans hname.symm)
      exact habsent.1 (heq ▸ hoption).symm
    change scanOptions table name
      (a.option :: a.value :: (args.flatMap Argument.words ++ operands)) = none
    rw [← hoption, scanOptions_argument hoptions ho', if_neg hother]
    exact ih hargs.2 habsent.2

/-- The argument of an option is the value of its resource. -/
lemma scanOptions_present {o : XrmOptionDescRec} {a : Argument}
    (hoptions : Keyed.Distinct XrmOptionDescRec.option table)
    (hspecifiers : Keyed.Distinct XrmOptionDescRec.specifier table)
    (ho : o ∈ table) (hname : o.specifier = '*' :: name)
    (hdistinct : Keyed.Distinct Argument.option args)
    (hargs : ∀ a ∈ args, a.option ∈ table.map XrmOptionDescRec.option)
    (hoperands : ∀ operand ∈ operands, operand ∉ table.map XrmOptionDescRec.option)
    (ha : a ∈ args) (hoption : a.option = o.option) :
    scanOptions table name (args.flatMap Argument.words ++ operands) =
      some (a.value ++ ['\x00']) := by
  induction args with
  | nil => exact nomatch ha
  | cons b args ih =>
    obtain ⟨hb, hrest⟩ := List.nodup_cons.1 hdistinct
    rw [List.forall_mem_cons] at hargs
    obtain ⟨o', ho', hoption'⟩ := List.mem_map.1 hargs.1
    change scanOptions table name
      (b.option :: b.value :: (args.flatMap Argument.words ++ operands)) = _
    rw [← hoption', scanOptions_argument hoptions ho']
    rcases List.mem_cons.1 ha with rfl | ha
    · obtain rfl := hoptions.eq_of_mem ho' ho (hoption'.trans hoption)
      have habsent : ∀ c ∈ args, c.option ≠ o'.option := by
        intro c hc heq
        exact hb (List.mem_map.2 ⟨c, hc, heq.trans hoption'⟩)
      rw [if_pos hname,
        scanOptions_absent hoptions hspecifiers ho hname hargs.2 hoperands habsent]
      rfl
    · have hlater := ih hrest hargs.2 ha
      split_ifs
      · rw [hlater]
        rfl
      · exact hlater

end Plain

lemma Toolkit.documented_plain : Toolkit.plain.Documented where
  resource := by
    intro table command args operands hcommand hmark hoptions hspecifiers hdistinct hargs hoperands
      name a ha ho
    have hoperand : ∀ operand ∈ operands, operand ∉ table.map XrmOptionDescRec.option := by
      intro operand hoperand hmem
      obtain ⟨o, ho, rfl⟩ := List.mem_map.1 hmem
      have hhead := List.mem_of_mem_head? (hmark o ho)
      exact nomatch (hoperands _ hoperand).plain _ hhead
    change scanOptions table name (command ++ args.flatMap Argument.words ++ operands) = _
    rw [List.append_assoc, scanOptions_append hcommand]
    exact scanOptions_present hoptions hspecifiers ho rfl hdistinct hargs hoperand ha rfl
  stringToInt := by
    intro n _
    have hdigits : ∀ c ∈ Nat.toDigits 10 n, c.isDigit = true := fun c hc =>
      Nat.isDigit_of_mem_toDigits (by omega) (by omega) hc
    have htake : (Nat.toDigits 10 n ++ ['\x00']).takeWhile Char.isDigit = Nat.toDigits 10 n := by
      rw [List.takeWhile_append_of_pos hdigits]
      exact List.append_nil _
    change some ((Nat.ofDigitChars 10 (List.takeWhile Char.isDigit _) 0 : Nat) : Int) = _
    rw [htake, Nat.ofDigitChars_ten_toDigits]

/-! ### From the daemon to the chooser and back -/

/-- For a client whose address is not empty and fits into the buffer for an argument, and a
local address of IPv4 or IPv6, the chooser gets from its command line the bytes that have been
written there, sends the choice to the port of the chooser socket at this local address, and what
it sends makes the daemon register the chosen host for the client and its connection type.  From
then on `IndirectChoice` returns this host for the client until the choice has timed out or the
client has made another one. -/
theorem choice_reaches_daemon (xt : Toolkit) (hxt : xt.Documented) (W : Writer UInt8 answerSize)
    (w : World) (hntop : w.NtopText) (database : List DisplayEntry) (socket : SockAddr)
    (hsocket : netaddrFamily socket = .inet ∨ netaddrFamily socket = .inet6)
    (hlocal : (getLocalAddress w).length = 4 ∨ (getLocalAddress w).length = 16)
    (chooser : Str) (hcommand : xt.isCommand options (parseArgs [] chooser))
    (clientAddr : ARRAY8) (hclient : clientAddr ≠ [])
    (hfits : clientAddr.length * 2 + 1 ≤ argumentSize - (clientaddressOption ++ [' ']).length)
    (connectionType : CARD16) (w' : World) (packets : List HostPacket) (h : HostName)
    (hh : h ∈ hostNamedb w' packets) :
    ∃ app answer,
      applicationResources xt
        (runChooser w database (some socket) chooser clientAddr connectionType) = app ∧
      app.xdmAddress = chooserAddress w socket ∧ app.clientAddress = some clientAddr ∧
      app.connectionType = connectionType.toNat ∧ choose W app h = some answer ∧
      answer.IsTo (netaddrPort socket) (getLocalAddress w) ∧
      ∀ w₁, processChooserSocket w₁ answer.message =
          registerIndirectChoice w₁ clientAddr connectionType h.hostaddr ∧
        ∀ s s₁ calls s₂, processChooserSocket w₁ answer.message s = some ((), s₁) →
          Run ChoiceCall.perform s₁ calls s₂ →
          (∀ x ∈ calls, SparesChoice clientAddr connectionType w₁.time x) →
          ∀ w₂, w₂.time - w₁.time ≤ s₂.config.choiceTimeout →
            ∃ s₃, indirectChoice w₂ clientAddr connectionType s₂ =
              some (some h.hostaddr, s₃) := by
  obtain ⟨result, dest, hresult, hlength, hdest, hto⟩ := exists_chooserAddress hsocket hlocal
  have hclientOption : (clientaddressOption ++ [' ']).length = 15 := by decide
  have hxdmOption : (xdmaddressOption ++ [' ']).length = 12 := by decide
  have hhost := length_hostaddr hh
  have hlengthClient : clientAddr.length * 2 + 1 ≤ 1024 - 15 := hclientOption ▸ hfits
  obtain ⟨hosts, hargs, hhosts⟩ := runChooser_eq database chooser connectionType hntop
    hresult (by rw [hxdmOption, argumentSize]; omega) hclient hfits
  refine ⟨⟨some result, some clientAddr, connectionType.toNat⟩, ⟨dest.1, dest.2, W.write
    [writeARRAY8 clientAddr, writeCARD16 connectionType, writeARRAY8 h.hostaddr]⟩, ?_,
    hresult.symm, rfl, rfl, ?_, hto _, fun w₁ => ?_⟩
  · rw [hargs]
    exact applicationResources_eq hxt hcommand hhosts (by omega) (by omega)
  · simp only [choose, hdest, Option.map_some, ofInt_toNat16]
  · have hregister := processChooserSocket_message W w₁ connectionType
      (show 6 + clientAddr.length + h.hostaddr.length ≤ answerSize by rw [answerSize]; omega)
    refine ⟨hregister, fun s s₁ calls s₂ hprocess run hspares w₂ hnow => ?_⟩
    rw [hregister] at hprocess
    exact (firstChoice_run (firstChoice_registered hprocess) run hspares).returned hnow

/-- The host 10.0.0.3, which is willing. -/
def willingHost : HostName :=
  ⟨true, bytesOf "h".toList, bytesOf "OK".toList, familyInternet, [10, 0, 0, 3]⟩

/-- The packet with which it has answered. -/
def willingPacket : HostPacket where
  report := ⟨bytesOf "h".toList, bytesOf "OK".toList, true⟩
  addr := SockAddr.host

/-- The chooser of the client 192.168.0.7 and its choice of 10.0.0.3. -/
theorem choice_of_client_arrives :
    ∃ app answer, applicationResources Toolkit.plain (runChooser World.silent []
        (some (.inet6 ⟨[8, 177], rfl⟩ ⟨List.replicate 16 0, rfl⟩ 0)) "chooser".toList
        [192, 168, 0, 7] familyInternet) = app ∧
      choose (Writer.dropping UInt8 answerSize) app willingHost = some answer ∧
      answer.IsTo [8, 177] [127, 0, 0, 1] ∧
      ∀ w, processChooserSocket w answer.message =
        registerIndirectChoice w [192, 168, 0, 7] familyInternet [10, 0, 0, 3] := by
  have hntop : World.silent.NtopText := fun _ _ htext => nomatch htext
  have hcommand : ∀ word ∈ parseArgs [] "chooser".toList,
      word ∉ options.map XrmOptionDescRec.option := by decide
  obtain ⟨app, answer, happ, -, -, -, hchoose, hto, hanswer⟩ :=
    choice_reaches_daemon Toolkit.plain Toolkit.documented_plain (Writer.dropping UInt8 answerSize)
      World.silent hntop [] (.inet6 ⟨[8, 177], rfl⟩ ⟨List.replicate 16 0, rfl⟩ 0) (Or.inr rfl)
      (Or.inl rfl) "chooser".toList hcommand [192, 168, 0, 7] (by decide) (by decide)
      familyInternet World.silent
      [willingPacket] willingHost (by decide)
  exact ⟨app, answer, happ, hchoose, hto, fun w => (hanswer w).1⟩

end Xdm
