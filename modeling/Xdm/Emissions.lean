/-
# What the operations emit

An operation only ever adds events to those that are there.  `Emits P` says that all events
it has added satisfy `P`.  Work on displays emits only what `Event.OfDisplay` lists, and so do
all operations but the datagrams; the answers to queries are in `Event.OfQuery`, and a
`MANAGE` can also be refused.
-/
import Xdm.Operations

namespace Xdm

open Prog

variable {P : Event → Prop} {w : World} {s s' s'' : State}

/-- Events with `P` have been added. -/
def Emits (P : Event → Prop) (s s' : State) : Prop :=
  ∃ es, s'.out = s.out ++ es ∧ ∀ e ∈ es, P e

namespace Emits

lemma of_eq (h : s'.out = s.out) : Emits P s s' := ⟨[], by simp [h], by simp⟩

lemma emit (s : State) {e : Event} (he : P e) : Emits P s { s with out := s.out ++ [e] } :=
  ⟨[e], rfl, by simpa using he⟩

lemma trans (h : Emits P s s') (h' : Emits P s' s'') : Emits P s s'' := by
  obtain ⟨es, hes, hP⟩ := h
  obtain ⟨es', hes', hP'⟩ := h'
  refine ⟨es ++ es', by rw [hes', hes, List.append_assoc], fun e he => ?_⟩
  exact (List.mem_append.1 he).elim (hP e) (hP' e)

instance : Std.Refl (Emits P) := ⟨fun _ => of_eq rfl⟩
instance : IsTrans State (Emits P) := ⟨fun _ _ _ => trans⟩

/-- All events, for an operation that has started with none. -/
lemma mem (h : Emits P s s') (hs : s.out = []) {e : Event} (he : e ∈ s'.out) : P e := by
  obtain ⟨es, hes, hP⟩ := h
  rw [hes, hs, List.nil_append] at he
  exact hP e he

/-! ### Displays -/

lemma works (hP : ∀ e : Event, e.OfDisplay → P e) (a : Nat) : Works a (Emits P) where
  store := fun _ _ _ => of_eq rfl
  remove := fun _ => of_eq rfl
  emit := fun s e he => emit s (hP e he)
  kernel := fun _ _ => of_eq rfl

/-- A change of the state that leaves the events alone. -/
lemma modify {g : State → State} (hg : ∀ s, (g s).out = s.out) :
    Respects (Emits P) (modify g : M Unit) :=
  Keeps.modify fun s _ => ⟨trivial, of_eq (hg s)⟩

lemma newDisplay (name : Str) (className : Option Str) :
    Respects (Emits P) (newDisplay name className) := by
  intro s _
  unfold Xdm.newDisplay
  simp only [wlp_bind, wlp_get, wlp_set, wlp_pure]
  exact ⟨trivial, of_eq rfl⟩

section

variable (hP : ∀ e : Event, e.OfDisplay → P e)

include hP

lemma writeDisplay (a : Nat) (f : Display → Display) : Respects (Emits P) (Xdm.writeDisplay a f) :=
  fun s _ => wlp_writeDisplay ⟨trivial, of_eq rfl⟩ fun _ => ⟨trivial, emit s (hP _ trivial)⟩

lemma parseDisplay (source : Str) : Respects (Emits P) (parseDisplay source) := by
  unfold Xdm.parseDisplay
  split
  · next name type rest _ =>
    generalize parseTypeWords type rest = parsed
    obtain ⟨displayType, className, argv⟩ := parsed
    refine Keeps.bind Keeps.get fun s => ?_
    split
    · next d _ => exact Keeps.ite (fun _ => Keeps.failure) fun _ => writeDisplay hP d.addr _
    · exact Keeps.bind (newDisplay name className) fun d => writeDisplay hP d _
  · exact Keeps.pure _

lemma operates : Operates (fun _ => True) (Emits P) :=
  Operates.of_works (works hP) (fun _ _ _ h => ⟨trivial, h⟩) (parseDisplay hP)
    (fun _ => modify fun _ => rfl) fun _ => modify fun _ => rfl

end

/-! ### Datagrams -/

/-- What a query does is allowed. -/
lemma speaks (hP : ∀ e : Event, e.OfQuery w → P e) : Speaks w (Emits P) where
  note := fun _ _ => of_eq rfl
  choose := fun _ _ => of_eq rfl
  emit := fun s e he => emit s (hP e he)

lemma chooserFor (hquery : ∀ e : Event, e.OfQuery w → P e) (addr : ARRAY8)
    (connectionType : CARD16) :
    Respects (Emits P) (chooserFor w addr connectionType) := by
  have hspeaks := speaks hquery
  refine Keeps.bind Keeps.get fun s => Keeps.ite (fun _ => ?_) fun _ => Keeps.pure _
  exact Keeps.bind (respects_forgetIndirectClient hspeaks addr connectionType) fun _ =>
    Keeps.bind (respects_choiceFor hspeaks addr connectionType) fun choice =>
      Keeps.bind Keeps.get fun _ => Keeps.pure _

section

variable (hdisplay : ∀ e : Event, e.OfDisplay → P e) (hquery : ∀ e : Event, e.OfQuery w → P e)

include hdisplay

lemma sendFailedTo (dest : Netaddr) (name : Str) (sessionID : CARD32) (reason : Str) :
    Respects (Emits P) (sendFailedTo dest name sessionID reason) :=
  (works hdisplay 0).emits (length_failedStatus name sessionID reason)

lemma terminateActive (name : Str) : Respects (Emits P) (terminateActive name) := by
  refine Keeps.bind Keeps.get fun s => ?_
  split
  · next d _ => exact (works hdisplay d.addr).stopDisplay
  · exact Keeps.pure _

lemma installAuthorization (sender : Netaddr) (sessionID : CARD32) (name : Str) (d : Nat)
    (pdpy : ProtoDisplay) :
    Respects (Emits P) (installAuthorization w sender sessionID name d pdpy) := by
  unfold Xdm.installAuthorization
  split
  · exact Keeps.pure _
  · refine Keeps.ite (fun _ => ?_) fun _ => ?_
    · exact Keeps.bind (writeDisplay hdisplay d _) fun _ => Keeps.pure _
    · exact Keeps.bind (modify fun _ => rfl) fun _ =>
        Keeps.bind (sendFailedTo hdisplay sender name sessionID _) fun _ => Keeps.pure _

include hquery

lemma startManaged (fd : Int) (sender : Netaddr) (m : Manage) (pdpy : ProtoDisplay) :
    Respects (Emits P) (startManaged w fd sender m pdpy) := by
  refine Keeps.bind Keeps.get fun s => ?_
  split
  · exact sendFailedTo hdisplay sender _ m.sessionID _
  next name _ =>
  refine Keeps.bind (terminateActive hdisplay name) fun _ => Keeps.ite (fun _ => ?_)
    fun _ => sendFailedTo hdisplay sender name m.sessionID _
  refine Keeps.bind (newDisplay name _) fun d => ?_
  refine Keeps.bind (writeDisplay hdisplay d _) fun _ => ?_
  refine Keeps.bind (chooserFor hquery _ _) fun chooser => ?_
  refine Keeps.bind (writeDisplay hdisplay d _) fun _ => ?_
  refine Keeps.bind (installAuthorization hdisplay sender m.sessionID name d pdpy) fun ok => ?_
  exact Keeps.ite (fun _ => Keeps.bind (modify fun _ => rfl) fun _ =>
    (works hdisplay d).startDisplay) fun _ => Keeps.pure _

lemma answerManage (hrefuse : ∀ dest sessionID, P (.send dest (.refuse sessionID))) (fd : Int)
    (sender : Netaddr) (m : Manage) : Respects (Emits P) (answerManage w fd sender m) := by
  have hrefused : Respects (Emits P) (sendRefuse sender m.sessionID) :=
    Keeps.modify fun s _ => ⟨trivial, emit s (hrefuse _ _)⟩
  refine Keeps.bind Keeps.get fun s => ?_
  split
  · exact Keeps.ite (fun _ => startManaged hdisplay hquery fd sender m _) fun _ => hrefused
  · split
    · exact Keeps.ite (fun _ => Keeps.pure _) fun _ => hrefused
    · exact hrefused

end

/-- Every operation but a `REQUEST` emits what work on displays, queries and refusals do. -/
lemma operation {i : Input} (hi : i.request? = none) (hdisplay : ∀ e : Event, e.OfDisplay → P e)
    (hquery : ∀ w ∈ i.worlds, ∀ e : Event, e.OfQuery w → P e)
    (hrefuse : ∀ dest sessionID, P (.send dest (.refuse sessionID))) :
    Respects (Emits P) i.operation := by
  cases i with
  | datagram w fd sender bytes =>
    have hquery' := hquery w (List.mem_singleton.2 rfl)
    cases hm : manageIn bytes with
    | none =>
      exact respects_processRequestSocket (speaks hquery') fd sender
        (Option.map_eq_none_iff.1 hi) hm
    | some m =>
      change Respects (Emits P) (processRequestSocket w fd sender bytes)
      rw [processRequestSocket_manage w fd sender hm]
      exact answerManage hdisplay hquery' hrefuse fd sender m
  | registerIndirectChoice w addr connectionType choice =>
    refine modify fun s => ?_
    split <;> rfl
  | _ => exact (operates hdisplay).operation rfl

end Emits

end Xdm
