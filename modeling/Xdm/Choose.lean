/-
Clients that have sent an indirect query, and the hosts they have chosen
(`xdm/choose.c`).
-/
import Xdm.State

namespace Xdm

/-! ### Indirect clients -/

def IndirectUser.isFor (clientAddress : ARRAY8) (connectionType : CARD16)
    (i : IndirectUser) : Bool :=
  clientAddress = i.client ∧ connectionType = i.connectionType

def isIndirectClient (clientAddress : ARRAY8) (connectionType : CARD16)
    (indirectUsers : List IndirectUser) : Bool :=
  indirectUsers.any (IndirectUser.isFor clientAddress connectionType)

def rememberIndirectClient (w : World) (clientAddress : ARRAY8)
    (connectionType : CARD16) : M Unit :=
  modify fun s =>
    if isIndirectClient clientAddress connectionType s.indirectUsers ∨ w.alloc.indirectUser = false
    then s
    else { s with indirectUsers := ⟨clientAddress, connectionType⟩ :: s.indirectUsers }

def forgetIndirectClient (clientAddress : ARRAY8) (connectionType : CARD16) : M Unit :=
  modify fun s => { s with
    indirectUsers := s.indirectUsers.eraseP (IndirectUser.isFor clientAddress connectionType) }

/-! ### Choices -/

def Choice.isFor (clientAddress : ARRAY8) (connectionType : CARD16) (c : Choice) : Bool :=
  clientAddress = c.client ∧ connectionType = c.connectionType

/-- The loop of `IndirectChoice`: the choices that stay, and the one that is found. -/
def indirectChoiceLoop (now choiceTimeout : Time) (clientAddress : ARRAY8)
    (connectionType : CARD16) : List Choice → List Choice × Option ARRAY8
  | [] => ([], none)
  | c :: choices =>
    if choiceTimeout < now - c.time then
      indirectChoiceLoop now choiceTimeout clientAddress connectionType choices
    else if c.isFor clientAddress connectionType then (c :: choices, some c.choice)
    else
      let (rest, found) :=
        indirectChoiceLoop now choiceTimeout clientAddress connectionType choices
      (c :: rest, found)

def indirectChoice (w : World) (clientAddress : ARRAY8) (connectionType : CARD16) :
    M (Option ARRAY8) := do
  let s ← get
  let (choices, found) := indirectChoiceLoop w.time s.config.choiceTimeout clientAddress
    connectionType s.choices
  set { s with choices := choices }
  pure found

/-- `RegisterIndirectChoice`, with all allocations succeeding. -/
def registerIndirectChoice (w : World) (clientAddress : ARRAY8) (connectionType : CARD16)
    (choice : ARRAY8) : M Unit :=
  modify fun s =>
    if s.choices.any (Choice.isFor clientAddress connectionType) then
      { s with choices := update s.choices }
    else { s with choices := ⟨clientAddress, connectionType, choice, w.time⟩ :: s.choices }
where
  update : List Choice → List Choice
    | [] => []
    | c :: choices =>
      if c.isFor clientAddress connectionType then
        { c with choice := choice, time := w.time } :: choices
      else c :: update choices

end Xdm
