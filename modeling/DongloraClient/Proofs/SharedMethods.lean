import DongloraClient.Proofs.SharedDiscipline

/-! The methods of `Dongle` taken apart. What they do themselves concerns one session; the
rest is reconnects. A property of programs that their constructs keep holds of all but
`recv`, `next` and `close` as soon as it holds of these two. -/

namespace DongloraClient.Proofs.SharedMethods
open Python SharedDiscipline

variable {α β : Type}

def Mild : Op → Prop
  | .nextRx _ _ => False
  | op => Neutral op

theorem mild_neutral (op : Op) (mild : Mild op) : Neutral op := by
  cases op with
  | nextRx => exact mild.elim
  | _ => exact mild

abbrev Gentle (program : Python α) : Prop := Program.Confined Mild program

theorem read_gentle (field : Attributes → α) : Gentle (Python.read field) :=
  .bind (.request trivial) fun _ => .pure _

theorem assign_gentle {change : Attributes → Attributes} (minor : Minor change) : Gentle (assign change) :=
  .request minor

theorem isAlive_gentle (session : Nat) : Gentle (isAlive session) := .request trivial

theorem command_gentle (session : Nat) (request : Request) (timeout : Option Rat) :
    Gentle (command session request timeout) :=
  ⟨trivial, fun _ => trivial⟩

theorem sent_gentle (request : Request) (timeout : Option Rat) :
    Gentle (do command (← Python.read Attributes.session) request timeout) :=
  .bind (read_gentle _) fun _ => command_gentle _ _ _

theorem configured_gentle (info : Info) (modulation : Modulation) (session : Nat) (timeout : Rat) :
    Gentle (do
      let prepared ← liftExcept (prepareConfig info modulation)
      return (prepared, ← setConfig session prepared timeout) : Python (Modulation × Option SetConfigResult)) := by
  refine .bind ?_ fun _ => .bind (command_gentle _ _ _) fun _ => .pure _
  cases prepareConfig info modulation with
  | ok prepared => exact .pure prepared
  | error exc => exact .throw exc

theorem installed_gentle (session : Nat) (info : Info) (applied : Option Modulation) :
    Gentle (do
      assign fun attributes => { attributes with info }
      match applied with
      | some config => assign fun attributes => { attributes with appliedConfig := some config }
      | none => pure ()
      Dongle.restartRx session) := by
  have restarted : Gentle (Dongle.restartRx session) := by
    refine .bind (read_gentle _) fun _ => .ite (.tryCatch (command_gentle _ _ _) fun exc => ?_) (.pure ())
    exact .ite (assign_gentle fun _ => ⟨rfl, rfl⟩) (.throw exc)
  refine .bind (assign_gentle fun _ => ⟨rfl, rfl⟩) fun _ => ?_
  cases applied with
  | none => exact restarted
  | some config => exact .bind (assign_gentle fun _ => ⟨rfl, rfl⟩) fun _ => restarted

theorem checkOpen_gentle : Gentle Dongle.checkOpen := .bind (read_gentle _) fun _ => .ite (.throw _) (.pure ())

theorem markWrite_gentle : Gentle Dongle.markWrite :=
  .bind (.request trivial) fun _ => assign_gentle fun _ => ⟨rfl, rfl⟩

theorem reapplyConfig_gentle : Gentle Dongle.reapplyConfig := by
  refine .bind (read_gentle _) fun _ => .bind (read_gentle _) fun applied => ?_
  cases applied with
  | none => exact .throw _
  | some config => exact .bind (command_gentle _ _ _) fun _ => .pure ()

/-- A property of programs that sequencing, `try` and tests keep, and that gentle programs
and the reconnect have. -/
structure Composes (dongle : Dongle) (property : ∀ {β : Type}, Python β → Prop) : Prop where
  gentle : ∀ {β : Type} {program : Python β}, Gentle program → property program
  bind : ∀ {β γ : Type} {program : Python β} {next : β → Python γ}, property program →
    (∀ value, property (next value)) → property (program >>= next)
  tryCatch : ∀ {β : Type} {program : Python β} {handler : Exc → Python β}, property program →
    (∀ exc, property (handler exc)) → property (tryCatch program handler)
  ite : ∀ {β : Type} {condition : Prop} [Decidable condition] {first second : Python β}, property first →
    property second → property (if condition then first else second)
  revives : property dongle.ensureSessionAlive

namespace Composes

variable {self : Dongle} {property : ∀ {β : Type}, Python β → Prop} (composes : Composes self @property)
include composes

theorem withRecovery {op : Python α} (gentle : Gentle op) : property (self.withRecovery op) := by
  have again {program : Python Unit} (holds : property program) : property (do
      program
      op) :=
    composes.bind holds fun _ => composes.gentle gentle
  refine composes.bind composes.revives fun _ => composes.tryCatch (composes.gentle gentle) fun exc => ?_
  refine composes.ite ?_ (composes.ite ?_ (composes.gentle (.throw exc)))
  · refine composes.bind (composes.gentle (read_gentle _)) fun _ => ?_
    exact composes.ite (composes.gentle (.throw exc)) (again (composes.gentle reapplyConfig_gentle))
  · refine composes.bind (composes.gentle (read_gentle _)) fun _ => ?_
    refine composes.bind (composes.gentle (isAlive_gentle _)) fun _ => ?_
    exact composes.ite (again composes.revives) (composes.gentle (.throw exc))

theorem startRx : property self.startRx := by
  refine composes.bind (composes.gentle (read_gentle _)) fun _ => composes.ite ?_ (composes.gentle (.pure ()))
  refine composes.bind (composes.gentle markWrite_gentle) fun _ => ?_
  refine composes.bind (composes.withRecovery (sent_gentle .rxStart (some 2))) fun _ => ?_
  exact composes.gentle (assign_gentle fun _ => ⟨rfl, rfl⟩)

/-- `rx_stop`, `set_config` and `ping` enter in the same way. -/
theorem entered {body : Python α} (gentle : Gentle body) : property (do
    Dongle.checkOpen
    self.ensureSessionAlive
    Dongle.markWrite
    body) := by
  refine composes.bind (composes.gentle checkOpen_gentle) fun _ => composes.bind composes.revives fun _ => ?_
  exact composes.gentle (.bind markWrite_gentle fun _ => gentle)

theorem keepaliveIteration : property self.keepaliveIteration := by
  refine composes.bind (composes.gentle (read_gentle _)) fun _ => ?_
  refine composes.bind (composes.gentle (isAlive_gentle _)) fun _ => composes.ite ?_ (composes.gentle ?_)
  · refine composes.tryCatch composes.revives fun exc => composes.gentle ?_
    exact .ite (.pure ()) (.throw exc)
  · refine .bind (.request trivial) fun _ => .bind (read_gentle _) fun _ => .ite (.pure ()) ?_
    refine .tryCatch (.bind (read_gentle _) fun _ => .bind (command_gentle _ _ _) fun _ => markWrite_gentle) fun exc => ?_
    refine .ite (.bind (read_gentle _) fun _ => .ite ?_ (.pure ())) (.pure ())
    exact .tryCatch reapplyConfig_gentle fun _ => .pure ()

def Plain : Operation → Prop
  | .next _ | .recv _ | .close => False
  | _ => True

theorem call {operation : Operation} (plain : Plain operation) : property (self.call operation) := by
  cases operation with
  | next | recv | close => exact plain.elim
  | tx data skipCad timeout =>
    refine composes.bind ?_ fun _ => composes.gentle (.pure ())
    refine composes.bind (composes.gentle checkOpen_gentle) fun _ => ?_
    exact composes.bind (composes.gentle markWrite_gentle) fun _ => composes.withRecovery (sent_gentle _ _)
  | rx timeout =>
    refine composes.bind ?_ fun _ => composes.gentle (.pure ())
    refine composes.bind (composes.gentle checkOpen_gentle) fun _ => ?_
    exact composes.bind composes.startRx fun _ => composes.gentle (.pure timeout)
  | rxStop =>
    refine composes.entered (.bind (read_gentle _) fun _ => .bind (command_gentle _ _ _) fun _ => ?_)
    exact assign_gentle fun _ => ⟨rfl, rfl⟩
  | setConfig config =>
    refine composes.entered (.bind (read_gentle _) fun _ => .bind (command_gentle _ _ _) fun _ => ?_)
    exact .bind (assign_gentle fun _ => ⟨rfl, rfl⟩) fun _ => assign_gentle fun _ => ⟨rfl, rfl⟩
  | ping => exact composes.entered (sent_gentle _ _)
  | keepalive => exact composes.keepaliveIteration

theorem serve (takes : ∀ session timeout, property (nextRx session timeout)) (closes : property Dongle.close)
    (operation : Operation) : property (self.serve operation) := by
  have called {program : Python Unit} (holds : property program) : property (do
      program
      return none : Python (Option RxEvent)) :=
    composes.bind holds fun _ => composes.gentle (.pure none)
  cases operation with
  | next timeout => exact composes.bind (composes.gentle (read_gentle _)) fun session => takes session timeout
  | recv timeout =>
    refine composes.bind (composes.gentle checkOpen_gentle) fun _ => composes.bind composes.revives fun _ => ?_
    refine composes.bind composes.startRx fun _ => composes.bind (composes.gentle (read_gentle _)) fun session => ?_
    refine composes.bind (takes session timeout) fun packet => ?_
    cases packet with
    | some event => exact composes.gentle (.pure (some event))
    | none =>
      refine composes.bind (composes.gentle (read_gentle _)) fun _ => ?_
      refine composes.bind (composes.gentle (isAlive_gentle _)) fun living => ?_
      cases living with
      | true => exact composes.gentle (.pure none)
      | false => exact composes.bind composes.revives fun _ => composes.gentle (.pure none)
  | close => exact called closes
  | tx | rx | rxStop | setConfig | ping | keepalive => exact called (composes.call trivial)

end Composes
end DongloraClient.Proofs.SharedMethods
