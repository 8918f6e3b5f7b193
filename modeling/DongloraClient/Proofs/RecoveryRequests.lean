import DongloraClient.Dongle

/-! What a reconnect asks for, over all its replies. -/

namespace DongloraClient.Proofs.RecoveryRequests
open Python Program

variable {self : Dongle} {α : Type}

/-- The requests that open a session and configure its device. -/
def Brings : Op → Prop
  | .openSession _ | .closeSession _ | .command _ .getInfo _ | .command _ (.setConfig _) _ => True
  | _ => False

/-- Those that put it into the `Dongle`. -/
def Installs : Op → Prop
  | .read | .assign _ | .command _ .rxStart _ => True
  | _ => False

def Recovers : Op → Prop
  | .read | .assign _ | .waitStop _ | .isAlive _ | .openTransport _ _ | .command _ .rxStart _ => True
  | op => Brings op

def Revives : Op → Prop
  | .acquire | .release => True
  | op => Recovers op

def Closes : Op → Prop
  | .read | .assign _ | .closeSession _ => True
  | _ => False

theorem brings_recovers (op : Op) (brings : Brings op) : Recovers op := by
  cases op with
  | command session request => cases request <;> trivial
  | _ => trivial

theorem installs_recovers (op : Op) (installs : Installs op) : Recovers op := by
  cases op with
  | command session request => cases request <;> trivial
  | _ => trivial

theorem recovers_revives (op : Op) (recovers : Recovers op) : Revives op := by
  cases op <;> trivial

theorem read_confined {allowed : Op → Prop} (may : allowed .read) (field : Attributes → α) :
    Confined allowed (Python.read field) :=
  .bind (.request may) fun _ => .pure _

theorem close_closes : Confined Closes Dongle.close := by
  refine .bind (read_confined trivial _) fun _ => .ite ?_ (.pure ())
  refine .bind (.request trivial) fun _ => .bind (.request trivial) fun _ => ?_
  exact .bind (read_confined trivial _) fun _ => .request trivial

theorem read_recovers (field : Attributes → α) : Confined Recovers (Python.read field) := read_confined trivial field

theorem bringUp_brings (transport : Nat) (timeout : Rat) (requested : Option Modulation) :
    Confined Brings (bringUp transport timeout requested) := by
  have closing {γ : Type} {body : Python γ} {session : Nat} (brings : Confined Brings body) :
      Confined Brings (closingOnError session body) :=
    .tryCatch brings fun _ => .ite (.bind (.request trivial) fun _ => .throw _) (.throw _)
  have refused (session : Nat) (exc : Exc) : Confined Brings (do
      closeSession session
      throw exc : Python Bringup) :=
    .bind (.request trivial) fun _ => .throw exc
  refine .bind (.request trivial) fun session => .bind (closing ⟨trivial, fun _ => trivial⟩) fun answer => ?_
  cases answer with
  | none => exact refused _ _
  | some info =>
    refine .ite (refused _ _) ?_
    cases requested with
    | none => exact .pure _
    | some modulation =>
      refine .bind (closing (.bind ?_ fun _ => .bind ⟨trivial, fun _ => trivial⟩ fun _ => .pure _)) fun _ => .pure _
      cases prepareConfig info modulation with
      | ok prepared => exact .pure prepared
      | error exc => exact .throw exc

theorem reopen_recovers (settings : Settings) : Confined Recovers (Dongle.reopen settings) := by
  have opened : Confined Recovers (openAndInit settings) :=
    .bind ⟨trivial, fun _ => trivial⟩ fun _ => (bringUp_brings _ _ _).mono brings_recovers
  exact .tryCatch (.bind opened fun _ => .pure _) fun exc => .ite (.pure _) (.throw exc)

theorem install_installs (session : Nat) (info : Info) (applied : Option Modulation) :
    Confined Installs (Dongle.install session info applied) := by
  have restarted : Confined Installs (Dongle.restartRx session) := by
    refine .bind (read_confined trivial _) fun _ => .ite (.tryCatch ⟨trivial, fun _ => trivial⟩ fun exc => ?_) (.pure ())
    exact .ite (.request trivial) (.throw exc)
  refine .bind (.request trivial) fun _ => .bind (.request trivial) fun _ => ?_
  cases applied with
  | none => exact restarted
  | some config => exact .bind (.request trivial) fun _ => restarted

theorem reconnect_recovers (settings : Settings) (attempts : Nat) (backoff : Rat) :
    Confined Recovers (Dongle.reconnect settings attempts backoff) := by
  induction attempts generalizing backoff with
  | zero => trivial
  | succ attempts ih =>
    refine .bind (read_recovers _) fun _ => .bind (read_recovers _) fun _ => ?_
    refine .ite (.pure ()) (.bind (reopen_recovers settings) fun bringup => ?_)
    cases bringup with
    | some bringup => exact (install_installs _ _ _).mono installs_recovers
    | none => exact .bind (.request trivial) fun _ => .ite (.pure ()) (ih _)

/-- The body of `with self._recover_lock`. -/
theorem recovery_recovers (settings : Settings) : Confined Recovers (do
    if ← Python.isAlive (← Python.read Attributes.session) then return ()
    else self.recoverSessionLocked settings) := by
  refine .bind (read_recovers _) fun _ => .bind (.request trivial) fun _ => .ite (.pure ()) ?_
  exact .bind (read_recovers _) fun _ => .bind (.request trivial) fun _ => reconnect_recovers _ _ _

theorem ensureSessionAlive_revives : Confined Revives self.ensureSessionAlive := by
  refine .bind (read_confined trivial _) fun _ => .bind (.request trivial) fun _ => .ite (.pure ()) ?_
  cases self.reopener with
  | none => exact .throw _
  | some settings =>
    have body : Confined Revives (do
        if ← Python.isAlive (← Python.read Attributes.session) then return ()
        else self.recoverSessionLocked settings) :=
      (recovery_recovers settings).mono recovers_revives
    refine .bind (.request trivial) fun _ => .bind (.tryCatch body fun exc => ?_) fun _ => ?_
    · exact .bind (.request trivial) fun _ => .throw exc
    · exact .bind (.request trivial) fun _ => .pure _

end DongloraClient.Proofs.RecoveryRequests
