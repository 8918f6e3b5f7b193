import DongloraClient.Foundation.Journal
import DongloraClient.Proofs.RecoveryRequests
import DongloraClient.Proofs.SharedPrograms
import Mathlib.Algebra.Order.Field.Rat
import Mathlib.Tactic.Linarith

/-! The pace of a reconnect. Attempts and waits take turns, each wait half as long again as
the last one, up to two seconds; outside the lock no transport is opened. -/

namespace DongloraClient.Proofs.ReconnectPacing
open Python Program Journal Threads RecoveryRequests SharedMethods

variable {self : Dongle} {α β : Type} {log : List (Sigma Reply)}

/-- What a reconnect does over and over: it opens a transport, or waits for `close`. -/
inductive Beat where
  | attempt
  | wait (timeout : Rat) (stopped : Bool)
  deriving DecidableEq

def holding : List (Sigma Reply) → Bool
  | [] => false
  | ⟨.acquire, _⟩ :: _ => true
  | ⟨.release, _⟩ :: _ => false
  | _ :: log => holding log

/-- The transports it has opened, and its waits under the lock, since it last took or gave
back the lock. The latest comes first. -/
def beats : List (Sigma Reply) → List Beat
  | [] => []
  | ⟨.acquire, _⟩ :: _ | ⟨.release, _⟩ :: _ => []
  | ⟨.openTransport _ _, _⟩ :: log => .attempt :: beats log
  | ⟨.waitStop timeout, stopped⟩ :: log => if holding log then .wait timeout stopped :: beats log else beats log
  | _ :: log => beats log

/-- The wait after so many failures before. -/
def backoff (failures : Nat) : Rat := min (1 / 2 * (3 / 2) ^ failures) 2

def rhythm : Nat → List Beat
  | 0 => []
  | rounds + 1 => .wait (backoff rounds) false :: .attempt :: rhythm rounds

inductive Paced : List Beat → Prop where
  | waited (rounds : Nat) : Paced (rhythm rounds)
  | trying (rounds : Nat) : Paced (.attempt :: rhythm rounds)
  | stopped (rounds : Nat) : Paced (.wait (backoff rounds) true :: .attempt :: rhythm rounds)

theorem backoff_succ (failures : Nat) : backoff (failures + 1) = min (backoff failures * (3 / 2)) 2 := by
  unfold backoff
  rw [min_mul_of_nonneg _ _ (by norm_num), min_assoc, pow_succ, mul_assoc]
  norm_num

theorem backoff_zero : backoff 0 = 1 / 2 := by
  unfold backoff
  norm_num

structure Orderly (log : List (Sigma Reply)) : Prop where
  paced : Paced (beats log)
  outside : holding log = false → beats log = []

structure Outside (log : List (Sigma Reply)) : Prop where
  free : holding log = false
  quiet : beats log = []

structure Within (done : List Beat) (log : List (Sigma Reply)) : Prop where
  held : holding log = true
  done : beats log = done

theorem Outside.orderly (outside : Outside log) : Orderly log :=
  ⟨outside.quiet ▸ .waited 0, fun _ => outside.quiet⟩

theorem Within.orderly {done : List Beat} (within : Within done log) (paced : Paced done) : Orderly log :=
  ⟨within.done.symm ▸ paced, fun free => nomatch within.held.symm.trans free⟩

def Still : Op → Prop
  | .acquire | .release | .openTransport _ _ | .waitStop _ => False
  | _ => True

theorem within_still {done : List Beat} {op : Op} (reply : Reply op) (still : Still op) (within : Within done log) :
    Within done (⟨op, reply⟩ :: log) := by
  cases op with
  | acquire | release | openTransport | waitStop => exact still.elim
  | _ => exact ⟨within.held, within.done⟩

theorem still_within {program : Python α} {done : List Beat} (still : Confined Still program) (paced : Paced done)
    (within : Within done log) : Records Orderly (fun _ => Within done) program.run log :=
  .confined still (fun _ within => within.orderly paced) (fun _ _ reply still within => within_still reply still within) within

theorem brings_still (op : Op) (brings : Brings op) : Still op := by
  cases op <;> trivial

theorem installs_still (op : Op) (installs : Installs op) : Still op := by
  cases op <;> trivial

/-- One attempt, however it ends. -/
theorem reopen_within {settings : Settings} {rounds : Nat} (within : Within (rhythm rounds) log) :
    Records Orderly (fun _ => Within (.attempt :: rhythm rounds)) (Dongle.reopen settings).run log := by
  have brought {log : List (Sigma Reply)} (transport : Except Exc Nat) (within : Within (.attempt :: rhythm rounds) log) :
      Records Orderly (fun _ => Within (.attempt :: rhythm rounds)) (ExceptT.run do
        let transport ← (ExceptT.mk (.pure transport) : Python Nat)
        bringUp transport (max settings.timeout 2) settings.requested) log := by
    cases transport with
    | ok transport => exact still_within ((bringUp_brings _ _ _).mono brings_still) (.trying rounds) within
    | error exc => exact ⟨within.orderly (.trying rounds), within⟩
  have opened : Records Orderly (fun _ => Within (.attempt :: rhythm rounds)) (openAndInit settings).run log := by
    refine ⟨within.orderly (.waited rounds), fun reply => brought reply ⟨within.held, ?_⟩⟩
    exact congrArg (Beat.attempt :: ·) within.done
  have ended {γ : Type} (outcome : Except Exc γ) (last : List (Sigma Reply)) (within : Within (.attempt :: rhythm rounds) last) :
      Records Orderly (fun _ => Within (.attempt :: rhythm rounds)) (.pure outcome) last :=
    ⟨within.orderly (.trying rounds), within⟩
  refine .tryCatch (.sequence opened (fun bringup => ended (.ok (some bringup))) fun _ => id) (fun exc last within => ?_) fun _ => id
  split
  next => exact ended (.ok none) last within
  next => exact ended (.error exc) last within

/-- The loop keeps its pace from the round that it has come to. -/
theorem reconnect_paced {settings : Settings} (attempts rounds : Nat) (within : Within (rhythm rounds) log) :
    Records Orderly (fun _ last => holding last = true) (Dongle.reconnect settings attempts (backoff rounds)).run log := by
  induction attempts generalizing log rounds with
  | zero => exact within.orderly (.waited rounds)
  | succ attempts ih =>
    have read {field : Attributes → Bool} {log : List (Sigma Reply)} (within : Within (rhythm rounds) log) :
        Records Orderly (fun _ => Within (rhythm rounds)) (Python.read field).run log :=
      still_within (read_confined trivial _) (.waited rounds) within
    refine .sequence (read within) (fun closed last within => ?_) fun _ => Within.held
    refine .sequence (read within) (fun stopped last within => ?_) fun _ => Within.held
    split
    next => exact ⟨within.orderly (.waited rounds), within.held⟩
    next =>
      refine .sequence (reopen_within within) (fun bringup last within => ?_) fun _ => Within.held
      cases bringup with
      | some bringup =>
        have installed : Confined Still (Dongle.install bringup.1 bringup.2.1 bringup.2.2) :=
          (install_installs _ _ _).mono installs_still
        exact (still_within installed (.trying rounds) within).mono fun _ _ _ within => within.held
      | none =>
        refine ⟨within.orderly (.trying rounds), fun stopped => ?_⟩
        have counted : beats (⟨.waitStop (backoff rounds), stopped⟩ :: last) =
            .wait (backoff rounds) stopped :: .attempt :: rhythm rounds := by
          rw [beats, if_pos within.held, within.done]
        cases stopped with
        | true =>
          have ended : Within (.wait (backoff rounds) true :: .attempt :: rhythm rounds)
              (⟨.waitStop (backoff rounds), true⟩ :: last) := ⟨within.held, counted⟩
          exact ⟨ended.orderly (.stopped rounds), ended.held⟩
        | false =>
          have waited : Within (rhythm (rounds + 1)) (⟨.waitStop (backoff rounds), false⟩ :: last) := ⟨within.held, counted⟩
          have again := ih (rounds + 1) waited
          rwa [backoff_succ] at again

def Keeps (program : Python α) : Prop :=
  ∀ log, Outside log → Records Orderly (fun _ => Outside) program.run log

/-- Requests that do not concern a reconnect. -/
def Apart : Op → Prop
  | .acquire | .release | .openTransport _ _ => False
  | _ => True

theorem outside_apart {op : Op} (reply : Reply op) (apart : Apart op) (outside : Outside log) : Outside (⟨op, reply⟩ :: log) := by
  cases op with
  | acquire | release | openTransport => exact apart.elim
  | waitStop timeout => exact ⟨outside.free, by rw [beats, outside.free]; exact outside.quiet⟩
  | _ => exact ⟨outside.free, outside.quiet⟩

theorem apart_keeps {program : Python α} (apart : Confined Apart program) : Keeps program :=
  fun _ outside => .confined apart (fun _ => Outside.orderly) (fun _ _ reply apart => outside_apart reply apart) outside

theorem gentle_keeps {program : Python α} (gentle : Gentle program) : Keeps program :=
  apart_keeps (gentle.mono fun op mild => by cases op <;> trivial)

theorem sequence_keeps {program : Python α} {next : α → Python β} (first : Keeps program)
    (rest : ∀ value, Keeps (next value)) : Keeps (program >>= next) :=
  fun log outside => .sequence (first log outside) rest fun _ => id

/-- A test whether the session is dead, and what follows if it is. -/
theorem checked_keeps {program : Python Unit} (keeps : Keeps program) : Keeps (do
    if ← Python.isAlive (← Python.read Attributes.session) then return () else program) := by
  refine sequence_keeps (gentle_keeps (read_gentle _)) fun session => sequence_keeps (gentle_keeps (isAlive_gentle _)) fun living => ?_
  cases living with
  | true => exact gentle_keeps (.pure ())
  | false => exact keeps

/-- The body of `with self._recover_lock`. -/
theorem recovery_paced (self : Dongle) {settings : Settings} (within : Within (rhythm 0) log) :
    Records Orderly (fun _ last => holding last = true) (ExceptT.run do
      if ← Python.isAlive (← Python.read Attributes.session) then return ()
      else self.recoverSessionLocked settings) log := by
  have still {γ : Type} {program : Python γ} (still : Confined Still program) {log : List (Sigma Reply)}
      (within : Within (rhythm 0) log) : Records Orderly (fun _ => Within (rhythm 0)) program.run log :=
    still_within still (.waited 0) within
  have current : Confined Still (Python.read Attributes.session) := read_confined trivial _
  have asks (session : Nat) : Confined Still (Python.isAlive session) := .request trivial
  have closes (session : Nat) : Confined Still (closeSession session) := .request trivial
  refine .sequence (still current within) (fun session last within => ?_) fun _ => Within.held
  refine .sequence (still (asks session) within) (fun living last within => ?_) fun _ => Within.held
  cases living with
  | true => exact ⟨within.orderly (.waited 0), within.held⟩
  | false =>
    refine .sequence (still current within) (fun old last within => ?_) fun _ => Within.held
    refine .sequence (still (closes old) within) (fun _ last within => ?_) fun _ => Within.held
    exact backoff_zero ▸ reconnect_paced self.attempts 0 within

theorem ensureSessionAlive_keeps : Keeps self.ensureSessionAlive := by
  refine checked_keeps ?_
  cases self.reopener with
  | none => exact gentle_keeps (.throw _)
  | some settings =>
    intro log outside
    have released {log : List (Sigma Reply)} (reply : Unit) : Outside (⟨.release, reply⟩ :: log) := ⟨rfl, rfl⟩
    refine .requested outside.orderly fun reply => ?_
    have taken : Within (rhythm 0) (⟨.acquire, reply⟩ :: log) := ⟨rfl, rfl⟩
    refine .bind (.bind ((recovery_paced self taken).mono fun outcome last orderly held _ => ?_))
    cases outcome with
    | ok value => exact ⟨orderly, fun _ => ⟨orderly, fun reply => ⟨(released reply).orderly, released reply⟩⟩⟩
    | error exc =>
      exact ⟨orderly, fun reply => ⟨(released reply).orderly, fun orderly => ⟨orderly, released reply⟩⟩⟩

theorem keeps_composes : Composes self fun {_} program => Keeps program where
  gentle := gentle_keeps
  bind := sequence_keeps
  tryCatch body handled := fun log outside => .tryCatch (body log outside) handled fun _ => id
  ite first second := by split <;> assumption
  revives := ensureSessionAlive_keeps

theorem serve_keeps (operation : Operation) : Keeps (self.serve operation) :=
  keeps_composes.serve (fun _ _ => apart_keeps (.request trivial))
    (apart_keeps (close_closes.mono fun op closes => by cases op <;> trivial)) operation

/-- At any time, a thread that has the lock has made attempts and waits in turn, the waits
with their backoff, and one that has not has opened no transport since. -/
theorem reconnects_paced {start : Shared} {events : List ThreadEvent} {pool : Threading} (run : self.Runs start events pool)
    (thread : Nat) : Orderly (journal thread events) :=
  records_run (fun operation => serve_keeps operation [] ⟨rfl, rfl⟩) ⟨.waited 0, fun _ => rfl⟩ run thread

def reticent : (request : Request) → Except Exc request.Value
  | .getInfo => .error (.timeoutError "command 0x02 tag=1 timed out")
  | request => DongleLogic.obliging request

/-- A ping finds its session dead, and tries twice. -/
def reconnecting : List (Turn Operation Disturbance) :=
  [.stir (.die 1), .start 0 .ping] ++ List.replicate 22 (.advance 0)

theorem reconnects_paced_reconnecting : ∃ events pool,
    (⟨some {}, 3⟩ : Dongle).Runs (Shared.of DongleLogic.connected) events pool ∧
      beats (journal 0 events) = [.wait (3 / 4) false, .attempt, .wait (1 / 2) false, .attempt] ∧
      Orderly (journal 0 events) := by
  have computed : ((Shared.scheduler reticent fun _ _ => true).play (⟨some {}, 3⟩ : Dongle).system.program
      ⟨Shared.of DongleLogic.connected, fun _ => none⟩ reconnecting).map (fun ended => beats (journal 0 ended.1)) =
        some [.wait (3 / 4) false, .attempt, .wait (1 / 2) false, .attempt] := by decide +kernel
  obtain ⟨events, pool, run, same⟩ := Scheduler.play_summary (Shared.scheduler_follows _ _) computed
  have run := run.mono fun _ _ _ taken => taken.1
  exact ⟨events, pool, run, same, reconnects_paced run 0⟩

end DongloraClient.Proofs.ReconnectPacing
