import DongloraClient.Foundation.Locking
import DongloraClient.TopLevel

/-! Every dongle that `_get_default` makes has one owner: it is the default, or belongs to
the one thread that took it out of `_default` and closes it. -/

namespace DongloraClient.Proofs.DefaultDongle
open Threads TopLevel Transition

variable {process later : Process} {defaults : Defaults} {thread : Nat} {call : TopCall} {α : Type}

def placed (defaults : Defaults) : List Nat := defaults.default.toList ++ defaults.cleared.map Prod.snd

structure Settled (defaults : Defaults) : Prop where
  all : ∀ dongle < defaults.made, dongle ∈ placed defaults
  hooked : defaults.hooks = defaults.made

/-- Every dongle made but the last has been the default, each of them once, and is closed at
most once, by the thread that took it out. -/
structure Coherent (process : Process) : Prop where
  once : (placed process.defaults).Nodup
  numbered : ∀ dongle ∈ placed process.defaults, dongle < process.defaults.made
  earlier : ∀ dongle, dongle + 1 < process.defaults.made → dongle ∈ placed process.defaults
  settled : process.holder = none → Settled process.defaults
  closedOnce : process.closed.Nodup
  closed : ∀ entry ∈ process.closed, entry ∈ process.defaults.cleared

structure Relies (thread : Nat) (process later : Process) : Prop where
  holder : later.holder = some thread ↔ process.holder = some thread
  guarded : process.holder = some thread → later.defaults = process.defaults
  cleared : ∀ dongle, (thread, dongle) ∈ later.defaults.cleared ↔ (thread, dongle) ∈ process.defaults.cleared
  closed : ∀ dongle, (thread, dongle) ∈ later.closed ↔ (thread, dongle) ∈ process.closed
  left : later.left thread = process.left thread

structure Owes (thread : Nat) (owed : Option Nat) (process : Process) : Prop where
  others : ∀ dongle, (thread, dongle) ∈ process.defaults.cleared → (thread, dongle) ∈ process.closed ∨ owed = some dongle
  unclosed : ∀ dongle, owed = some dongle → (thread, dongle) ∈ process.defaults.cleared ∧ (thread, dongle) ∉ process.closed

structure Outside (thread : Nat) (owed : Option Nat) (mark : Option Nat → Prop) (process : Process) : Prop where
  holder : process.holder ≠ some thread
  owes : Owes thread owed process
  left : mark (process.left thread)

structure Inside (thread : Nat) (owed : Option Nat) (fact : Defaults → Prop) (process : Process) : Prop where
  holder : process.holder = some thread
  owes : Owes thread owed process
  fact : fact process.defaults

def Allows (thread : Nat) (process : Process) : TopOp → Prop
  | .acquire => process.holder ≠ some thread
  | .release => process.holder = some thread ∧ Settled process.defaults
  | .readDefault | .assignDefault none | .register => process.holder = some thread
  | .assignDefault (some dongle) => process.holder = some thread ∧ process.defaults.default = none ∧
      dongle + 1 = process.defaults.made ∧ dongle ∉ placed process.defaults
  | .connect => process.holder = some thread ∧ process.defaults.default = none ∧ Settled process.defaults
  | .closeDongle dongle => (thread, dongle) ∈ process.defaults.cleared ∧ (thread, dongle) ∉ process.closed
  | .operate dongle _ => dongle.isSome = true ∧ process.left thread = dongle

def discipline : Discipline TopOp Process TopCall where
  invariant := Coherent
  free thread := Outside thread none fun _ => True
  relies := Relies
  allows thread _ := Allows thread

abbrev conduct (thread : Nat) (call : TopCall) : Conduct Process TopOp TopReply :=
  discipline.conduct TopCall.system thread call

theorem Relies.refl (thread : Nat) (process : Process) : Relies thread process process :=
  ⟨Iff.rfl, fun _ => rfl, fun _ => Iff.rfl, fun _ => Iff.rfl, rfl⟩

theorem Relies.trans {last : Process} (first : Relies thread process later) (second : Relies thread later last) :
    Relies thread process last where
  holder := second.holder.trans first.holder
  guarded held := (second.guarded (first.holder.mpr held)).trans (first.guarded held)
  cleared dongle := (second.cleared dongle).trans (first.cleared dongle)
  closed dongle := (second.closed dongle).trans (first.closed dongle)
  left := second.left.trans first.left

theorem Owes.stays {owed : Option Nat} (owes : Owes thread owed process) (relies : Relies thread process later) :
    Owes thread owed later where
  others dongle member := by
    rw [relies.closed]
    exact owes.others dongle ((relies.cleared dongle).mp member)
  unclosed dongle same := by
    rw [relies.cleared, relies.closed]
    exact owes.unclosed dongle same

theorem Outside.stays {owed : Option Nat} {mark : Option Nat → Prop} (outside : Outside thread owed mark process)
    (relies : Relies thread process later) : Outside thread owed mark later where
  holder := fun owns => outside.holder (relies.holder.mp owns)
  owes := outside.owes.stays relies
  left := relies.left.symm ▸ outside.left

theorem Inside.stays {owed : Option Nat} {fact : Defaults → Prop} (inside : Inside thread owed fact process)
    (relies : Relies thread process later) : Inside thread owed fact later where
  holder := relies.holder.mpr inside.holder
  owes := inside.owes.stays relies
  fact := (relies.guarded inside.holder).symm ▸ inside.fact

theorem owner_relies {other : Nat} (apart : other ≠ thread) (owns : process.holder = some thread)
    (holder : later.holder ≠ some other)
    (cleared : ∀ dongle, (other, dongle) ∈ later.defaults.cleared ↔ (other, dongle) ∈ process.defaults.cleared)
    (closed : later.closed = process.closed) (left : later.left other = process.left other) :
    Relies other process later where
  holder := ⟨fun held => absurd held holder, fun held => absurd (Option.some.inj (owns.symm.trans held)).symm apart⟩
  guarded held := absurd (Option.some.inj (owns.symm.trans held)).symm apart
  cleared := cleared
  closed dongle := by rw [closed]
  left := left

theorem placed_cleared (thread : Nat) (defaults : Defaults) : placed (defaults.assign thread none) = placed defaults := by
  simp [placed, Defaults.assign]

theorem placed_assigned {dongle : Nat} (none : defaults.default = none) :
    placed (defaults.assign thread (some dongle)) = dongle :: placed defaults := by
  simp [placed, Defaults.assign, none]

theorem answered (coherent : Coherent process) {op : TopOp} (allowed : Allows thread process op) {reply : TopReply op}
    (permitted : process.Permits op reply) : Coherent (process.after thread op reply) ∧
      ∀ other, other ≠ thread → Relies other process (process.after thread op reply) := by
  cases op with
  | acquire =>
    have free : process.holder = none := permitted
    refine ⟨{ coherent with settled := nofun }, fun other apart => ?_⟩
    refine ⟨?_, fun held => absurd (free.symm.trans held) nofun, fun _ => Iff.rfl, fun _ => Iff.rfl, rfl⟩
    rw [free]
    simp [Process.after, Ne.symm apart]
  | release =>
    refine ⟨{ coherent with settled := fun _ => allowed.2 }, fun other apart => ?_⟩
    exact owner_relies apart allowed.1 nofun (fun _ => Iff.rfl) rfl (Function.update_of_ne apart ..)
  | readDefault | operate => exact ⟨coherent, fun other _ => .refl other process⟩
  | connect =>
    cases reply with
    | error exc => exact ⟨coherent, fun other _ => .refl other process⟩
    | ok dongle =>
      obtain ⟨owns, none, settled⟩ := allowed
      obtain rfl : dongle = process.defaults.made := permitted
      refine ⟨?_, fun other apart => ?_⟩
      · refine { coherent with numbered := ?_, earlier := ?_, settled := fun free => absurd (owns.symm.trans free) nofun }
        · exact fun dongle member => (coherent.numbered dongle member).trans (Nat.lt_succ_self _)
        · exact fun dongle before => settled.all dongle (Nat.lt_of_succ_lt_succ before)
      · exact owner_relies apart owns (owns ▸ fun same => apart (Option.some.inj same).symm) (fun _ => Iff.rfl) rfl rfl
  | register =>
    have owns : process.holder = some thread := allowed
    refine ⟨{ coherent with settled := fun free => absurd (owns.symm.trans free) nofun }, fun other apart => ?_⟩
    exact owner_relies apart owns (owns ▸ fun same => apart (Option.some.inj same).symm) (fun _ => Iff.rfl) rfl rfl
  | closeDongle dongle =>
    obtain ⟨took, unclosed⟩ := allowed
    refine ⟨?_, fun other apart => ?_⟩
    · refine { coherent with closedOnce := List.nodup_cons.mpr ⟨unclosed, coherent.closedOnce⟩, closed := ?_ }
      intro entry member
      rcases List.mem_cons.mp member with rfl | member
      · exact took
      · exact coherent.closed entry member
    · refine ⟨Iff.rfl, fun _ => rfl, fun _ => Iff.rfl, fun other' => ?_, rfl⟩
      simp [Process.after, apart]
  | assignDefault value =>
    cases value with
    | none =>
      have owns : process.holder = some thread := allowed
      have same := placed_cleared thread process.defaults
      refine ⟨⟨?_, ?_, ?_, fun free => absurd (owns.symm.trans free) nofun, coherent.closedOnce, ?_⟩, fun other apart => ?_⟩
      · exact same ▸ coherent.once
      · exact fun dongle member => coherent.numbered dongle (same ▸ member)
      · exact fun dongle before => same ▸ coherent.earlier dongle before
      · exact fun entry member => List.mem_append_right _ (coherent.closed entry member)
      · refine owner_relies apart owns (owns ▸ fun same => apart (Option.some.inj same).symm) (fun dongle => ?_) rfl rfl
        simp [Process.after, Defaults.assign, Ne.symm apart]
    | some dongle =>
      obtain ⟨owns, none, last, fresh⟩ := allowed
      have grown : placed (process.defaults.assign thread (some dongle)) = dongle :: placed process.defaults := placed_assigned none
      refine ⟨⟨?_, ?_, ?_, fun free => absurd (owns.symm.trans free) nofun, coherent.closedOnce, coherent.closed⟩,
        fun other apart => ?_⟩
      · exact grown ▸ List.nodup_cons.mpr ⟨fresh, coherent.once⟩
      · intro other member
        rcases List.mem_cons.mp (grown ▸ member) with rfl | member
        · exact Nat.lt_of_succ_le (Nat.le_of_eq last)
        · exact coherent.numbered other member
      · exact fun other before => grown ▸ List.mem_cons_of_mem _ (coherent.earlier other before)
      · exact owner_relies apart owns (owns ▸ fun same => apart (Option.some.inj same).symm) (fun _ => Iff.rfl) rfl rfl

section Programs

variable {fact : Defaults → Prop} {owed : Option Nat} {mark : Option Nat → Prop}

theorem withLock_leads {body : TopLevel α} {owed : α → Option Nat} {fact : α → Defaults → Prop}
    (runs : Leads (conduct thread call) (Inside thread none Settled) body
      (fun value => Inside thread (owed value) fun defaults => Settled defaults ∧ fact value defaults)
      (fun _ => Inside thread none Settled)) :
    Leads (conduct thread call) (Outside thread none fun _ => True) (withLock body)
      (fun value => Outside thread (owed value) fun left => ∃ defaults, fact value defaults ∧ left = defaults.default)
      (fun _ => Outside thread none fun _ => True) := by
  have entered : Leads (conduct thread call) (Outside thread none fun _ => True) acquire
      (fun _ => Inside thread none Settled) (fun _ => Outside thread none fun _ => True) := by
    refine .request fun state middle outside expected => ?_
    have outside := outside.stays expected.2
    refine ⟨outside.holder, fun reply last answered => ?_⟩
    obtain ⟨free, rfl⟩ := answered
    exact ⟨rfl, ⟨outside.owes.others, outside.owes.unclosed⟩, expected.1.settled free⟩
  have left {owed : Option Nat} {fact : Defaults → Prop} (settled : ∀ defaults, fact defaults → Settled defaults) :
      Leads (conduct thread call) (Inside thread owed fact) release
        (fun _ => Outside thread owed fun left => ∃ defaults, fact defaults ∧ left = defaults.default)
        (fun _ => Outside thread none fun _ => True) := by
    refine .request fun state middle inside expected => ?_
    have inside := inside.stays expected.2
    refine ⟨⟨inside.holder, settled _ inside.fact⟩, fun reply last answered => ?_⟩
    obtain ⟨_, rfl⟩ := answered
    exact ⟨nofun, ⟨inside.owes.others, inside.owes.unclosed⟩, middle.defaults, inside.fact, Function.update_self ..⟩
  refine .bind entered fun _ => .bind (.tryCatch runs fun exc => ?_) fun value => ?_
  · refine .bind (left fun _ settled => settled) fun _ => .throw fun state outside => ?_
    exact ⟨outside.holder, outside.owes, trivial⟩
  · refine .bind (left fun _ settled => settled.1) fun _ => .pure fun state outside => ?_
    obtain ⟨defaults, ⟨_, known⟩, same⟩ := outside.left
    exact ⟨outside.holder, outside.owes, defaults, known, same⟩

theorem readDefault_leads {raises : Exc → Process → Prop} :
    Leads (conduct thread call) (Inside thread owed fact) readDefault
      (fun value => Inside thread owed fun defaults => fact defaults ∧ defaults.default = value) raises := by
  refine .request fun state middle inside expected => ?_
  have inside := inside.stays expected.2
  refine ⟨inside.holder, fun reply last answered => ?_⟩
  obtain ⟨rfl, rfl⟩ := answered
  exact ⟨inside.holder, inside.owes, inside.fact, rfl⟩

/-- A new dongle, on its way to `_default`. -/
structure Brought (dongle : Nat) (defaults : Defaults) : Prop where
  none : defaults.default = none
  last : dongle + 1 = defaults.made
  fresh : dongle ∉ placed defaults
  all : ∀ other < dongle, other ∈ placed defaults
  hooked : defaults.hooks + 1 = defaults.made

theorem connect_leads : Leads (conduct thread call)
    (Inside thread none fun defaults => Settled defaults ∧ defaults.default = none) TopLevel.connect
    (fun dongle => Inside thread none (Brought dongle)) (fun _ => Inside thread none Settled) := by
  refine .fallible fun state middle inside expected => ?_
  have inside := inside.stays expected.2
  have coherent : Coherent middle := expected.1
  obtain ⟨settled, empty⟩ := inside.fact
  refine ⟨⟨inside.holder, empty, settled⟩, fun reply last answered => ?_⟩
  obtain ⟨permitted, rfl⟩ := answered
  cases reply with
  | error exc => exact ⟨inside.holder, inside.owes, settled⟩
  | ok dongle =>
    obtain rfl : dongle = middle.defaults.made := permitted
    refine ⟨inside.holder, ⟨inside.owes.others, inside.owes.unclosed⟩, empty, rfl, ?_, settled.all, ?_⟩
    · exact fun member => absurd (coherent.numbered _ member) (Nat.lt_irrefl _)
    · exact congrArg (· + 1) settled.hooked

structure Installed (defaults : Defaults) : Prop where
  present : defaults.default.isSome = true
  all : ∀ dongle < defaults.made, dongle ∈ placed defaults
  hooked : defaults.hooks + 1 = defaults.made

theorem install_leads (dongle : Nat) : Leads (conduct thread call) (Inside thread none (Brought dongle))
    (assignDefault (some dongle)) (fun _ => Inside thread none Installed) (fun _ => Inside thread none Settled) := by
  refine .request fun state middle inside expected => ?_
  have inside := inside.stays expected.2
  have brought := inside.fact
  refine ⟨⟨inside.holder, brought.none, brought.last, brought.fresh⟩, fun reply last answered => ?_⟩
  obtain ⟨_, rfl⟩ := answered
  refine ⟨inside.holder, ⟨inside.owes.others, inside.owes.unclosed⟩, rfl, fun other before => ?_, brought.hooked⟩
  have grown : placed (middle.defaults.assign thread (some dongle)) = dongle :: placed middle.defaults :=
    placed_assigned brought.none
  have before : other < middle.defaults.made := before
  refine grown ▸ ?_
  rcases Nat.lt_or_eq_of_le (Nat.le_of_lt_succ (brought.last ▸ before)) with earlier | rfl
  · exact List.mem_cons_of_mem _ (brought.all other earlier)
  · exact List.mem_cons_self

theorem register_leads : Leads (conduct thread call) (Inside thread none Installed) register
    (fun _ => Inside thread none fun defaults => Settled defaults ∧ defaults.default.isSome = true)
    (fun _ => Inside thread none Settled) := by
  refine .request fun state middle inside expected => ?_
  have inside := inside.stays expected.2
  refine ⟨inside.holder, fun reply last answered => ?_⟩
  obtain ⟨_, rfl⟩ := answered
  exact ⟨inside.holder, ⟨inside.owes.others, inside.owes.unclosed⟩, ⟨inside.fact.all, inside.fact.hooked⟩, inside.fact.present⟩

theorem present_leads : Leads (conduct thread call)
    (Inside thread none fun defaults => Settled defaults ∧ defaults.default.isSome = true) readDefault
    (fun value => Inside thread none fun defaults => Settled defaults ∧ defaults.default = value ∧ value.isSome = true)
    (fun _ => Inside thread none Settled) := by
  refine readDefault_leads.weaken (fun _ inside => inside) (fun value last inside => ?_) fun _ _ inside => inside
  obtain ⟨⟨settled, some⟩, same⟩ := inside.fact
  exact ⟨inside.holder, inside.owes, settled, same, same ▸ some⟩

/-- `_get_default` returns the dongle that was the default when it released the lock. -/
theorem getDefault_leads : Leads (conduct thread call) (Outside thread none fun _ => True) getDefault
    (fun value => Outside thread none fun left => value.isSome = true ∧ left = value)
    (fun _ => Outside thread none fun _ => True) := by
  have body : Leads (conduct thread call) (Inside thread none Settled)
      (do
        if (← readDefault).isNone then
          let dongle ← TopLevel.connect
          assignDefault (some dongle)
          register
        readDefault)
      (fun value => Inside thread none fun defaults => Settled defaults ∧ defaults.default = value ∧ value.isSome = true)
      (fun _ => Inside thread none Settled) := by
    refine .bind readDefault_leads fun value => .ite (fun empty => ?_) fun present => ?_
    · refine .bind (connect_leads.weaken (fun last inside => ?_) (fun _ _ inside => inside) fun _ _ inside => inside)
        fun dongle => .bind (install_leads dongle) fun _ => .bind register_leads fun _ => present_leads
      obtain ⟨settled, same⟩ := inside.fact
      exact ⟨inside.holder, inside.owes, settled, same.trans (Option.isNone_iff_eq_none.mp empty)⟩
    · refine present_leads.weaken (fun last inside => ?_) (fun _ _ inside => inside) fun _ _ inside => inside
      obtain ⟨settled, same⟩ := inside.fact
      refine ⟨inside.holder, inside.owes, settled, ?_⟩
      rw [same]
      exact Option.isSome_iff_ne_none.mpr fun none => present (Option.isNone_iff_eq_none.mpr none)
  refine (withLock_leads body).weaken (fun _ outside => outside) (fun value last outside => ?_) fun _ _ outside => outside
  obtain ⟨defaults, ⟨current, some⟩, left⟩ := outside.left
  exact ⟨outside.holder, outside.owes, some, left.trans current⟩

theorem clear_leads (value : Option Nat) : Leads (conduct thread call)
    (Inside thread none fun defaults => Settled defaults ∧ defaults.default = value) (assignDefault none)
    (fun _ => Inside thread value Settled) (fun _ => Inside thread none Settled) := by
  refine .request fun state middle inside expected => ?_
  have inside := inside.stays expected.2
  have coherent : Coherent middle := expected.1
  obtain ⟨settled, same⟩ := inside.fact
  refine ⟨inside.holder, fun reply last answered => ?_⟩
  obtain ⟨_, rfl⟩ := answered
  refine ⟨inside.holder, ⟨fun dongle member => ?_, fun dongle current => ⟨?_, fun closed => ?_⟩⟩, ?_⟩
  · rcases List.mem_append.mp member with took | before
    · obtain ⟨_, current, same'⟩ := List.mem_map.mp took
      cases same'
      exact Or.inr (same ▸ Option.mem_toList.mp current)
    · exact (inside.owes.others dongle before).imp_right nofun
  · refine List.mem_append_left _ (List.mem_map.mpr ⟨dongle, ?_, rfl⟩)
    exact Option.mem_toList.mpr (same.trans current)
  · have once := coherent.once
    rw [placed, same, current, Option.toList_some, List.singleton_append, List.nodup_cons] at once
    exact once.1 (List.mem_map.mpr ⟨_, coherent.closed _ closed, rfl⟩)
  · exact ⟨(placed_cleared thread middle.defaults).symm ▸ settled.all, settled.hooked⟩

theorem cleanup_leads : Leads (conduct thread call) (Outside thread none fun _ => True) cleanup
    (fun _ => Outside thread none fun _ => True) (fun _ => Outside thread none fun _ => True) := by
  have body : Leads (conduct thread call) (Inside thread none Settled)
      (do
        let dongle ← readDefault
        assignDefault none
        return dongle)
      (fun value => Inside thread value fun defaults => Settled defaults ∧ True) (fun _ => Inside thread none Settled) := by
    refine .bind readDefault_leads fun value => .bind (clear_leads value) fun _ => .pure fun _ inside => ?_
    exact ⟨inside.holder, inside.owes, inside.fact, trivial⟩
  refine .bind (withLock_leads body) fun value => ?_
  cases value with
  | none => exact .pure fun state outside => ⟨outside.holder, outside.owes, trivial⟩
  | some dongle =>
    refine .tryCatch (.fallible fun state middle outside expected => ?_) fun _ => .pure fun _ outside => outside
    have outside := outside.stays expected.2
    refine ⟨outside.owes.unclosed dongle rfl, fun reply last answered => ?_⟩
    obtain ⟨_, rfl⟩ := answered
    have done : Outside thread none (fun _ => True) (middle.after thread (.closeDongle dongle) reply) := by
      refine ⟨outside.holder, ⟨fun other member => Or.inl ?_, nofun⟩, trivial⟩
      rcases outside.owes.others other member with closed | same
      · exact List.mem_cons_of_mem _ closed
      · cases same
        exact List.mem_cons_self
    cases reply <;> exact done

/-- A method is called on the dongle that was the default when the lock was released. -/
theorem operate_leads (value : Option Nat) (operation : Operation) : Leads (conduct thread call)
    (Outside thread none fun left => value.isSome = true ∧ left = value) (operate value operation)
    (fun _ => Outside thread none fun _ => True) (fun _ => Outside thread none fun _ => True) := by
  refine .fallible fun state middle outside expected => ?_
  have outside := outside.stays expected.2
  refine ⟨outside.left, fun reply last answered => ?_⟩
  obtain ⟨_, rfl⟩ := answered
  cases reply <;> exact ⟨outside.holder, outside.owes, trivial⟩

theorem serve_leads (call : TopCall) : Leads (conduct thread call) (Outside thread none fun _ => True) call.serve
    (fun _ => Outside thread none fun _ => True) (fun _ => Outside thread none fun _ => True) := by
  have through (operation : Operation) : Leads (conduct thread call) (Outside thread none fun _ => True)
      (some <$> do operate (← getDefault) operation)
      (fun _ => Outside thread none fun _ => True) (fun _ => Outside thread none fun _ => True) :=
    .bind (.bind getDefault_leads fun value => operate_leads value operation) fun _ => .pure fun _ outside => outside
  cases call with
  | tx data skipCad timeout => exact through _
  | rx timeout => exact through _
  | recv timeout => exact through _
  | close => exact .bind cleanup_leads fun _ => .pure fun _ outside => outside

end Programs

theorem disciplined : Disciplined TopCall.system discipline where
  refl := Relies.refl
  trans _ _ _ _ first second := first.trans second
  stable _ _ _ outside relies := outside.stays relies
  answered thread task state op reply after coherent allowed given := by
    obtain ⟨permitted, rfl⟩ := given
    exact answered coherent allowed permitted
  stirred _ disturbance := disturbance.elim
  safe thread task state outside := by
    refine (serve_leads task state outside).mono ?_
    intro outcome last ended
    cases outcome <;> exact ended

def kind : TopOp → Locking.Kind
  | .acquire => .acquire
  | .release => .release
  | _ => .other

theorem lock : Locking.Lock TopCall.system kind Process.holder where
  acquired thread process op reply after acquires answered := by
    obtain ⟨permitted, rfl⟩ := answered
    cases op <;> cases acquires
    exact ⟨permitted, rfl⟩
  released thread process op reply after releases answered := by
    obtain ⟨permitted, rfl⟩ := answered
    cases op <;> cases releases
    rfl
  apart thread process op reply after other answered := by
    obtain ⟨permitted, rfl⟩ := answered
    cases op with
    | acquire | release => cases other
    | connect => cases reply <;> rfl
    | readDefault | assignDefault | register | closeDongle | operate => rfl
  stirred _ disturbance := disturbance.elim

theorem answered_other {op : TopOp} (other : kind op = .other) :
    ∃ reply after, TopCall.system.answers thread process op reply after := by
  cases op with
  | acquire | release => cases other
  | readDefault => exact ⟨process.defaults.default, _, rfl, rfl⟩
  | connect => exact ⟨.ok process.defaults.made, _, rfl, rfl⟩
  | assignDefault | register => exact ⟨(), _, trivial, rfl⟩
  | closeDongle => exact ⟨.ok (), _, trivial, rfl⟩
  | operate => exact ⟨.ok (.packet none), _, trivial, rfl⟩

theorem serves : Locking.Serves TopCall.system kind Process.holder (fun _ => True) fun _ _ => False where
  acquire thread process op acquires free := by
    cases op <;> cases acquires
    exact ⟨(), _, free, rfl⟩
  release thread process op releases := by
    cases op <;> cases releases
    exact ⟨(), _, trivial, rfl⟩
  inside thread process op other _ := answered_other other
  other thread process op other := Or.inl (answered_other other)

theorem withLock_balanced {body : TopLevel α} (within : Locking.Balanced kind (fun _ => True) body.run true fun _ => true) :
    Locking.Balanced kind (fun _ => True) (withLock body).run false fun _ => false :=
  .locked TopOp.acquire TopOp.release rfl rfl within

theorem cleanup_balanced : Locking.Balanced kind (fun _ => True) cleanup.run false fun _ => false := by
  have body : Locking.Balanced kind (fun _ => True) (ExceptT.run do
      let dongle ← readDefault
      assignDefault none
      return dongle) true fun _ => true :=
    ⟨trivial, fun _ _ => trivial, fun _ => ⟨trivial, fun _ _ => trivial, fun _ => rfl⟩⟩
  refine .sequence (withLock_balanced body) fun value => ?_
  cases value with
  | none => rfl
  | some dongle => exact ⟨trivial, nofun, fun outcome => by cases outcome <;> rfl⟩

theorem getDefault_balanced : Locking.Balanced kind (fun _ => True) getDefault.run false fun _ => false := by
  refine withLock_balanced ⟨trivial, fun _ _ => trivial, fun value => ?_⟩
  cases value with
  | some dongle => exact ⟨trivial, fun _ _ => trivial, fun _ => rfl⟩
  | none =>
    refine ⟨trivial, fun _ _ => trivial, fun made => ?_⟩
    cases made with
    | error exc => rfl
    | ok dongle =>
      exact ⟨trivial, fun _ _ => trivial, fun _ => ⟨trivial, fun _ _ => trivial, fun _ =>
        ⟨trivial, fun _ _ => trivial, fun _ => rfl⟩⟩⟩

theorem serve_balanced (call : TopCall) : Locking.Balanced kind (fun _ => True) call.serve.run false fun _ => false := by
  have through (operation : Operation) : Locking.Balanced kind (fun _ => True)
      (ExceptT.run (some <$> do operate (← getDefault) operation)) false fun _ => false :=
    .sequence (.sequence getDefault_balanced fun value => ⟨trivial, nofun, fun _ => rfl⟩) fun _ => rfl
  cases call with
  | tx data skipCad timeout => exact through _
  | rx timeout => exact through _
  | recv timeout => exact through _
  | close => exact .sequence cleanup_balanced fun _ => rfl

theorem withLock_complete {body : TopLevel α} (complete : Locking.Complete body.run) :
    Locking.Complete (withLock body).run := by
  refine fun _ => .sequence (.tryCatch complete fun exc => ?_) fun value => ?_
  · exact fun _ => trivial
  · exact fun _ => trivial

theorem getDefault_complete : Locking.Complete getDefault.run := by
  refine withLock_complete fun value => ?_
  cases value with
  | none =>
    intro made
    cases made with
    | ok dongle => exact fun _ _ _ => trivial
    | error exc => trivial
  | some dongle => exact fun _ => trivial

theorem cleanup_complete : Locking.Complete cleanup.run := by
  refine .sequence (withLock_complete fun value _ => trivial) fun value => ?_
  cases value with
  | none => trivial
  | some dongle => exact fun outcome => by cases outcome <;> trivial

theorem serve_complete (call : TopCall) : Locking.Complete call.serve.run := by
  have through (operation : Operation) : Locking.Complete (some <$> do operate (← getDefault) operation : TopLevel _).run :=
    .sequence (.sequence getDefault_complete fun value outcome => trivial) fun _ => trivial
  cases call with
  | tx data skipCad timeout => exact through _
  | rx timeout => exact through _
  | recv timeout => exact through _
  | close => exact .sequence cleanup_complete fun _ => trivial

/-- Every dongle made has one owner, and no thread waits for ever. -/
structure Owned (pool : TopPool) : Prop where
  once : (placed pool.shared.defaults).Nodup
  numbered : ∀ dongle ∈ placed pool.shared.defaults, dongle < pool.shared.defaults.made
  all : ∀ dongle < pool.shared.defaults.made, dongle ∈ placed pool.shared.defaults ∨
    (dongle + 1 = pool.shared.defaults.made ∧ pool.shared.holder.isSome = true)
  closedOnce : (pool.shared.closed.map Prod.snd).Nodup
  closed : ∀ entry ∈ pool.shared.closed, entry ∈ pool.shared.defaults.cleared ∧ pool.shared.defaults.default ≠ some entry.2
  quiet : (∀ thread, pool.threads thread = none) →
    (pool.shared.defaults.default.toList ++ pool.shared.closed.map Prod.snd).Perm (List.range pool.shared.defaults.made) ∧
      pool.shared.defaults.hooks = pool.shared.defaults.made
  requests : ∀ thread call op following, pool.threads thread = some ⟨call, .perform op following⟩ →
    Allows thread pool.shared op
  progress : ∀ thread running, pool.threads thread = some running → CanStep TopCall.system pool thread ∨
    ∃ owner, owner ≠ thread ∧ pool.shared.holder = some owner ∧ CanStep TopCall.system pool owner

theorem initial : Coherent {} where
  once := List.nodup_nil
  numbered _ member := absurd member List.not_mem_nil
  earlier _ before := absurd before (Nat.not_lt_zero _)
  settled _ := ⟨fun _ before => absurd before (Nat.not_lt_zero _), rfl⟩
  closedOnce := List.nodup_nil
  closed _ member := absurd member List.not_mem_nil

theorem kept_run {events : List TopEvent} {pool : TopPool} (run : Run (Threads.Step TopCall.system) TopPool.fresh events pool) :
    Kept TopCall.system discipline pool :=
  disciplined.kept_run initial (fun _ => ⟨nofun, ⟨fun _ member => absurd member List.not_mem_nil, nofun⟩, trivial⟩) run

theorem Coherent.all (coherent : Coherent process) {dongle : Nat} (before : dongle < process.defaults.made) :
    dongle ∈ placed process.defaults ∨ (dongle + 1 = process.defaults.made ∧ process.holder.isSome = true) := by
  cases held : process.holder with
  | none => exact Or.inl ((coherent.settled held).all dongle before)
  | some owner =>
    rcases Nat.lt_or_eq_of_le (Nat.succ_le_of_lt before) with earlier | last
    · exact Or.inl (coherent.earlier dongle earlier)
    · exact Or.inr ⟨last, rfl⟩

theorem Coherent.closed_dongles (coherent : Coherent process) : (process.closed.map Prod.snd).Nodup := by
  refine List.Nodup.map_on (fun first member second member' same => ?_) coherent.closedOnce
  have cleared := (List.nodup_append.mp coherent.once).2.1
  exact List.inj_on_of_nodup_map cleared (coherent.closed first member) (coherent.closed second member') same

theorem Coherent.closed_other (coherent : Coherent process) {entry : Nat × Nat} (member : entry ∈ process.closed) :
    process.defaults.default ≠ some entry.2 := by
  intro current
  have once := coherent.once
  rw [placed, current, Option.toList_some, List.singleton_append, List.nodup_cons] at once
  exact once.1 (List.mem_map.mpr ⟨entry, coherent.closed entry member, rfl⟩)

/-- When no thread is at work, every dongle that is not the default has been closed. -/
theorem quiet {pool : TopPool} (kept : Kept TopCall.system discipline pool) (idle : ∀ thread, pool.threads thread = none) :
    (pool.shared.defaults.default.toList ++ pool.shared.closed.map Prod.snd).Perm (List.range pool.shared.defaults.made) ∧
      pool.shared.defaults.hooks = pool.shared.defaults.made := by
  have coherent : Coherent pool.shared := kept.invariant
  have free (thread : Nat) : Outside thread none (fun _ => True) pool.shared := by
    have held := kept.held thread
    rwa [idle thread] at held
  have unlocked : pool.shared.holder = none := by
    cases held : pool.shared.holder with
    | none => rfl
    | some owner => exact absurd held (free owner).holder
  have settled := coherent.settled unlocked
  refine ⟨?_, settled.hooked⟩
  have closed : pool.shared.closed.Perm pool.shared.defaults.cleared := by
    have cleared : pool.shared.defaults.cleared.Nodup := .of_map _ (List.nodup_append.mp coherent.once).2.1
    refine (List.perm_ext_iff_of_nodup coherent.closedOnce cleared).mpr fun entry => ⟨coherent.closed entry, fun member => ?_⟩
    exact ((free entry.1).owes.others entry.2 member).resolve_right nofun
  have all : (placed pool.shared.defaults).Perm (List.range pool.shared.defaults.made) := by
    refine (List.perm_ext_iff_of_nodup coherent.once List.nodup_range).mpr fun dongle => ?_
    rw [List.mem_range]
    exact ⟨coherent.numbered dongle, settled.all dongle⟩
  exact ((closed.map Prod.snd).append_left _).trans all

theorem dongles_owned {events : List TopEvent} {pool : TopPool}
    (run : Run (Threads.Step TopCall.system) TopPool.fresh events pool) : Owned pool := by
  have kept := kept_run run
  have coherent : Coherent pool.shared := kept.invariant
  refine ⟨coherent.once, coherent.numbered, fun dongle before => coherent.all before, coherent.closed_dongles,
    fun entry member => ⟨coherent.closed entry member, coherent.closed_other member⟩, quiet kept,
    fun thread call op following runs => (disciplined.allowed kept runs).1, fun thread running runs => ?_⟩
  have goes {thread : Nat} (onward : Locking.GoesOn TopCall.system pool thread) : CanStep TopCall.system pool thread := by
    rcases onward with steps | ⟨task, runs⟩
    · exact steps
    · exact (Locking.complete_run serve_complete run thread _ runs).elim
  cases Locking.alive serves (Locking.placed_run lock serve_balanced rfl run) runs with
  | goes onward => exact Or.inl (goes onward)
  | waits _ _ waiting => exact waiting.elim
  | queues _ _ apart held onward => exact Or.inr ⟨_, apart, held, goes onward⟩

/-- `connect` always finds a dongle, and `close` always raises. -/
def obliges (process : Process) : (op : TopOp) → Option (TopReply op)
  | .acquire => if process.holder = none then some () else none
  | .readDefault => some process.defaults.default
  | .connect => some (.ok process.defaults.made)
  | .release | .assignDefault _ | .register => some ()
  | .closeDongle _ => some (.error (.osError "gone"))
  | .operate _ _ => some (.ok (.packet none))

def obliging : Threads.Scheduler TopOp TopReply Process TopCall Empty (Except Exc (Option MethodValue)) where
  starts _ _ := true
  respond thread process op := (obliges process op).map fun reply => (reply, process.after thread op reply)
  stir _ _ := none

theorem obliging_follows : obliging.Follows TopCall.system where
  starts _ _ _ := trivial
  answers thread process op reply after responded := by
    obtain ⟨given, replied, same⟩ := Option.map_eq_some_iff.mp responded
    cases same
    refine ⟨?_, rfl⟩
    cases op with
    | acquire =>
      simp only [obliges] at replied
      split at replied
      next free => exact free
      next => cases replied
    | readDefault | connect =>
      cases replied
      rfl
    | release | assignDefault | register | closeDongle | operate => trivial
  stirs _ disturbance := disturbance.elim

/-- Two threads want a packet. The default is closed between their calls, and the second
gets another one. -/
def shutBetween : List (Turn TopCall Empty) :=
  [.start 0 (.recv none), .start 1 (.recv (some 1))] ++ List.replicate 8 (.advance 0) ++
    [.finish 0, .start 2 .close] ++ List.replicate 5 (.advance 2) ++ [.finish 2] ++ List.replicate 8 (.advance 1) ++
    [.finish 1]

theorem dongles_owned_shut : ∃ events pool, Run (Threads.Step TopCall.system) TopPool.fresh events pool ∧
    pool.shared.defaults.default = some 1 ∧ pool.shared.closed = [(2, 0)] ∧ Owned pool := by
  have computed : (obliging.play TopCall.system.program TopPool.fresh shutBetween).map (fun ended =>
      (ended.2.shared.defaults.default, ended.2.shared.closed)) = some (some 1, [(2, 0)]) := by decide +kernel
  obtain ⟨events, pool, played, same⟩ := Threads.Scheduler.play_summary obliging_follows computed
  obtain ⟨default, closed⟩ := Prod.mk.inj same
  have run := played.mono fun _ _ _ taken => taken.1
  exact ⟨events, pool, run, default, closed, dongles_owned run⟩

end DongloraClient.Proofs.DefaultDongle
