import DongloraClient.Discovery

/-! Which port `find_port` finds: a DongLoRa on native USB before a known bridge, and a
known bridge before any port at all. -/

namespace DongloraClient.Proofs.FindPort
open Program

/-- What the machine answers to each call: ports may come and go between two of them. -/
structure Machine where
  ports : Nat → String → List String
  info : Nat → String → Except Exc String

namespace Machine

def respond (machine : Machine) (moment : Nat) : (op : UdevOp) → Option (UdevReply op × Nat)
  | .glob pattern => some (machine.ports moment pattern, moment + 1)
  | .udevadm path => some (machine.info moment path, moment + 1)

def listing (machine : Machine) (moment : Nat) : List String :=
  (machine.ports moment "/dev/ttyACM*").mergeSort ++ (machine.ports (moment + 1) "/dev/ttyUSB*").mergeSort

/-- The ports that are probed, with the identity that `udevadm` gives them, if it can be run. -/
def probes (machine : Machine) : Nat → List String → List (String × Option String)
  | _, [] => []
  | moment, path :: rest => (path, (machine.info moment path).toOption.map vidPid) :: machine.probes (moment + 1) rest

end Machine

variable {machine other : Machine} {moment : Nat}

def native (probe : String × Option String) : Bool := probe.2 = some usbVidPid

def bridge (probe : String × Option String) : Bool := (probe.2.map fun identity => decide (identity ∈ bridgeVidPids)).getD false

def preferred (probes : List (String × Option String)) (remembered fallback : Option String) : Option String :=
  ((probes.find? native).map Prod.fst).or (remembered.or (((probes.find? bridge).map Prod.fst).or fallback))

theorem serialPorts_outcome : outcome machine.respond serialPorts moment = some (.ok (machine.listing moment), moment + 2) := rfl

theorem udevadm_outcome (path : String) :
    outcome machine.respond (Udev.udevadm path) moment = some (machine.info moment path, moment + 1) := rfl

theorem probe_outcome (path : String) :
    outcome machine.respond (tryCatch (do return some (← Udev.udevadm path)) fun _ => return none) moment =
      some (.ok (machine.info moment path).toOption, moment + 1) := by
  rw [outcome_tryCatch, outcome_bind, udevadm_outcome]
  cases machine.info moment path <;> rfl

section Preferences

variable {path : String} {identity : String} {rest : List (String × Option String)} {remembered fallback : Option String}

theorem preferred_failed : preferred ((path, none) :: rest) remembered fallback = preferred rest remembered fallback := by
  simp [preferred, native, bridge]

theorem preferred_native (found : identity = usbVidPid) :
    preferred ((path, some identity) :: rest) remembered fallback = some path := by
  simp [preferred, native, found]

theorem preferred_bridge (other : identity ≠ usbVidPid) (found : identity ∈ bridgeVidPids) :
    preferred ((path, some identity) :: rest) none fallback = preferred rest (some path) fallback := by
  simp [preferred, native, bridge, other, found]

theorem preferred_other (other : identity ≠ usbVidPid) (passed : ¬ (remembered.isNone = true ∧ identity ∈ bridgeVidPids)) :
    preferred ((path, some identity) :: rest) remembered fallback = preferred rest remembered fallback := by
  cases remembered with
  | some earlier => simp [preferred, native, other]
  | none =>
    have foreign : identity ∉ bridgeVidPids := fun found => passed ⟨rfl, found⟩
    simp [preferred, native, bridge, other, foreign]

end Preferences

theorem probePorts_outcome (remembered : Option String) (paths : List String) : ∃ last,
    outcome machine.respond (probePorts remembered paths) moment = some (.ok (preferred (machine.probes moment paths) remembered
      (machine.listing (moment + paths.length)).head?), last) := by
  induction paths generalizing remembered moment with
  | nil =>
    cases remembered with
    | some path => exact ⟨moment, rfl⟩
    | none => exact ⟨moment + 2, rfl⟩
  | cons path rest ih =>
    rw [probePorts, outcome_bind, probe_outcome, Option.bind_some]
    have later : moment + (path :: rest).length = moment + 1 + rest.length := by rw [List.length_cons]; omega
    rw [later, Machine.probes]
    cases (machine.info moment path).toOption with
    | none =>
      rw [Option.map_none, preferred_failed]
      exact ih remembered
    | some stdout =>
      rw [Option.map_some]
      by_cases found : vidPid stdout = usbVidPid
      · rw [preferred_native found]
        exact ⟨moment + 1, by simp only [found, if_true, outcome_pure]⟩
      · by_cases first : remembered.isNone = true ∧ vidPid stdout ∈ bridgeVidPids
        · obtain rfl : remembered = none := Option.isNone_iff_eq_none.mp first.1
          rw [preferred_bridge found first.2]
          simp only [found, first, if_false]
          exact ih (some path)
        · rw [preferred_other found first]
          simp only [found, first, if_false]
          exact ih remembered

theorem findPort_outcome (machine : Machine) : ∃ last, outcome machine.respond findPort 0 =
    some (.ok (preferred (machine.probes 2 (machine.listing 0)) none (machine.listing (2 + (machine.listing 0).length)).head?), last) := by
  rw [findPort, outcome_bind, serialPorts_outcome]
  exact probePorts_outcome none (machine.listing 0)

/-! The order in which `glob` lists the ports does not matter. -/

theorem sorted_perm {paths others : List String} (same : paths.Perm others) : paths.mergeSort = others.mergeSort := by
  have sorted (paths : List String) : paths.mergeSort.Pairwise fun first second => decide (first ≤ second) = true :=
    List.pairwise_mergeSort (fun _ _ _ before after => by simpa using le_trans (of_decide_eq_true before) (of_decide_eq_true after))
      (fun first second => by simpa using le_total first second) paths
  refine List.Perm.eq_of_pairwise (fun first second _ _ before after => ?_) (sorted paths) (sorted others) ?_
  · exact le_antisymm (of_decide_eq_true before) (of_decide_eq_true after)
  · exact (List.mergeSort_perm paths _).trans (same.trans (List.mergeSort_perm others _).symm)

theorem listing_perm (same : ∀ moment pattern, (other.ports moment pattern).Perm (machine.ports moment pattern)) (moment : Nat) :
    other.listing moment = machine.listing moment := by
  rw [Machine.listing, Machine.listing, sorted_perm (same _ _), sorted_perm (same _ _)]

theorem probes_same (info : other.info = machine.info) (moment : Nat) (paths : List String) :
    other.probes moment paths = machine.probes moment paths := by
  induction paths generalizing moment with
  | nil => rfl
  | cons path rest ih => rw [Machine.probes, Machine.probes, info, ih]

/-! What `udevadm` prints: a line for every property. -/

def lineOf (entry : String × String) : List Char := entry.1.toList ++ '=' :: entry.2.toList

def render (entries : List (String × String)) : String :=
  String.ofList (entries.flatMap fun entry => lineOf entry ++ ['\n'])

/-- Properties that fit on a line each. -/
def Printable (entry : String × String) : Prop :=
  '=' ∉ entry.1.toList ∧ ∀ letter ∈ lineOf entry, isLineBreak letter = false

def latest (entries : List (String × String)) (key : String) : String :=
  ((entries.filter fun entry => entry.1 = key).getLast?.map Prod.snd).getD ""

theorem splitLines_line {line : List Char} (whole : ∀ letter ∈ line, isLineBreak letter = false) (begun rest : List Char) :
    splitLines begun (line ++ '\n' :: rest) = (begun ++ line) :: splitLines [] rest := by
  induction line generalizing begun with
  | nil => simp [splitLines, isLineBreak]
  | cons letter line ih =>
    have inside : isLineBreak letter = false := whole letter List.mem_cons_self
    have returns : letter ≠ '\r' := by
      rintro rfl
      cases inside
    rw [List.cons_append, splitLines, inside]
    · rw [if_neg (by simp), ih (fun letter member => whole letter (List.mem_cons_of_mem _ member)), List.append_assoc]
      rfl
    · exact fun _ same => absurd same returns

theorem splitLines_render (entries : List (String × String)) (printable : ∀ entry ∈ entries, Printable entry) :
    splitLines [] (render entries).toList = entries.map lineOf := by
  rw [render, String.toList_ofList]
  induction entries with
  | nil => rfl
  | cons entry entries ih =>
    rw [List.flatMap_cons, List.append_assoc, List.singleton_append, splitLines_line (printable entry List.mem_cons_self).2,
      List.nil_append, List.map_cons, ih fun entry member => printable entry (List.mem_cons_of_mem _ member)]

theorem splitProperty_line {entry : String × String} (plain : '=' ∉ entry.1.toList) : splitProperty (lineOf entry) = some entry := by
  have letters : ∀ letter ∈ entry.1.toList, decide (letter ≠ '=') = true := by
    intro letter member
    exact decide_eq_true fun same => plain (same ▸ member)
  have divided : '=' ∈ lineOf entry := List.mem_append_right _ List.mem_cons_self
  rw [splitProperty, if_pos divided, lineOf, List.takeWhile_append_of_pos letters, List.dropWhile_append_of_pos letters]
  simp

theorem property_render {entries : List (String × String)} (printable : ∀ entry ∈ entries, Printable entry) (key : String) :
    property (render entries) key = latest entries key := by
  have read : (entries.map lineOf).filterMap splitProperty = entries := by
    rw [List.filterMap_map]
    refine (List.filterMap_congr fun entry member => ?_).trans (List.filterMap_some ..)
    exact splitProperty_line (printable entry member).1
  rw [property, splitLines_render entries printable, read]
  rfl

example : vidPid "ID_VENDOR_ID=10C4\r\nID_MODEL_ID=0000\nID_MODEL_ID=EA60" ∈ bridgeVidPids := by decide +kernel

/-- `find_port` never raises. It prefers a DongLoRa to a bridge and a bridge to any other
port, whatever the ports that cannot be asked, in whatever order the ports are listed. -/
theorem findPort_prefers :
    (∀ machine : Machine, ∃ last, outcome machine.respond findPort 0 = some (.ok (preferred
      (machine.probes 2 (machine.listing 0)) none (machine.listing (2 + (machine.listing 0).length)).head?), last)) ∧
    (∀ machine other : Machine, (∀ moment pattern, (other.ports moment pattern).Perm (machine.ports moment pattern)) →
      other.info = machine.info → ∃ path last later, outcome machine.respond findPort 0 = some (.ok path, last) ∧
        outcome other.respond findPort 0 = some (.ok path, later)) ∧
    ∀ entries, (∀ entry ∈ entries, Printable entry) → vidPid (render entries) =
      lower (latest entries "ID_VENDOR_ID") ++ ":" ++ lower (latest entries "ID_MODEL_ID") := by
  refine ⟨findPort_outcome, fun machine other same info => ?_, fun entries printable => ?_⟩
  · obtain ⟨last, ran⟩ := findPort_outcome machine
    obtain ⟨later, reran⟩ := findPort_outcome other
    rw [listing_perm same, listing_perm same, probes_same info] at reran
    exact ⟨_, last, later, ran, reran⟩
  · rw [vidPid, property_render printable, property_render printable]

def bridgeProperties : List (String × String) := [("DEVNAME", "ttyUSB1"), ("ID_VENDOR_ID", "10C4"), ("ID_MODEL_ID", "EA60")]

/-- A bridge, and a port about which `udevadm` cannot be asked. -/
def attached (ports : List String) : Machine where
  ports _ pattern := if pattern = "/dev/ttyUSB*" then ports else []
  info _ path := if path = "/dev/ttyUSB1" then .ok (render bridgeProperties) else .error (.osError "udevadm")

theorem findPort_prefers_attached :
    (∃ path last later, outcome (attached ["/dev/ttyUSB0", "/dev/ttyUSB1"]).respond findPort 0 = some (.ok path, last) ∧
      outcome (attached ["/dev/ttyUSB1", "/dev/ttyUSB0"]).respond findPort 0 = some (.ok path, later)) ∧
    vidPid (render bridgeProperties) =
      lower (latest bridgeProperties "ID_VENDOR_ID") ++ ":" ++ lower (latest bridgeProperties "ID_MODEL_ID") := by
  have shuffled (moment : Nat) (pattern : String) : ((attached ["/dev/ttyUSB1", "/dev/ttyUSB0"]).ports moment pattern).Perm
      ((attached ["/dev/ttyUSB0", "/dev/ttyUSB1"]).ports moment pattern) := by
    simp only [attached]
    split
    · exact List.Perm.swap _ _ _
    · exact .refl _
  have printable : ∀ entry ∈ bridgeProperties, Printable entry := by
    simp [bridgeProperties, Printable, lineOf, isLineBreak, or_imp, forall_and]
  exact ⟨findPort_prefers.2.1 _ _ shuffled rfl, findPort_prefers.2.2 _ printable⟩

end DongloraClient.Proofs.FindPort
