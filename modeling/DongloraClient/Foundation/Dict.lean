import Mathlib.Data.List.AList

/-! A dictionary that iterates in the order in which its keys came in, as an association
list with the latest first. A key that is assigned again keeps its place. -/

namespace Dict

variable {κ ν : Type*} [DecidableEq κ] {key other : κ} {value : ν} {table : AList fun _ : κ => ν}

def assign (key : κ) (value : ν) (table : AList fun _ : κ => ν) : AList fun _ : κ => ν :=
  if key ∈ table then table.replace key value else table.insert key value

/-- The oldest first. -/
def values (table : AList fun _ : κ => ν) : List ν := (table.entries.map Sigma.snd).reverse

section Entries

variable {entries : List (Sigma fun _ : κ => ν)}

theorem kreplace_cons (first : κ) (old : ν) : List.kreplace key value (⟨first, old⟩ :: entries) =
    if key = first then ⟨key, value⟩ :: entries else ⟨first, old⟩ :: List.kreplace key value entries := by
  unfold List.kreplace
  by_cases same : key = first
  · rw [List.lookmap_cons_some _ _ (by rw [if_pos same]), if_pos same]
  · rw [List.lookmap_cons_none _ _ (by rw [if_neg same]), if_neg same]

theorem dlookup_kreplace (present : key ∈ entries.keys) :
    List.dlookup key (List.kreplace key value entries) = some value := by
  induction entries with
  | nil => cases present
  | cons entry rest ih =>
    obtain ⟨first, old⟩ := entry
    rw [kreplace_cons]
    by_cases same : key = first
    · rw [if_pos same, List.dlookup_cons_eq]
    · rw [if_neg same, List.dlookup_cons_ne _ _ same]
      exact ih ((List.mem_cons.mp present).resolve_left same)

theorem dlookup_kreplace_ne (apart : other ≠ key) :
    List.dlookup other (List.kreplace key value entries) = List.dlookup other entries := by
  induction entries with
  | nil => rfl
  | cons entry rest ih =>
    obtain ⟨first, old⟩ := entry
    rw [kreplace_cons]
    by_cases same : key = first
    · subst same
      rw [if_pos rfl, List.dlookup_cons_ne _ _ apart, List.dlookup_cons_ne _ _ apart]
    · rw [if_neg same]
      by_cases own : other = first
      · subst own
        rw [List.dlookup_cons_eq, List.dlookup_cons_eq]
      · rw [List.dlookup_cons_ne _ _ own, List.dlookup_cons_ne _ _ own, ih]

end Entries

@[simp] theorem lookup_assign : (assign key value table).lookup key = some value := by
  unfold assign
  split
  next present => exact dlookup_kreplace present
  next => exact AList.lookup_insert table

theorem lookup_assign_ne (apart : other ≠ key) : (assign key value table).lookup other = table.lookup other := by
  unfold assign
  split
  next => exact dlookup_kreplace_ne apart
  next => exact AList.lookup_insert_ne apart

theorem mem_values : value ∈ values table ↔ ∃ key, table.lookup key = some value := by
  simp only [values, List.mem_reverse, List.mem_map]
  constructor
  · intro ⟨⟨key, owner⟩, entry, same⟩
    subst same
    exact ⟨key, Option.mem_def.mp (AList.mem_lookup_iff.mpr entry)⟩
  · intro ⟨key, found⟩
    exact ⟨⟨key, value⟩, AList.mem_lookup_iff.mp (Option.mem_def.mpr found), rfl⟩

end Dict
