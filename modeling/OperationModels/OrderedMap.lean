-- A map that remembers the order of its keys: a list of entries in which no
-- key stands twice. Writing a key anew keeps its place and takes the new
-- value. The laws say what an insertion does to the keys and to a look-up.
namespace OperationModels

/-- Entries in the order in which their keys first came; no key stands twice. -/
structure OrderedMap (κ α : Type) where
  entries : List (κ × α)
  distinct : (entries.map Prod.fst).Nodup
deriving DecidableEq

namespace OrderedMap

variable {κ α : Type}

def empty : OrderedMap κ α := ⟨[], .nil⟩

instance : Inhabited (OrderedMap κ α) := ⟨empty⟩

def keys (m : OrderedMap κ α) : List κ := m.entries.map Prod.fst

/-- The values, in the order of their keys. -/
def values (m : OrderedMap κ α) : List α := m.entries.map Prod.snd

def size (m : OrderedMap κ α) : Nat := m.entries.length

@[simp] theorem keys_empty : (empty : OrderedMap κ α).keys = [] := rfl

variable [DecidableEq κ]

def get? (m : OrderedMap κ α) (key : κ) : Option α :=
  (m.entries.find? (fun entry => entry.1 = key)).map Prod.snd

/-- Write one entry into a list: over the entry of its key, or at the end. -/
def write (key : κ) (value : α) : List (κ × α) → List (κ × α)
  | [] => [(key, value)]
  | entry :: rest =>
    if entry.1 = key then (key, value) :: rest else entry :: write key value rest

theorem keys_write (key : κ) (value : α) (entries : List (κ × α)) :
    (write key value entries).map Prod.fst =
      if key ∈ entries.map Prod.fst then entries.map Prod.fst
      else entries.map Prod.fst ++ [key] := by
  induction entries with
  | nil => simp [write]
  | cons entry rest ih =>
    by_cases same : entry.1 = key
    · simp [write, same]
    · have other : ¬ key = entry.1 := fun h => same h.symm
      by_cases later : key ∈ rest.map Prod.fst
      · simp only [write, same, if_false, List.map_cons, ih, later, if_true, List.mem_cons,
          or_true]
      · simp only [write, same, if_false, List.map_cons, ih, later, List.mem_cons, other,
          or_false, List.cons_append]

/-- Write an entry: a known key keeps its place and takes the new value, a
new key comes last. -/
def insert (m : OrderedMap κ α) (key : κ) (value : α) : OrderedMap κ α where
  entries := write key value m.entries
  distinct := by
    rw [keys_write]
    split
    · exact m.distinct
    · rename_i absent
      refine List.nodup_append.2 ⟨m.distinct, by simp, ?_⟩
      intro a inside b last
      simp only [List.mem_singleton] at last
      intro same
      exact absent (last ▸ same ▸ inside)

/-- Write the entries of a list one after the other. -/
def insertAll (m : OrderedMap κ α) (entries : List (κ × α)) : OrderedMap κ α :=
  entries.foldl (fun known entry => known.insert entry.1 entry.2) m

/-- The map that a list of entries writes. -/
def ofList (entries : List (κ × α)) : OrderedMap κ α := empty.insertAll entries

/-- The map without the entries of the keys that `drop` names. -/
def removeKeys (m : OrderedMap κ α) (drop : κ → Bool) : OrderedMap κ α where
  entries := m.entries.filter (fun entry => !drop entry.1)
  distinct := m.distinct.sublist (List.Sublist.map _ (List.filter_sublist))

/-! ## Laws -/

theorem keys_insert (m : OrderedMap κ α) (key : κ) (value : α) :
    (m.insert key value).keys = if key ∈ m.keys then m.keys else m.keys ++ [key] :=
  keys_write key value m.entries

theorem find?_write (key other : κ) (value : α) (entries : List (κ × α)) :
    ((write key value entries).find? (fun entry => entry.1 = other)).map Prod.snd =
      if other = key then some value
      else (entries.find? (fun entry => entry.1 = other)).map Prod.snd := by
  induction entries with
  | nil =>
    by_cases same : other = key
    · simp [write, same]
    · have flipped : ¬ key = other := fun h => same h.symm
      simp [write, same, flipped]
  | cons entry rest ih =>
    by_cases here : entry.1 = key
    · by_cases same : other = key
      · simp [write, here, same]
      · have flipped : ¬ key = other := fun h => same h.symm
        simp [write, here, same, flipped]
    · simp only [write, here, if_false, List.find?_cons]
      by_cases found : entry.1 = other
      · have differs : ¬ other = key := fun h => here (found.trans h)
        simp [found, differs]
      · simpa [found] using ih

theorem get?_insert (m : OrderedMap κ α) (key other : κ) (value : α) :
    (m.insert key value).get? other = if other = key then some value else m.get? other :=
  find?_write key other value m.entries

@[simp] theorem get?_empty (key : κ) : (empty : OrderedMap κ α).get? key = none := rfl

theorem mem_of_get?_eq_some {m : OrderedMap κ α} {key : κ} {value : α}
    (h : m.get? key = some value) : (key, value) ∈ m.entries := by
  unfold get? at h
  obtain ⟨⟨known, held⟩, hfind, rfl⟩ := Option.map_eq_some_iff.1 h
  have hkey : known = key := by simpa using List.find?_some hfind
  exact hkey ▸ List.mem_of_find?_eq_some hfind

theorem get?_of_mem {m : OrderedMap κ α} {entry : κ × α} (h : entry ∈ m.entries) :
    m.get? entry.1 = some entry.2 := by
  obtain ⟨before, after, hsplit⟩ := List.append_of_mem h
  have hfirst : before.find? (fun other => other.1 = entry.1) = none := by
    have hdistinct := m.distinct
    rw [hsplit, List.map_append, List.nodup_append] at hdistinct
    rw [List.find?_eq_none]
    intro other hother
    rw [decide_eq_true_eq]
    exact hdistinct.2.2 _ (List.mem_map_of_mem hother) _ List.mem_cons_self
  unfold get?
  rw [hsplit, List.find?_append, hfirst, Option.none_or, List.find?_cons_of_pos (by simp)]
  rfl

theorem mem_entries_iff {m : OrderedMap κ α} {key : κ} {value : α} :
    (key, value) ∈ m.entries ↔ m.get? key = some value :=
  ⟨fun hmem => get?_of_mem hmem, mem_of_get?_eq_some⟩

end OrderedMap

end OperationModels
