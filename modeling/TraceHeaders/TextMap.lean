namespace TraceHeaders

/-- A map from texts to texts.  The entries stand in the order of their keys, each key once, so that equal
maps are equal values and a map does not remember the order in which it was filled. -/
@[ext] structure TextMap where
  toList : List (String × String)
  sorted : toList.Pairwise (fun a b => a.1 < b.1)
  deriving DecidableEq

namespace TextMap

def insertEntry (key value : String) : List (String × String) → List (String × String)
  | [] => [(key, value)]
  | entry :: entries =>
      if key < entry.1 then (key, value) :: entry :: entries
      else if key = entry.1 then (key, value) :: entries
      else entry :: insertEntry key value entries

theorem mem_insertEntry {key value : String} {entries : List (String × String)}
    {entry : String × String} (h : entry ∈ insertEntry key value entries) :
    entry = (key, value) ∨ entry ∈ entries := by
  induction entries with
  | nil => simpa [insertEntry] using h
  | cons first entries ih =>
      simp only [insertEntry] at h
      split at h
      · simpa using h
      · split at h
        · rcases List.mem_cons.1 h with h | h
          · exact .inl h
          · exact .inr (List.mem_cons_of_mem _ h)
        · rcases List.mem_cons.1 h with h | h
          · exact .inr (by simp [h])
          · exact (ih h).imp_right (List.mem_cons_of_mem _)

theorem lt_of_not_le {a b : String} (hlt : ¬ a < b) (hne : a ≠ b) : b < a := by
  rcases String.le_total a b with h | h
  · exact absurd (String.le_antisymm h (String.not_lt.1 hlt)) hne
  · exact Decidable.byContradiction fun hba =>
      hne (String.le_antisymm (String.not_lt.1 hba) h)

theorem sorted_insertEntry (key value : String) {entries : List (String × String)}
    (h : entries.Pairwise (fun a b => a.1 < b.1)) :
    (insertEntry key value entries).Pairwise (fun a b => a.1 < b.1) := by
  induction entries with
  | nil => simp [insertEntry]
  | cons first entries ih =>
      obtain ⟨hfirst, hrest⟩ := List.pairwise_cons.1 h
      simp only [insertEntry]
      split
      · rename_i hlt
        refine List.pairwise_cons.2 ⟨fun entry hentry => ?_, h⟩
        rcases List.mem_cons.1 hentry with rfl | hentry
        · exact hlt
        · exact String.lt_trans hlt (hfirst entry hentry)
      · split
        · rename_i heq
          exact List.pairwise_cons.2 ⟨fun entry hentry => heq ▸ hfirst entry hentry, hrest⟩
        · rename_i hlt hne
          refine List.pairwise_cons.2 ⟨fun entry hentry => ?_, ih hrest⟩
          rcases mem_insertEntry hentry with rfl | hentry
          · exact lt_of_not_le hlt hne
          · exact hfirst entry hentry

def empty : TextMap := ⟨[], .nil⟩

instance : EmptyCollection TextMap := ⟨empty⟩

instance : Inhabited TextMap := ⟨empty⟩

def isEmpty (m : TextMap) : Bool := m.toList.isEmpty

/-- The value of the first entry of a key. -/
def valueOf? (key : String) : List (String × String) → Option String
  | [] => none
  | entry :: entries => if key = entry.1 then some entry.2 else valueOf? key entries

def get? (m : TextMap) (key : String) : Option String := valueOf? key m.toList

def contains (m : TextMap) (key : String) : Bool := (m.get? key).isSome

/-- Enters a value in place of the one that was there before. -/
def insert (m : TextMap) (key value : String) : TextMap :=
  ⟨insertEntry key value m.toList, sorted_insertEntry key value m.sorted⟩

def erase (m : TextMap) (key : String) : TextMap :=
  ⟨m.toList.filter (·.1 != key), m.sorted.filter _⟩

def insertIfNew (m : TextMap) (key value : String) : TextMap :=
  if m.contains key then m else m.insert key value

/-- Enters some entries in order, so that the last one of a key counts. -/
def insertMany (m : TextMap) (entries : List (String × String)) : TextMap :=
  entries.foldl (fun m (key, value) => m.insert key value) m

def ofList (entries : List (String × String)) : TextMap := insertMany ∅ entries

def union (m other : TextMap) : TextMap := m.insertMany other.toList

/-- Adds the entries of `other` whose keys are new. -/
def unionNew (m other : TextMap) : TextMap :=
  other.toList.foldl (fun m (key, value) => m.insertIfNew key value) m

theorem valueOf?_insertEntry (key value other : String) (entries : List (String × String)) :
    valueOf? other (insertEntry key value entries) =
      if other = key then some value else valueOf? other entries := by
  induction entries with
  | nil => simp [insertEntry, valueOf?]
  | cons first entries ih =>
      simp only [insertEntry]
      split
      · simp [valueOf?]
      · split
        · rename_i heq
          by_cases h : other = key
          · simp [valueOf?, h]
          · simp [valueOf?, h, show ¬ other = first.1 from heq ▸ h]
        · rename_i hne
          by_cases h : other = key
          · subst h
            simp [valueOf?, ih, hne]
          · simp [valueOf?, ih, h]

@[simp] theorem get?_empty (key : String) : (∅ : TextMap).get? key = none := rfl

@[simp] theorem get?_insert (m : TextMap) (key value other : String) :
    (m.insert key value).get? other = if other = key then some value else m.get? other :=
  valueOf?_insertEntry key value other m.toList

theorem valueOf?_eq_some_iff {entries : List (String × String)} {key value : String}
    (h : entries.Pairwise (fun a b => a.1 < b.1)) :
    valueOf? key entries = some value ↔ (key, value) ∈ entries := by
  induction entries with
  | nil => simp [valueOf?]
  | cons first entries ih =>
      obtain ⟨hfirst, hrest⟩ := List.pairwise_cons.1 h
      by_cases hkey : key = first.1
      · subst hkey
        have hnot : (first.1, value) ∉ entries := fun hmem =>
          String.lt_irrefl _ (hfirst (first.1, value) hmem)
        simp [valueOf?, hnot, Prod.ext_iff, eq_comm]
      · simp [valueOf?, hkey, ih hrest, Prod.ext_iff]

theorem get?_eq_some_iff {m : TextMap} {key value : String} :
    m.get? key = some value ↔ (key, value) ∈ m.toList :=
  valueOf?_eq_some_iff m.sorted

theorem nodup_of_sorted {entries : List (String × String)}
    (h : entries.Pairwise (fun a b => a.1 < b.1)) : entries.Nodup := by
  refine List.Pairwise.imp ?_ h
  rintro a b hlt rfl
  exact String.lt_irrefl _ hlt

theorem eq_of_same_entries {xs ys : List (String × String)}
    (hxs : xs.Pairwise (fun a b => a.1 < b.1)) (hys : ys.Pairwise (fun a b => a.1 < b.1))
    (h : ∀ entry, entry ∈ xs ↔ entry ∈ ys) : xs = ys :=
  List.Perm.eq_of_pairwise (fun _ _ _ _ hab hba => absurd hba (String.lt_asymm hab)) hxs hys
    ((List.perm_ext_iff_of_nodup (nodup_of_sorted hxs) (nodup_of_sorted hys)).2 h)

theorem ext_get? {m other : TextMap} (h : ∀ key, m.get? key = other.get? key) : m = other :=
  TextMap.ext (eq_of_same_entries m.sorted other.sorted fun (key, value) => by
    rw [← get?_eq_some_iff, ← get?_eq_some_iff, h])

end TextMap

end TraceHeaders
