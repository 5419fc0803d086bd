import Mathlib.Data.List.Basic
import TraceHeaders.PropagationTags

namespace TraceHeaders

/-- The value of the last entry of a key. -/
def lastOf? (key : String) (entries : List (String × String)) : Option String :=
  ((entries.filter fun entry => entry.1 = key).getLast?).map (·.2)

@[simp] theorem lastOf?_nil (key : String) : lastOf? key [] = none := rfl

theorem lastOf?_append (key : String) (xs ys : List (String × String)) :
    lastOf? key (xs ++ ys) = (lastOf? key ys).or (lastOf? key xs) := by
  rw [lastOf?, List.filter_append, List.getLast?_append, Option.map_or]
  rfl

theorem lastOf?_singleton (key : String) (entry : String × String) :
    lastOf? key [entry] = if entry.1 = key then some entry.2 else none := by
  by_cases h : entry.1 = key <;> simp [lastOf?, h]

theorem lastOf?_cons (key : String) (entry : String × String) (entries : List (String × String)) :
    lastOf? key (entry :: entries) =
      (lastOf? key entries).or (if entry.1 = key then some entry.2 else none) := by
  rw [← lastOf?_singleton, ← lastOf?_append]
  rfl

theorem lastOf?_eq_none {key : String} {entries : List (String × String)}
    (h : ∀ entry ∈ entries, entry.1 ≠ key) : lastOf? key entries = none := by
  have hfilter : entries.filter (fun entry => entry.1 = key) = [] := by
    rw [List.filter_eq_nil_iff]
    intro entry hentry
    simpa using h entry hentry
  rw [lastOf?, hfilter]
  rfl

theorem mem_of_lastOf? {key value : String} {entries : List (String × String)}
    (h : lastOf? key entries = some value) : (key, value) ∈ entries := by
  obtain ⟨entry, hlast, rfl⟩ := Option.map_eq_some_iff.mp h
  have hmem := List.mem_filter.mp (List.mem_of_getLast? hlast)
  have hkey : entry.1 = key := by simpa using hmem.2
  exact hkey ▸ hmem.1

theorem exists_lastOf?_of_mem {entry : String × String} {entries : List (String × String)}
    (h : entry ∈ entries) : ∃ value, lastOf? entry.1 entries = some value := by
  have hmem : entry ∈ entries.filter fun other => other.1 = entry.1 :=
    List.mem_filter.mpr ⟨h, decide_eq_true rfl⟩
  rw [lastOf?, List.getLast?_eq_some_getLast (List.ne_nil_of_mem hmem)]
  exact ⟨_, rfl⟩

theorem lastOf?_eq_some_iff {key value : String} {entries : List (String × String)}
    (h : entries.Pairwise fun a b => a.1 ≠ b.1) :
    lastOf? key entries = some value ↔ (key, value) ∈ entries := by
  refine ⟨mem_of_lastOf?, fun hmem => ?_⟩
  induction entries with
  | nil => exact absurd hmem List.not_mem_nil
  | cons entry entries ih =>
      obtain ⟨hfirst, hrest⟩ := List.pairwise_cons.mp h
      rw [lastOf?_cons]
      rcases List.mem_cons.mp hmem with rfl | hmem
      · have hnone : lastOf? key entries = none :=
          lastOf?_eq_none fun other hother => (hfirst other hother).symm
        rw [hnone, Option.none_or, if_pos rfl]
      · rw [ih hrest hmem, Option.some_or]

theorem lastOf?_perm {xs ys : List (String × String)} (hperm : xs.Perm ys)
    (h : xs.Pairwise fun a b => a.1 ≠ b.1) (key : String) : lastOf? key xs = lastOf? key ys := by
  have hys : ys.Pairwise fun a b => a.1 ≠ b.1 := hperm.pairwise h Ne.symm
  ext value
  rw [lastOf?_eq_some_iff h, lastOf?_eq_some_iff hys, hperm.mem_iff]

theorem lastOf?_filter (p : String → Bool) (key : String) (entries : List (String × String)) :
    lastOf? key (entries.filter fun entry => p entry.1) =
      if p key = true then lastOf? key entries else none := by
  split
  · rename_i hkey
    have hfilter : (entries.filter fun entry => p entry.1).filter (fun entry => entry.1 = key) =
        entries.filter fun entry => entry.1 = key := by
      rw [List.filter_filter]
      apply List.filter_congr
      intro entry _
      by_cases hentry : entry.1 = key <;> simp [hentry, hkey]
    rw [lastOf?, hfilter, lastOf?]
  · rename_i hkey
    apply lastOf?_eq_none
    rintro entry hentry rfl
    exact hkey (List.mem_filter.mp hentry).2

namespace TextMap

theorem insertEntry_eq (key value : String) {entries : List (String × String)}
    (h : entries.Pairwise (fun a b => a.1 < b.1)) :
    insertEntry key value entries = entries.filter (fun entry => entry.1 < key) ++
      (key, value) :: entries.filter (fun entry => key < entry.1) := by
  induction entries with
  | nil => rfl
  | cons first entries ih =>
      obtain ⟨hfirst, hrest⟩ := List.pairwise_cons.mp h
      -- Where the rest is known to lie behind the key, all of it stays behind the new entry.
      have hbehind (hkey : ∀ entry ∈ entries, key < entry.1) :
          entries.filter (fun entry => entry.1 < key) = [] ∧
            entries.filter (fun entry => key < entry.1) = entries := by
        rw [List.filter_eq_nil_iff, List.filter_eq_self]
        exact ⟨fun entry hentry => by simpa using String.lt_asymm (hkey entry hentry),
          fun entry hentry => by simpa using hkey entry hentry⟩
      rw [insertEntry]
      split
      · rename_i hlt
        obtain ⟨hnone, hall⟩ := hbehind fun entry hentry =>
          String.lt_trans hlt (hfirst entry hentry)
        rw [List.filter_cons_of_neg (by simpa using String.lt_asymm hlt),
          List.filter_cons_of_pos (by simpa using hlt), hnone, hall]
        rfl
      · split
        · rename_i heq
          subst heq
          obtain ⟨hnone, hall⟩ := hbehind hfirst
          rw [List.filter_cons_of_neg (by simp), List.filter_cons_of_neg (by simp), hnone, hall]
          rfl
        · rename_i hlt hne
          have hgt := lt_of_not_le hlt hne
          rw [List.filter_cons_of_pos (by simpa using hgt),
            List.filter_cons_of_neg (by simpa using String.lt_asymm hgt), ih hrest]
          rfl

theorem toList_insert (m : TextMap) (key value : String) :
    (m.insert key value).toList = m.toList.filter (fun entry => entry.1 < key) ++
      (key, value) :: m.toList.filter (fun entry => key < entry.1) :=
  insertEntry_eq key value m.sorted

theorem isEmpty_iff {m : TextMap} : m.isEmpty = true ↔ m = ∅ := by
  constructor
  · intro h
    exact TextMap.ext (List.isEmpty_iff.mp h)
  · rintro rfl
    rfl

theorem insert_ne_empty (m : TextMap) (key value : String) : m.insert key value ≠ ∅ := by
  intro h
  have hget := congrArg (TextMap.get? · key) h
  simp at hget

theorem valueOf?_filter_ne (key other : String) (entries : List (String × String)) :
    valueOf? other (entries.filter (·.1 != key)) =
      if other = key then none else valueOf? other entries := by
  induction entries with
  | nil => simp [valueOf?]
  | cons entry entries ih =>
      by_cases hentry : entry.1 = key
      · rw [List.filter_cons_of_neg (by simp [hentry]), ih]
        by_cases hother : other = key
        · rw [if_pos hother, if_pos hother]
        · rw [if_neg hother, if_neg hother, valueOf?, if_neg (hentry ▸ hother)]
      · rw [List.filter_cons_of_pos (by simpa using hentry), valueOf?, ih]
        by_cases hother : other = entry.1
        · rw [if_pos hother, if_neg (hother ▸ hentry), valueOf?, if_pos hother]
        · rw [if_neg hother, valueOf?, if_neg hother]

@[simp] theorem get?_erase (m : TextMap) (key other : String) :
    (m.erase key).get? other = if other = key then none else m.get? other :=
  valueOf?_filter_ne key other m.toList

theorem get?_foldl_erase (keys : List String) (m : TextMap) (other : String) :
    (keys.foldl erase m).get? other = if other ∈ keys then none else m.get? other := by
  induction keys generalizing m with
  | nil => simp
  | cons key keys ih =>
      rw [List.foldl_cons, ih, get?_erase]
      by_cases hkey : other = key
      · simp [hkey]
      · simp [hkey]

theorem get?_insertMany (entries : List (String × String)) (m : TextMap) (key : String) :
    (m.insertMany entries).get? key = (lastOf? key entries).or (m.get? key) := by
  induction entries generalizing m with
  | nil => rfl
  | cons entry entries ih =>
      have hstep : m.insertMany (entry :: entries) =
          (m.insert entry.1 entry.2).insertMany entries := rfl
      rw [hstep, ih, get?_insert, lastOf?_cons, Option.or_assoc]
      by_cases hkey : key = entry.1
      · simp [hkey]
      · simp [hkey, Ne.symm hkey]

theorem insertMany_append (m : TextMap) (xs ys : List (String × String)) :
    m.insertMany (xs ++ ys) = (m.insertMany xs).insertMany ys := List.foldl_append

theorem get?_ofList (entries : List (String × String)) (key : String) :
    (ofList entries).get? key = lastOf? key entries := by
  rw [ofList, get?_insertMany, get?_empty, Option.or_none]

theorem valueOf?_eq_lastOf? {entries : List (String × String)}
    (h : entries.Pairwise fun a b => a.1 ≠ b.1) (key : String) :
    valueOf? key entries = lastOf? key entries := by
  induction entries with
  | nil => rfl
  | cons entry entries ih =>
      obtain ⟨hfirst, hrest⟩ := List.pairwise_cons.mp h
      rw [lastOf?_cons, valueOf?, ih hrest]
      by_cases hkey : key = entry.1
      · have hnone : lastOf? key entries = none :=
          lastOf?_eq_none fun other hother heq => hfirst other hother (hkey ▸ heq.symm)
        rw [hnone, if_pos hkey, if_pos hkey.symm, Option.none_or]
      · rw [if_neg hkey, if_neg (Ne.symm hkey), Option.or_none]

theorem valueOf?_perm {xs ys : List (String × String)} (hperm : xs.Perm ys)
    (h : xs.Pairwise fun a b => a.1 ≠ b.1) (key : String) : valueOf? key xs = valueOf? key ys := by
  rw [valueOf?_eq_lastOf? h, valueOf?_eq_lastOf? (hperm.pairwise h Ne.symm), lastOf?_perm hperm h]

theorem ofList_perm {xs ys : List (String × String)} (hperm : xs.Perm ys)
    (h : xs.Pairwise fun a b => a.1 ≠ b.1) : ofList xs = ofList ys :=
  ext_get? fun key => by rw [get?_ofList, get?_ofList, lastOf?_perm hperm h]

theorem lastOf?_toList (m : TextMap) (key : String) : lastOf? key m.toList = m.get? key := by
  have hkeys : m.toList.Pairwise fun a b => a.1 ≠ b.1 := m.sorted.imp String.ne_of_lt
  exact (valueOf?_eq_lastOf? hkeys key).symm

theorem toList_ofList_perm {entries : List (String × String)}
    (h : entries.Pairwise fun a b => a.1 ≠ b.1) : (ofList entries).toList.Perm entries := by
  have hnodup : entries.Nodup := h.imp fun hne heq => hne (congrArg Prod.fst heq)
  rw [List.perm_ext_iff_of_nodup (nodup_of_sorted (ofList entries).sorted) hnodup]
  intro entry
  have hget : (ofList entries).get? entry.1 = some entry.2 ↔ entry ∈ (ofList entries).toList :=
    get?_eq_some_iff
  rw [← hget, get?_ofList, lastOf?_eq_some_iff h]

@[simp] theorem ofList_toList (m : TextMap) : ofList m.toList = m :=
  ext_get? fun key => by rw [get?_ofList, lastOf?_toList]

theorem get?_insertIfNew (m : TextMap) (key value other : String) :
    (m.insertIfNew key value).get? other =
      (m.get? other).or (if other = key then some value else none) := by
  rw [insertIfNew, contains]
  cases hvalue : m.get? key with
  | none =>
      rw [Option.isSome_none, if_neg Bool.false_ne_true, get?_insert]
      split
      · rename_i hkey
        rw [hkey, hvalue, Option.none_or]
      · rw [Option.or_none]
  | some found =>
      rw [Option.isSome_some, if_pos rfl]
      split
      · rename_i hkey
        rw [hkey, hvalue, Option.some_or]
      · rw [Option.or_none]

theorem get?_unionNew (m other : TextMap) (key : String) :
    (m.unionNew other).get? key = (m.get? key).or (other.get? key) := by
  have hfold (entries : List (String × String)) (m : TextMap) :
      (entries.foldl (fun m entry => m.insertIfNew entry.1 entry.2) m).get? key =
        (m.get? key).or (valueOf? key entries) := by
    induction entries generalizing m with
    | nil => exact Option.or_none.symm
    | cons entry entries ih =>
        rw [List.foldl_cons, ih, get?_insertIfNew, Option.or_assoc, valueOf?]
        split <;> rfl
  exact hfold other.toList m

@[simp] theorem empty_unionNew (m : TextMap) : (∅ : TextMap).unionNew m = m :=
  ext_get? fun key => by rw [get?_unionNew, get?_empty, Option.none_or]

@[simp] theorem union_empty (m : TextMap) : m.union ∅ = m := rfl

@[simp] theorem unionNew_empty (m : TextMap) : m.unionNew ∅ = m := rfl

@[simp] theorem empty_union (m : TextMap) : (∅ : TextMap).union m = m := m.ofList_toList

end TextMap

namespace PropagationTags

theorem eq_of_tags {p q : PropagationTags} (htags : p.tags = q.tags)
    (hstate : p.tracestate = q.tracestate) : p = q := by
  cases p
  cases q
  simp_all

theorem ext_get? {p q : PropagationTags} (htags : ∀ key, p.get? key = q.get? key)
    (hstate : p.tracestate = q.tracestate) : p = q :=
  eq_of_tags (TextMap.ext_get? htags) hstate

theorem tags_insert {key : String} (h : isPropagated key = true) (p : PropagationTags)
    (value : String) : (p.insert key value).tags = p.tags.insert key value := by
  rw [insert, dif_pos h]

theorem tags_insertMany {entries : List (String × String)}
    (h : ∀ entry ∈ entries, isPropagated entry.1 = true) (p : PropagationTags) :
    (p.insertMany entries).tags = p.tags.insertMany entries := by
  induction entries generalizing p with
  | nil => rfl
  | cons entry entries ih =>
      have hstep : p.insertMany (entry :: entries) =
          (p.insert entry.1 entry.2).insertMany entries := rfl
      rw [hstep, ih fun other hother => h other (List.mem_cons_of_mem _ hother),
        tags_insert (h entry List.mem_cons_self)]
      rfl

theorem tracestate_insert (p : PropagationTags) (key value : String) :
    (p.insert key value).tracestate = p.tracestate := by
  rw [insert]
  split <;> rfl

theorem tracestate_insertMany (entries : List (String × String)) (p : PropagationTags) :
    (p.insertMany entries).tracestate = p.tracestate := by
  induction entries generalizing p with
  | nil => rfl
  | cons entry entries ih =>
      have hstep : p.insertMany (entry :: entries) =
          (p.insert entry.1 entry.2).insertMany entries := rfl
      rw [hstep, ih, tracestate_insert]

theorem get?_insert {key : String} (hkey : isPropagated key = true) (p : PropagationTags)
    (name value : String) :
    (p.insert name value).get? key = if key = name then some value else p.get? key := by
  rw [insert]
  split
  · exact TextMap.get?_insert p.tags name value key
  · rename_i hname
    have hne : ¬ key = name := by
      rintro rfl
      exact hname hkey
    rw [if_neg hne]

theorem get?_insert_propagated {name : String} (hname : isPropagated name = true)
    (p : PropagationTags) (value key : String) :
    (p.insert name value).get? key = if key = name then some value else p.get? key := by
  rw [get?, tags_insert hname]
  exact TextMap.get?_insert p.tags name value key

theorem get?_erase (p : PropagationTags) (key other : String) :
    (p.erase key).get? other = if other = key then none else p.get? other :=
  TextMap.get?_erase p.tags key other

theorem get?_ofList {key : String} (hkey : isPropagated key = true)
    (entries : List (String × String)) : (ofList entries).get? key = lastOf? key entries := by
  have hmany (p : PropagationTags) :
      (p.insertMany entries).get? key = (lastOf? key entries).or (p.get? key) := by
    induction entries generalizing p with
    | nil => rfl
    | cons entry entries ih =>
        have hstep : p.insertMany (entry :: entries) =
            (p.insert entry.1 entry.2).insertMany entries := rfl
        rw [hstep, ih, get?_insert hkey, lastOf?_cons, Option.or_assoc]
        by_cases hname : key = entry.1
        · rw [if_pos hname, if_pos hname.symm, Option.some_or]
        · rw [if_neg hname, if_neg (Ne.symm hname), Option.none_or]
  exact (hmany ∅).trans Option.or_none

theorem get?_eq_none {key : String} (h : ¬ isPropagated key = true) (p : PropagationTags) :
    p.get? key = none := by
  rw [Option.eq_none_iff_forall_ne_some]
  intro value hvalue
  exact h (p.propagated (key, value) (TextMap.get?_eq_some_iff.mp hvalue))

theorem ofList_append (xs ys : List (String × String)) :
    ofList (xs ++ ys) = (ofList xs).insertMany ys := List.foldl_append

theorem ofList_tags (p : PropagationTags) : ofList p.tags.toList = p.setTracestate none :=
  eq_of_tags ((tags_insertMany p.propagated ∅).trans (TextMap.ofList_toList p.tags))
    (tracestate_insertMany p.tags.toList ∅)

end PropagationTags

end TraceHeaders
