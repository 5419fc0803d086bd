import TraceHeaders.Carrier
import TraceHeaders.Proofs.Headers
import TraceHeaders.Proofs.Text.LowerCase
import TraceHeaders.Proofs.TextMap

namespace TraceHeaders.Carrier

theorem setAll_of_append {hold : List Header → Carrier}
    (h : ∀ entries header, (hold entries).set header = hold (entries ++ [header]))
    (entries headers : List Header) :
    (hold entries).setAll headers = hold (entries ++ headers) := by
  induction headers generalizing entries with
  | nil => rw [List.append_nil]; rfl
  | cons header headers ih =>
      have hstep : (hold entries).setAll (header :: headers) =
          ((hold entries).set header).setAll headers := rfl
      rw [hstep, h, ih, List.append_assoc, List.singleton_append]

theorem setAll_list (entries headers : List Header) :
    (Carrier.list entries).setAll headers = .list (entries ++ headers) :=
  setAll_of_append (fun _ _ => rfl) entries headers

theorem setAll_map (entries : TextMap) (headers : List Header) :
    (Carrier.map entries).setAll headers =
      .map (entries.insertMany (headers.map fun header => (Text.lower header.name, header.value))) := by
  induction headers generalizing entries with
  | nil => rfl
  | cons header headers ih => exact ih _

/-- Headers were written to a carrier in their order.  A list keeps all of them behind what it held
before, and a map keeps the last value written under each lowercase name. -/
def Took (writes : List Header) : Carrier → Carrier → Prop
  | .list before, .list after => after = before ++ writes
  | .keyed before, .keyed after => after = before ++ writes
  | .map before, .map after => ∀ name, after.get? name =
      (lastOf? name (writes.map fun header => (Text.lower header.name, header.value))).or
        (before.get? name)
  | _, _ => False

theorem took_setAll (writes : List Header) (carrier : Carrier) :
    Took writes carrier (carrier.setAll writes) := by
  cases carrier with
  | list headers =>
      rw [setAll_list]
      rfl
  | map headers =>
      rw [setAll_map]
      exact TextMap.get?_insertMany _ headers
  | keyed headers =>
      rw [setAll_of_append (fun _ _ => rfl) headers writes]
      rfl

/-- Only headers of some names were written to a carrier.  A list still holds what it held, and behind
it only such headers; a map is unchanged but for the lowercase forms of these names. -/
def AddsOnly (named : String → Prop) : Carrier → Carrier → Prop
  | .list before, .list after =>
      ∃ added, after = before ++ added ∧ ∀ header ∈ added, named header.name
  | .keyed before, .keyed after =>
      ∃ added, after = before ++ added ∧ ∀ header ∈ added, named header.name
  | .map before, .map after =>
      ∀ key, (∀ name, named name → Text.lower name ≠ key) → after.get? key = before.get? key
  | _, _ => False

theorem addsOnly_setAll {named : String → Prop} {writes : List Header}
    (h : ∀ header ∈ writes, named header.name) (carrier : Carrier) :
    AddsOnly named carrier (carrier.setAll writes) := by
  have htook := took_setAll writes carrier
  cases carrier with
  | list headers =>
      rw [setAll_list]
      exact ⟨writes, rfl, h⟩
  | keyed headers =>
      rw [setAll_of_append (fun _ _ => rfl) headers writes]
      exact ⟨writes, rfl, h⟩
  | map headers =>
      rw [setAll_map] at htook ⊢
      intro key hkey
      refine (htook key).trans ?_
      rw [lastOf?_eq_none, Option.none_or]
      intro entry hentry
      obtain ⟨header, hheader, rfl⟩ := List.mem_map.mp hentry
      exact hkey header.name (h header hheader)

theorem get?_headers_map {entries : TextMap}
    (h : ∀ entry ∈ entries.toList, Text.lowerAscii entry.1 = entry.1) (name : String) :
    (Carrier.map entries).headers.get? name = entries.get? (Text.lowerAscii name) := by
  have hlist : ∀ list : List (String × String),
      (∀ entry ∈ list, Text.lowerAscii entry.1 = entry.1) →
      Headers.get? ⟨list.map fun entry => ⟨entry.1, entry.2⟩⟩ name =
        TextMap.valueOf? (Text.lowerAscii name) list := by
    intro list hlower
    induction list with
    | nil => rfl
    | cons entry list ih =>
        obtain ⟨hfirst, hrest⟩ := List.forall_mem_cons.mp hlower
        have hnamed : Header.isNamed ⟨entry.1, entry.2⟩ name = true ↔
            Text.lowerAscii name = entry.1 := by
          rw [Header.isNamed, Text.sameIgnoringCase_iff, hfirst, eq_comm]
        rw [List.map_cons, Headers.get?_cons, TextMap.valueOf?, ih hrest]
        simp only [hnamed]
  exact hlist entries.toList h

theorem get?_headers_setAll_map (writes : List Header) (name : String) :
    ((Carrier.map ∅).setAll writes).headers.get? name =
      lastOf? (Text.lowerAscii name)
        (writes.map fun header => (Text.lower header.name, header.value)) := by
  have hmap : (Carrier.map ∅).setAll writes = .map (.ofList
      (writes.map fun header => (Text.lower header.name, header.value))) := setAll_map ∅ writes
  rw [hmap, get?_headers_map, TextMap.get?_ofList]
  intro entry hentry
  rw [← TextMap.get?_eq_some_iff, TextMap.get?_ofList] at hentry
  obtain ⟨header, _, heq⟩ := List.mem_map.mp (mem_of_lastOf? hentry)
  rw [← congrArg Prod.fst heq, Text.lowerAscii_lower]

/-- A map that was filled from a list of headers. -/
def ofHeaders (headers : List Header) : Carrier :=
  .map (.ofList (headers.map fun header => (header.name, header.value)))

theorem toList_ofHeaders_perm {headers : List Header}
    (h : headers.Pairwise fun a b => a.name ≠ b.name) : (ofHeaders headers).toList.Perm headers := by
  have hentries : (TextMap.ofList (headers.map fun header => (header.name, header.value))).toList.Perm
      (headers.map fun header => (header.name, header.value)) :=
    TextMap.toList_ofList_perm (List.pairwise_map.mpr h)
  have hmap := hentries.map fun entry => Header.mk entry.1 entry.2
  rw [List.map_map] at hmap
  exact hmap.trans (List.Perm.of_eq (List.map_id headers))

theorem firstValue?_of_mem {headers : List Header}
    (h : headers.Pairwise fun a b => a.name ≠ b.name) {header : Header} (hmem : header ∈ headers) :
    firstValue? header.name headers = some header.value := by
  induction headers with
  | nil => exact absurd hmem List.not_mem_nil
  | cons first headers ih =>
      obtain ⟨hfirst, hrest⟩ := List.pairwise_cons.mp h
      rw [firstValue?, List.find?_cons]
      rcases List.mem_cons.mp hmem with rfl | hmem
      · rw [beq_self_eq_true]
        rfl
      · rw [beq_false_of_ne (hfirst header hmem)]
        exact ih hrest hmem

theorem toList_keyed {headers : List Header} (h : headers.Pairwise fun a b => a.name ≠ b.name) :
    (keyed headers).toList = headers := by
  have hall : ∀ header ∈ headers,
      (firstValue? header.name headers).map (Header.mk header.name ·) = some header := by
    intro header hmem
    rw [firstValue?_of_mem h hmem]
    rfl
  rw [toList, List.filterMap_congr hall, List.filterMap_some]

end TraceHeaders.Carrier
