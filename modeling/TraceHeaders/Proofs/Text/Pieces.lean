import Mathlib.Algebra.GroupWithZero.Nat
import Mathlib.Data.List.Basic
import Mathlib.Data.List.TakeWhile
import TraceHeaders.Text.Ascii
import TraceHeaders.Text.Blank
import TraceHeaders.Text.Pieces

namespace TraceHeaders.Text

theorem isBlank_eq_false_of_isPrintableAscii {c : Char} (h : isPrintableAscii c = true)
    (hne : c ≠ ' ') : isBlank c = false := by
  have hcode : c.toNat ≠ 0x20 := fun heq => hne (Char.toNat_inj.mp heq)
  simp only [isPrintableAscii, Bool.and_eq_true, decide_eq_true_eq] at h
  simp only [isBlank, Bool.or_eq_false_iff, Bool.and_eq_false_iff, decide_eq_false_iff_not,
    beq_eq_false_iff_ne]
  omega

/-- A text that starts with a character other than white space. -/
def StartsSolid (cs : List Char) : Prop := ∃ c rest, cs = c :: rest ∧ isBlank c = false

def EndsSolid (cs : List Char) : Prop := StartsSolid cs.reverse

theorem StartsSolid.append {cs : List Char} (h : StartsSolid cs) (ds : List Char) :
    StartsSolid (cs ++ ds) := by
  obtain ⟨c, rest, rfl, hc⟩ := h
  exact ⟨c, rest ++ ds, rfl, hc⟩

theorem EndsSolid.append_left {ds : List Char} (h : EndsSolid ds) (cs : List Char) :
    EndsSolid (cs ++ ds) := by
  rw [EndsSolid, List.reverse_append]
  exact StartsSolid.append h cs.reverse

theorem startsSolid_of_all {cs : List Char} (hne : cs ≠ []) (h : ∀ c ∈ cs, isBlank c = false) :
    StartsSolid cs := by
  cases cs with
  | nil => exact absurd rfl hne
  | cons c rest => exact ⟨c, rest, rfl, h c List.mem_cons_self⟩

theorem endsSolid_of_all {cs : List Char} (hne : cs ≠ []) (h : ∀ c ∈ cs, isBlank c = false) :
    EndsSolid cs :=
  startsSolid_of_all (by simpa using hne) fun c hc => h c (List.mem_reverse.mp hc)

theorem StartsSolid.dropWhile_eq {cs : List Char} (h : StartsSolid cs) :
    cs.dropWhile isBlank = cs := by
  obtain ⟨c, rest, rfl, hc⟩ := h
  simp [hc]

theorem trimChars_eq_self {cs : List Char} (hstart : StartsSolid cs) (hend : EndsSolid cs) :
    trimChars cs = cs := by
  rw [trimChars, hstart.dropWhile_eq, StartsSolid.dropWhile_eq hend, List.reverse_reverse]

theorem trim_eq_self {s : String} (hstart : StartsSolid s.toList) (hend : EndsSolid s.toList) :
    trim s = s := by
  rw [trim, trimChars_eq_self hstart hend, String.ofList_toList]

theorem trim_of_all {s : String} (h : ∀ c ∈ s.toList, isBlank c = false) : trim s = s := by
  by_cases hne : s.toList = []
  · rw [String.toList_eq_nil_iff.mp hne]
    rfl
  · exact trim_eq_self (startsSolid_of_all hne h) (endsSolid_of_all hne h)

theorem mem_of_mem_trimChars {cs : List Char} {c : Char} (h : c ∈ trimChars cs) : c ∈ cs := by
  have h := (List.dropWhile_suffix isBlank).subset (List.mem_reverse.mp h)
  exact (List.dropWhile_suffix isBlank).subset (List.mem_reverse.mp h)

theorem startsSolid_dropWhile {cs : List Char} (hne : cs.dropWhile isBlank ≠ []) :
    StartsSolid (cs.dropWhile isBlank) := by
  cases h : cs.dropWhile isBlank with
  | nil => exact absurd h hne
  | cons c rest =>
      have hhead := List.head_dropWhile_not isBlank hne
      simp only [h, List.head_cons] at hhead
      exact ⟨c, rest, rfl, by simpa using hhead⟩

theorem trimChars_of_startsSolid {cs : List Char} (h : StartsSolid cs) :
    trimChars cs = (cs.reverse.dropWhile isBlank).reverse := by
  rw [trimChars, h.dropWhile_eq]

theorem trimChars_append {cs ds : List Char} (hcs : StartsSolid cs) (hds : StartsSolid ds) :
    trimChars (cs ++ ds) = cs ++ trimChars ds := by
  have hne : ds.reverse.dropWhile isBlank ≠ [] := by
    obtain ⟨d, rest, rfl, hd⟩ := hds
    intro hnil
    have hblank := List.dropWhile_eq_nil_iff.mp hnil d (by simp)
    rw [hd] at hblank
    exact Bool.false_ne_true hblank
  rw [trimChars_of_startsSolid (hcs.append ds), trimChars_of_startsSolid hds, List.reverse_append,
    List.dropWhile_append, if_neg (by simpa using hne)]
  simp

def trimEnd (s : String) : String := String.ofList (s.toList.reverse.dropWhile isBlank).reverse

theorem trim_append {start : String} (hstart : StartsSolid start.toList)
    (hend : EndsSolid start.toList) (rest : String) :
    trim (start ++ rest) = start ++ trimEnd rest := by
  have hkeep : start.toList.reverse.dropWhile isBlank = start.toList.reverse :=
    StartsSolid.dropWhile_eq hend
  have hsolid : StartsSolid (start ++ rest).toList := by
    rw [String.toList_append]
    exact hstart.append rest.toList
  rw [trim, trimChars_of_startsSolid hsolid, ← String.toList_inj, String.toList_ofList,
    String.toList_append, String.toList_append, trimEnd, String.toList_ofList, List.reverse_append,
    List.dropWhile_append, hkeep]
  split
  · rename_i hnil
    rw [List.isEmpty_iff.mp hnil, List.reverse_nil, List.append_nil, List.reverse_reverse]
  · rw [List.reverse_append, List.reverse_reverse]

theorem trimEnd_eq_self {s : String} (h : ∀ c, s.toList.getLast? = some c → isBlank c = false) :
    trimEnd s = s := by
  rcases List.eq_nil_or_concat s.toList with hnil | ⟨cs, c, hcs⟩
  · rw [trimEnd, hnil, ← String.toList_inj, String.toList_ofList, hnil]
    rfl
  · rw [List.concat_eq_append] at hcs
    have hc : isBlank c = false := h c (by rw [hcs, List.getLast?_concat])
    rw [trimEnd, hcs, List.reverse_concat, List.dropWhile_cons_of_neg (by simp [hc]),
      List.reverse_cons, List.reverse_reverse, ← hcs, String.ofList_toList]

theorem length_trimEnd_lt {s : String} {c : Char} (h : s.toList.getLast? = some c)
    (hc : isBlank c = true) : (trimEnd s).toList.length < s.toList.length := by
  obtain ⟨cs, hcs⟩ := List.getLast?_eq_some_iff.mp h
  have hle := (List.dropWhile_suffix isBlank (l := cs.reverse)).length_le
  rw [trimEnd, hcs, List.reverse_append, List.reverse_singleton, List.singleton_append,
    List.dropWhile_cons_of_pos hc, String.toList_ofList, List.length_reverse, List.length_append,
    List.length_singleton]
  rw [List.length_reverse] at hle
  omega

theorem solid_trimChars {cs : List Char} (h : trimChars cs ≠ []) :
    StartsSolid (trimChars cs) ∧ EndsSolid (trimChars cs) := by
  have hend : EndsSolid (trimChars cs) := by
    rw [EndsSolid, trimChars, List.reverse_reverse]
    exact startsSolid_dropWhile fun hdrop => h (by rw [trimChars, hdrop, List.reverse_nil])
  have hstart : StartsSolid (trimChars cs) := by
    have hdrop : cs.dropWhile isBlank ≠ [] := fun hdrop => h (by simp [trimChars, hdrop])
    obtain ⟨c, rest, hcs, hc⟩ := startsSolid_dropWhile hdrop
    have hprefix : trimChars cs <+: c :: rest := by
      rw [trimChars, hcs, ← List.reverse_suffix, List.reverse_reverse]
      exact List.dropWhile_suffix isBlank
    cases htrim : trimChars cs with
    | nil => exact absurd htrim h
    | cons d more =>
        rw [htrim, List.cons_prefix_cons] at hprefix
        exact ⟨d, more, rfl, hprefix.1 ▸ hc⟩
  exact ⟨hstart, hend⟩

theorem trimChars_trimChars (cs : List Char) : trimChars (trimChars cs) = trimChars cs := by
  by_cases hnil : trimChars cs = []
  · rw [hnil]
    rfl
  · obtain ⟨hstart, hend⟩ := solid_trimChars hnil
    exact trimChars_eq_self hstart hend

@[simp] theorem trim_trim (s : String) : trim (trim s) = trim s := by
  rw [trim, toList_trim, trimChars_trimChars, trim]

theorem mem_of_mem_trim {s : String} {c : Char} (h : c ∈ (trim s).toList) : c ∈ s.toList := by
  rw [toList_trim] at h
  exact mem_of_mem_trimChars h

theorem pieces_intercalate {separator : Char} {glue : String} {xs : List String}
    (hglue : glue.toList = [separator]) (hne : xs ≠ [])
    (h : ∀ x ∈ xs, separator ∉ x.toList) : pieces separator (glue.intercalate xs) = xs := by
  have hparts : ∀ part ∈ xs.map String.toList, separator ∉ part := by
    intro part hpart
    obtain ⟨x, hx, rfl⟩ := List.mem_map.mp hpart
    exact h x hx
  rw [pieces, String.toList_intercalate, hglue,
    List.splitOn_intercalate separator hparts (by simpa using hne), List.map_map]
  simp [Function.comp_def]

theorem pieces_eq_singleton {separator : Char} {s : String} (h : separator ∉ s.toList) :
    pieces separator s = [s] := by
  rw [pieces, List.splitOn_eq_singleton h]
  simp

theorem pieces_append {separator : Char} {glue : String} (hglue : glue.toList = [separator])
    (s t : String) :
    pieces separator (s ++ glue ++ t) = pieces separator s ++ pieces separator t := by
  rw [pieces, String.toList_append, String.toList_append, hglue, List.append_assoc,
    List.singleton_append, List.splitOn_append_cons_self, List.map_append]
  rfl

theorem pieces_intercalate_eq_flatMap {separator : Char} {glue : String}
    (hglue : glue.toList = [separator]) {xs : List String} (hne : xs ≠ []) :
    pieces separator (glue.intercalate xs) = xs.flatMap (pieces separator) := by
  induction xs with
  | nil => exact absurd rfl hne
  | cons x xs ih =>
      cases xs with
      | nil => simp
      | cons y ys =>
          rw [String.intercalate_cons_cons, pieces_append hglue, ih (List.cons_ne_nil y ys)]
          rfl

theorem intercalate_pieces {separator : Char} {glue : String} (hglue : glue.toList = [separator])
    (s : String) : glue.intercalate (pieces separator s) = s := by
  have hmap : (pieces separator s).map String.toList = s.toList.splitOn separator := by
    simp [pieces, Function.comp_def]
  rw [← String.toList_inj, String.toList_intercalate, hmap, hglue, List.intercalate_splitOn]

theorem not_mem_intercalate {c : Char} {glue : String} {xs : List String} (hglue : c ∉ glue.toList)
    (h : ∀ x ∈ xs, c ∉ x.toList) : c ∉ (glue.intercalate xs).toList := by
  induction xs with
  | nil => exact List.not_mem_nil
  | cons x xs ih =>
      have hrest := ih fun y hy => h y (List.mem_cons_of_mem x hy)
      cases xs with
      | nil => simpa using h x List.mem_cons_self
      | cons y ys =>
          rw [String.intercalate_cons_cons, String.toList_append, String.toList_append,
            List.mem_append, List.mem_append, not_or, not_or]
          exact ⟨⟨h x List.mem_cons_self, hglue⟩, hrest⟩

theorem utf8ByteSize_intercalate (glue : String) {xs : List String} (hne : xs ≠ []) :
    (glue.intercalate xs).utf8ByteSize + glue.utf8ByteSize =
      (xs.map fun x => x.utf8ByteSize + glue.utf8ByteSize).sum := by
  induction xs with
  | nil => exact absurd rfl hne
  | cons x xs ih =>
      cases xs with
      | nil => simp
      | cons y ys =>
          rw [String.intercalate_cons_cons, String.utf8ByteSize_append, String.utf8ByteSize_append,
            Nat.add_assoc, ih (List.cons_ne_nil y ys)]
          exact List.sum_cons.symm

def trimLast : List String → List String
  | [] => []
  | [x] => [trim x]
  | x :: y :: ys => x :: trimLast (y :: ys)

theorem trimLast_ne_nil {xs : List String} (h : xs ≠ []) : trimLast xs ≠ [] := by
  match xs with
  | [] => exact absurd rfl h
  | [x] => exact List.cons_ne_nil (trim x) []
  | x :: y :: ys => exact List.cons_ne_nil x (trimLast (y :: ys))

theorem trimLast_cons {x : String} (h : trim x = x) (xs : List String) :
    trimLast (x :: xs) = x :: trimLast xs := by
  cases xs with
  | nil => simp [trimLast, h]
  | cons y ys => rw [trimLast]

theorem mem_trimLast {xs : List String} {x : String} (h : x ∈ trimLast xs) :
    x ∈ xs ∨ ∃ y ∈ xs, x = trim y := by
  induction xs with
  | nil => exact .inl h
  | cons y ys ih =>
      cases ys with
      | nil => exact .inr ⟨y, List.mem_cons_self, List.mem_singleton.mp h⟩
      | cons z zs =>
          rw [trimLast] at h
          rcases List.mem_cons.mp h with rfl | h
          · exact .inl List.mem_cons_self
          · rcases ih h with h | ⟨w, hw, rfl⟩
            · exact .inl (List.mem_cons_of_mem y h)
            · exact .inr ⟨w, List.mem_cons_of_mem y hw, rfl⟩

theorem trimLast_append (xs : List String) {ys : List String} (h : ys ≠ []) :
    trimLast (xs ++ ys) = xs ++ trimLast ys := by
  induction xs with
  | nil => rfl
  | cons x xs ih =>
      have hne : xs ++ ys ≠ [] := List.append_ne_nil_of_right_ne_nil xs h
      obtain ⟨z, zs, hcons⟩ := List.exists_cons_of_ne_nil hne
      rw [List.cons_append, hcons, trimLast, ← hcons, ih]
      rfl

theorem trimLast_eq_self {xs : List String} (h : ∀ x ∈ xs, trim x = x) : trimLast xs = xs := by
  induction xs with
  | nil => rfl
  | cons x xs ih =>
      cases xs with
      | nil => rw [trimLast, h x List.mem_cons_self]
      | cons y ys => rw [trimLast, ih fun z hz => h z (List.mem_cons_of_mem x hz)]

/-- Trimming joined texts that all start without white space trims the last one. -/
theorem trim_intercalate (glue : String) {xs : List String}
    (hxs : ∀ x ∈ xs, StartsSolid x.toList) :
    trim (glue.intercalate xs) = glue.intercalate (trimLast xs) := by
  induction xs with
  | nil => rfl
  | cons x xs ih =>
      cases xs with
      | nil => simp [trimLast]
      | cons y ys =>
          have hx : StartsSolid (x ++ glue).toList := by
            rw [String.toList_append]
            exact (hxs x List.mem_cons_self).append glue.toList
          have hrest : StartsSolid (glue.intercalate (y :: ys)).toList := by
            have hy : StartsSolid y.toList := hxs y (by simp)
            cases ys with
            | nil => simpa using hy
            | cons z zs =>
                rw [String.intercalate_cons_cons, String.append_assoc, String.toList_append]
                exact hy.append _
          have htail := ih fun z hz => hxs z (List.mem_cons_of_mem x hz)
          rw [String.intercalate_cons_cons, trim, String.toList_append, trimChars_append hx hrest,
            trimLast, String.intercalate_cons_of_ne_nil (trimLast_ne_nil (List.cons_ne_nil y ys)),
            ← htail, trim, String.ofList_append, String.ofList_toList]

theorem not_mem_of_mem_splitOn {separator : Char} {cs piece : List Char}
    (h : piece ∈ cs.splitOn separator) : separator ∉ piece := by
  induction cs generalizing piece with
  | nil => simp_all
  | cons c cs ih =>
      rw [List.splitOn_cons_eq_if_modifyHead] at h
      split at h
      · rcases List.mem_cons.mp h with rfl | h
        · exact List.not_mem_nil
        · exact ih h
      · rename_i hc
        cases hrest : cs.splitOn separator with
        | nil => simp [hrest] at h
        | cons first rest =>
            rw [hrest, List.modifyHead_cons] at h
            rcases List.mem_cons.mp h with rfl | h
            · have hfirst := @ih first (by simp [hrest])
              have hne : separator ≠ c := fun heq => hc (by simp [heq])
              simp [hne, hfirst]
            · exact ih (by simp [hrest, h])

theorem not_mem_of_mem_pieces {separator : Char} {s piece : String}
    (h : piece ∈ pieces separator s) : separator ∉ piece.toList := by
  obtain ⟨cs, hcs, rfl⟩ := List.mem_map.mp h
  rw [String.toList_ofList]
  exact not_mem_of_mem_splitOn hcs

theorem mem_of_mem_splitOn {separator c : Char} {cs piece : List Char}
    (h : piece ∈ cs.splitOn separator) (hc : c ∈ piece) : c ∈ cs := by
  induction cs generalizing piece with
  | nil => simp_all
  | cons d cs ih =>
      rw [List.splitOn_cons_eq_if_modifyHead] at h
      split at h
      · rcases List.mem_cons.mp h with rfl | h
        · exact absurd hc List.not_mem_nil
        · exact List.mem_cons_of_mem d (ih h hc)
      · cases hrest : cs.splitOn separator with
        | nil => simp [hrest] at h
        | cons first rest =>
            rw [hrest, List.modifyHead_cons] at h
            rcases List.mem_cons.mp h with rfl | h
            · rcases List.mem_cons.mp hc with rfl | hc
              · exact List.mem_cons_self
              · exact List.mem_cons_of_mem d (@ih first (by simp [hrest]) hc)
            · exact List.mem_cons_of_mem d (ih (by simp [hrest, h]) hc)

theorem mem_of_mem_pieces {separator c : Char} {s piece : String}
    (h : piece ∈ pieces separator s) (hc : c ∈ piece.toList) : c ∈ s.toList := by
  obtain ⟨cs, hcs, rfl⟩ := List.mem_map.mp h
  rw [String.toList_ofList] at hc
  exact mem_of_mem_splitOn hcs hc

theorem cut?_append {separator : Char} {glue before : String} (hglue : glue.toList = [separator])
    (h : separator ∉ before.toList) (after : String) :
    cut? separator (before ++ glue ++ after) = some (before, after) := by
  have hcut : cutChars? separator (before ++ glue ++ after).toList =
      some (before.toList, after.toList) := by
    rw [cutChars?_eq_some_iff]
    exact ⟨h, by simp [hglue]⟩
  rw [cut?, hcut]
  simp

theorem pieces_append_left {separator : Char} {start : String} (h : separator ∉ start.toList)
    (rest : String) : ∃ first others, pieces separator rest = first :: others ∧
      pieces separator (start ++ rest) = (start ++ first) :: others := by
  have hchars : ∀ cs : List Char, separator ∉ cs →
      (cs ++ rest.toList).splitOn separator =
        (rest.toList.splitOn separator).modifyHead (cs ++ ·) := by
    intro cs hcs
    induction cs with
    | nil =>
        rw [List.nil_append]
        cases rest.toList.splitOn separator <;> rfl
    | cons c cs ih =>
        have hne : ¬ (c == separator) = true := fun heq => hcs (by simp [beq_iff_eq.mp heq])
        rw [List.cons_append, List.splitOn_cons_eq_if_modifyHead, if_neg hne,
          ih fun hmem => hcs (List.mem_cons_of_mem c hmem)]
        cases rest.toList.splitOn separator <;> rfl
  obtain ⟨first, others, hrest⟩ := List.exists_cons_of_ne_nil
    (List.splitOn_ne_nil separator rest.toList)
  refine ⟨String.ofList first, others.map String.ofList, ?_, ?_⟩
  · rw [pieces, hrest]
    rfl
  · rw [pieces, String.toList_append, hchars _ h, hrest, List.modifyHead_cons, List.map_cons,
      String.ofList_append, String.ofList_toList]

theorem cut?_eq_none_iff {separator : Char} {s : String} :
    cut? separator s = none ↔ separator ∉ s.toList := by
  rw [cut?, Option.map_eq_none_iff, cutChars?_eq_none_iff]

theorem cut?_eq_some_iff {separator : Char} {s : String} {pair : String × String} :
    cut? separator s = some pair ↔
      separator ∉ pair.1.toList ∧ s = pair.1 ++ String.singleton separator ++ pair.2 := by
  rw [cut?, Option.map_eq_some_iff]
  constructor
  · rintro ⟨⟨before, after⟩, hcut, rfl⟩
    obtain ⟨hbefore, hs⟩ := cutChars?_eq_some_iff.mp hcut
    refine ⟨by rwa [String.toList_ofList], ?_⟩
    rw [← String.toList_inj, hs]
    simp
  · rintro ⟨hbefore, rfl⟩
    refine ⟨(pair.1.toList, pair.2.toList), ?_, by simp⟩
    rw [cutChars?_eq_some_iff]
    exact ⟨hbefore, by simp⟩

theorem cut?_append_left {separator : Char} {start : String} (h : separator ∉ start.toList)
    (rest : String) : cut? separator (start ++ rest) =
      (cut? separator rest).map fun pair => (start ++ pair.1, pair.2) := by
  have hchars : ∀ cs : List Char, separator ∉ cs → cutChars? separator (cs ++ rest.toList) =
      (cutChars? separator rest.toList).map fun pair => (cs ++ pair.1, pair.2) := by
    intro cs hcs
    induction cs with
    | nil => simp
    | cons c cs ih =>
        have hne : ¬ c = separator := fun heq => hcs (by simp [heq])
        rw [List.cons_append, cutChars?, if_neg hne,
          ih fun hmem => hcs (List.mem_cons_of_mem c hmem), Option.map_map]
        rfl
  rw [cut?, String.toList_append, hchars _ h, Option.map_map, cut?, Option.map_map]
  congr 1
  funext pair
  simp [String.ofList_append]

theorem after?_eq_some_iff {start s rest : String} :
    after? start s = some rest ↔ s = start ++ rest := by
  rw [after?, Option.map_eq_some_iff]
  constructor
  · rintro ⟨cs, hcs, rfl⟩
    rw [List.isPrefixOf?_eq_some_iff_append_eq] at hcs
    rw [← String.toList_inj, String.toList_append, String.toList_ofList, hcs]
  · rintro rfl
    refine ⟨rest.toList, ?_, String.ofList_toList⟩
    rw [List.isPrefixOf?_eq_some_iff_append_eq, String.toList_append]

@[simp] theorem after?_append (start rest : String) : after? start (start ++ rest) = some rest :=
  after?_eq_some_iff.mpr rfl

theorem begins_iff {start s : String} : begins start s = true ↔ ∃ rest, s = start ++ rest := by
  rw [begins, List.isPrefixOf_iff_prefix]
  constructor
  · rintro ⟨cs, hcs⟩
    exact ⟨String.ofList cs, by rw [← String.toList_inj, ← hcs]; simp⟩
  · rintro ⟨rest, rfl⟩
    exact ⟨rest.toList, by simp⟩

theorem after?_eq_none_iff {start s : String} : after? start s = none ↔ begins start s = false := by
  rw [← Bool.not_eq_true, begins_iff, Option.eq_none_iff_forall_ne_some]
  simp [after?_eq_some_iff]

theorem lowerAscii_append (a b : String) : lowerAscii (a ++ b) = lowerAscii a ++ lowerAscii b := by
  rw [lowerAscii, String.toList_append, List.map_append, String.ofList_append]
  rfl

theorem toLower_eq_self {c : Char} (h : c.isUpper = false) : c.toLower = c :=
  dif_neg (of_decide_eq_false h)

theorem lowerAscii_eq_self {s : String} (h : ∀ c ∈ s.toList, c.isUpper = false) :
    lowerAscii s = s := by
  rw [← String.toList_inj, toList_lowerAscii]
  exact (List.map_congr_left fun c hc => toLower_eq_self (h c hc)).trans (List.map_id s.toList)

theorem isUpper_toLower (c : Char) : c.toLower.isUpper = false := by
  cases hupper : c.isUpper with
  | false => rw [toLower_eq_self hupper, hupper]
  | true =>
      have hbounds := of_decide_eq_true hupper
      have hlower : c.toLower.toNat = c.toNat + 32 := by
        have hval : c.toLower.val = c.val + 32 := congrArg Char.val (dif_pos hbounds)
        have hle : c.toNat ≤ 90 := hbounds.2
        have hsum := congrArg UInt32.toNat hval
        rw [UInt32.toNat_add] at hsum
        have hsmall : c.toNat + 32 < 2 ^ 32 := by omega
        exact hsum.trans (Nat.mod_eq_of_lt hsmall)
      apply decide_eq_false
      rintro ⟨-, hle⟩
      have hge : 65 ≤ c.toNat := hbounds.1
      have hle : c.toLower.toNat ≤ 90 := hle
      omega

theorem toLower_toLower (c : Char) : c.toLower.toLower = c.toLower :=
  toLower_eq_self (isUpper_toLower c)

theorem lowerAscii_lowerAscii (s : String) : lowerAscii (lowerAscii s) = lowerAscii s := by
  rw [← String.toList_inj, toList_lowerAscii, toList_lowerAscii, List.map_map]
  exact List.map_congr_left fun c _ => toLower_toLower c

theorem lowerAscii_of_after? {start s rest : String} (h : after? start (lowerAscii s) = some rest) :
    lowerAscii rest = rest := by
  have hsplit := after?_eq_some_iff.mp h
  have hfix := lowerAscii_lowerAscii s
  rw [hsplit, lowerAscii_append] at hfix
  have hlength : (lowerAscii start).toList.length = start.toList.length := by simp
  have hlists := congrArg String.toList hfix
  rw [String.toList_append, String.toList_append] at hlists
  exact String.toList_inj.mp (List.append_inj hlists hlength).2

end TraceHeaders.Text
