import Mathlib.Algebra.GroupWithZero.Nat
import TraceHeaders.Text.Ascii
import TraceHeaders.Text.Pieces

namespace TraceHeaders.Text

variable {n : Nat} {s : String}

/-- A text is cut after some bytes: it has a position there, and what follows it is what is kept. -/
def IsCutAfter (n : Nat) (s : String) : Prop :=
  ∃ place : s.Pos, place.offset.byteIdx = n ∧
    dropBytes? n s = some (s.sliceFrom place).copy

theorem dropBytesChars?_eq_some_iff {cs after : List Char} :
    dropBytesChars? n cs = some after ↔
      ∃ before, cs = before ++ after ∧ (String.ofList before).utf8ByteSize = n := by
  fun_induction dropBytesChars? n cs with
  | case1 cs =>
      constructor
      · rintro ⟨⟩
        exact ⟨[], rfl, rfl⟩
      · rintro ⟨before, rfl, hsize⟩
        rw [String.utf8ByteSize_eq_zero_iff, String.ofList_eq_empty_iff] at hsize
        rw [hsize]
        rfl
  | case2 n =>
      refine iff_of_false nofun ?_
      rintro ⟨before, hnil, hsize⟩
      rw [(List.nil_eq_append_iff.mp hnil).1] at hsize
      exact absurd hsize (Nat.succ_ne_zero n).symm
  | case3 n c cs hfits ih =>
      rw [ih]
      constructor
      · rintro ⟨before, rfl, hsize⟩
        refine ⟨c :: before, rfl, ?_⟩
        rw [utf8ByteSize_ofList_cons, hsize, Nat.add_sub_cancel' hfits]
      · rintro ⟨before, hcs, hsize⟩
        cases before with
        | nil => exact absurd hsize (Nat.succ_ne_zero n).symm
        | cons b before =>
            obtain ⟨rfl, rfl⟩ := List.cons.inj hcs
            rw [utf8ByteSize_ofList_cons] at hsize
            exact ⟨before, rfl, Nat.eq_sub_of_add_eq' hsize⟩
  | case4 n c cs hstraddles =>
      refine iff_of_false nofun ?_
      rintro ⟨before, hcs, hsize⟩
      cases before with
      | nil => exact absurd hsize (Nat.succ_ne_zero n).symm
      | cons b before =>
          obtain ⟨rfl, -⟩ := List.cons.inj hcs
          rw [utf8ByteSize_ofList_cons] at hsize
          omega

theorem dropBytes?_eq_some_iff {after : String} :
    dropBytes? n s = some after ↔ ∃ before, s = before ++ after ∧ before.utf8ByteSize = n := by
  rw [dropBytes?, Option.map_eq_some_iff]
  constructor
  · rintro ⟨cs, hcs, rfl⟩
    obtain ⟨before, hbefore, hsize⟩ := dropBytesChars?_eq_some_iff.mp hcs
    refine ⟨String.ofList before, ?_, hsize⟩
    rw [← String.ofList_append, ← hbefore, String.ofList_toList]
  · rintro ⟨before, rfl, hsize⟩
    refine ⟨after.toList, dropBytesChars?_eq_some_iff.mpr ⟨before.toList, ?_, ?_⟩, ?_⟩
    · rw [String.toList_append]
    · rw [String.ofList_toList, hsize]
    · rw [String.ofList_toList]

theorem dropBytes?_pos (place : s.Pos) :
    dropBytes? place.offset.byteIdx s = some (s.sliceFrom place).copy := by
  refine dropBytes?_eq_some_iff.mpr ⟨(s.sliceTo place).copy, place.splits.eq_append, ?_⟩
  rw [place.splits.offset_eq_rawEndPos, String.byteIdx_rawEndPos]

theorem isCutAfter_iff_isValid : IsCutAfter n s ↔ (⟨n⟩ : String.Pos.Raw).IsValid s := by
  constructor
  · rintro ⟨place, rfl, -⟩
    exact place.isValid
  · intro hvalid
    exact ⟨s.pos ⟨n⟩ hvalid, rfl, dropBytes?_pos (s.pos ⟨n⟩ hvalid)⟩

theorem dropBytes?_eq_none_iff :
    dropBytes? n s = none ↔ ¬ (⟨n⟩ : String.Pos.Raw).IsValid s := by
  rw [← isCutAfter_iff_isValid, Option.eq_none_iff_forall_ne_some]
  constructor
  · rintro hnone ⟨place, -, hcut⟩
    exact hnone _ hcut
  · intro hinvalid after hcut
    obtain ⟨before, rfl, rfl⟩ := dropBytes?_eq_some_iff.mp hcut
    refine hinvalid (isCutAfter_iff_isValid.mpr ?_)
    exact String.Pos.Raw.isValid_iff_exists_append.mpr ⟨before, after, rfl, rfl⟩

theorem isCutAfter_append (before after : String) :
    IsCutAfter before.utf8ByteSize (before ++ after) :=
  isCutAfter_iff_isValid.mpr (String.Pos.Raw.isValid_iff_exists_append.mpr ⟨before, after, rfl, rfl⟩)

theorem utf8ByteSize_join (xs : List String) :
    (String.join xs).utf8ByteSize = (xs.map String.utf8ByteSize).sum := by
  induction xs with
  | nil => rfl
  | cons x xs ih =>
      rw [String.join_cons, String.utf8ByteSize_append, ih, List.map_cons, List.sum_cons]

/-- Joined texts may be cut behind any of them, whatever characters they end and begin with. -/
theorem isCutAfter_join {xs : List String} {sizes rest : List Nat}
    (h : xs.map String.utf8ByteSize = sizes ++ rest) : IsCutAfter sizes.sum (String.join xs) := by
  obtain ⟨before, after, rfl, rfl, -⟩ := List.map_eq_append_iff.mp h
  rw [String.join_append, ← utf8ByteSize_join]
  exact isCutAfter_append _ _

end TraceHeaders.Text
