import TraceHeaders.Proofs.Text.Pieces
import TraceHeaders.Proofs.Text.Utf8
import TraceHeaders.Text.LowerCase

/-!
The lowercase of all scripts beside that of ASCII.  It holds no uppercase letter of ASCII, it is the same
on texts of ASCII, and a plain name is the lowercase of its spellings in ASCII alone: of the characters
outside, the Kelvin sign is the only one that becomes a letter of ASCII and nothing else.
-/

namespace TraceHeaders.Text

/-- Where the runs outside of ASCII lead: to characters outside of ASCII, apart from the Kelvin sign. -/
theorem target_of_mem_caseRuns : ∀ run ∈ caseRuns, 128 ≤ run.last →
    (128 ≤ run.target ∨ run.target = 'k'.toNat ∧ run.first = run.last) ∧
      (run.target + (run.last - run.first)).isValidChar ∧
      (0xDFFF < run.target + (run.last - run.first) → 0xDFFF < run.target) := by
  decide +kernel

theorem CaseRun.lower?_of_not_ascii {run : CaseRun} (hrun : run ∈ caseRuns) {c d : Char}
    (hc : isAscii c = false) (h : run.lower? c = some d) : isAscii d = false ∨ d = 'k' := by
  rw [CaseRun.lower?] at h
  split at h
  · rename_i hinside
    simp only [Bool.and_eq_true, decide_eq_true_eq, beq_iff_eq] at hinside
    obtain ⟨⟨hfirst, hlast⟩, -⟩ := hinside
    have hcode : 128 ≤ c.toNat := by simpa [isAscii] using hc
    obtain ⟨htarget, hvalid, hhigh⟩ := target_of_mem_caseRuns run hrun (hcode.trans hlast)
    cases h
    rcases htarget with htarget | ⟨htarget, hsingle⟩
    · have hreached : (run.target + (c.toNat - run.first)).isValidChar := by
        simp only [Nat.isValidChar] at hvalid ⊢
        omega
      left
      rw [isAscii, toNat_ofNat_of_isValidChar hreached]
      simp only [decide_eq_false_iff_not]
      omega
    · right
      have hoffset : c.toNat - run.first = 0 := by omega
      rw [htarget, hoffset]
      rfl
  · cases h

theorem isUpper_eq_false_of_not_ascii {c : Char} (h : isAscii c = false) : c.isUpper = false := by
  have hcode : 128 ≤ c.toNat := by simpa [isAscii] using h
  apply decide_eq_false
  rintro ⟨-, hle⟩
  have hle : c.toNat ≤ 90 := hle
  omega

/-- A character outside of ASCII stays outside or is the Kelvin sign, but for the capital I with a dot,
of which the dot stays outside. -/
theorem lowerChar_of_not_ascii {c : Char} (h : isAscii c = false) :
    (∃ d, lowerChar c = [d] ∧ (isAscii d = false ∨ d = 'k')) ∨
      lowerChar c = ['i', Char.ofNat 0x307] := by
  rw [lowerChar, if_neg (by simp [h])]
  split
  · exact .inr rfl
  · refine .inl ⟨_, rfl, ?_⟩
    cases hrun : caseRuns.findSome? (·.lower? c) with
    | none => exact .inl h
    | some d =>
        obtain ⟨run, hmem, hlower⟩ := List.exists_of_findSome?_eq_some hrun
        exact run.lower?_of_not_ascii hmem h hlower

theorem isUpper_of_mem_lowerChar {c d : Char} (h : d ∈ lowerChar c) : d.isUpper = false := by
  cases hascii : isAscii c with
  | true =>
      rw [lowerChar, if_pos hascii, List.mem_singleton] at h
      rw [h, isUpper_toLower]
  | false =>
      rcases lowerChar_of_not_ascii hascii with ⟨e, hsingle, he⟩ | hdotted
      · rw [hsingle, List.mem_singleton] at h
        rw [h]
        rcases he with he | rfl
        · exact isUpper_eq_false_of_not_ascii he
        · decide
      · rw [hdotted, List.mem_cons, List.mem_singleton] at h
        rcases h with rfl | rfl
        · decide
        · decide

theorem isUpper_of_mem_lowerAfter {before cs : List Char} {d : Char} (h : d ∈ lowerAfter before cs) :
    d.isUpper = false := by
  have hfinal : 'ς'.isUpper = false := by decide
  have hsigma : 'σ'.isUpper = false := by decide
  induction cs generalizing before with
  | nil => exact absurd h List.not_mem_nil
  | cons c cs ih =>
      rw [lowerAfter, List.mem_append] at h
      rcases h with h | h
      · split at h
        · split at h
          · rwa [List.mem_singleton.mp h]
          · rwa [List.mem_singleton.mp h]
        · exact isUpper_of_mem_lowerChar h
      · exact ih h

theorem lowerAscii_lower (s : String) : lowerAscii (lower s) = lower s := by
  apply lowerAscii_eq_self
  intro c hc
  rw [lower, String.toList_ofList] at hc
  exact isUpper_of_mem_lowerAfter hc

/-- The characters of plain names: those of ASCII, without the letter that the Kelvin sign becomes. -/
def isPlain (c : Char) : Bool := isAscii c && c != 'k'

theorem toLower_of_not_ascii {c : Char} (h : isAscii c = false) : c.toLower = c :=
  toLower_eq_self (isUpper_eq_false_of_not_ascii h)

theorem lowerAfter_cons_ne {c : Char} (hc : isAscii c = false) (before cs : List Char)
    {ts : List Char} (hts : ∀ d ∈ ts, isPlain d = true) : lowerAfter before (c :: cs) ≠ ts := by
  have hplain (d : Char) (hd : isAscii d = false ∨ d = 'k') : d ∉ ts := by
    intro hmem
    have hallowed := hts d hmem
    rcases hd with hd | rfl
    · rw [isPlain, hd] at hallowed
      exact Bool.noConfusion hallowed
    · exact absurd hallowed (by decide)
  have hforeign : ∃ d, d ∈ lowerAfter before (c :: cs) ∧ (isAscii d = false ∨ d = 'k') := by
    rw [lowerAfter]
    split
    · split
      · exact ⟨'ς', List.mem_append_left _ List.mem_cons_self, .inl (by decide)⟩
      · exact ⟨'σ', List.mem_append_left _ List.mem_cons_self, .inl (by decide)⟩
    · rcases lowerChar_of_not_ascii hc with ⟨d, hsingle, hd⟩ | hdotted
      · rw [hsingle]
        exact ⟨d, List.mem_append_left _ List.mem_cons_self, hd⟩
      · rw [hdotted]
        exact ⟨Char.ofNat 0x307, List.mem_append_left _ (List.mem_cons_of_mem _ List.mem_cons_self),
          .inl (by decide)⟩
  rintro rfl
  obtain ⟨d, hmem, hd⟩ := hforeign
  exact hplain d hd hmem

theorem lowerAfter_cons_of_ascii {c : Char} (hc : isAscii c = true) (before cs : List Char) :
    lowerAfter before (c :: cs) = c.toLower :: lowerAfter (c :: before) cs := by
  have hsigma : c ≠ 'Σ' := by
    rintro rfl
    exact absurd hc (by decide)
  rw [lowerAfter, if_neg hsigma, lowerChar, if_pos hc]
  rfl

theorem lowerAfter_eq_iff (before cs : List Char) {ts : List Char}
    (hts : ∀ d ∈ ts, isPlain d = true) :
    lowerAfter before cs = ts ↔ cs.map Char.toLower = ts := by
  induction cs generalizing before ts with
  | nil => rfl
  | cons c cs ih =>
      cases hc : isAscii c with
      | true =>
          rw [lowerAfter_cons_of_ascii hc, List.map_cons]
          cases ts with
          | nil => simp
          | cons t ts =>
              rw [List.cons.injEq, List.cons.injEq,
                ih (c :: before) fun d hd => hts d (List.mem_cons_of_mem t hd)]
      | false =>
          refine iff_of_false (lowerAfter_cons_ne hc before cs hts) ?_
          rintro rfl
          have hmem : c ∈ (c :: cs).map Char.toLower := by
            rw [List.map_cons, toLower_of_not_ascii hc]
            exact List.mem_cons_self
          have hallowed := hts c hmem
          rw [isPlain, hc] at hallowed
          exact Bool.noConfusion hallowed

/-- A plain name is the lowercase of its spellings in ASCII alone. -/
theorem lower_eq_iff {s t : String} (ht : t.toList.all isPlain = true) :
    lower s = t ↔ lowerAscii s = t := by
  rw [← String.toList_inj, lower, String.toList_ofList,
    lowerAfter_eq_iff [] s.toList (List.all_eq_true.mp ht), ← toList_lowerAscii, String.toList_inj]

theorem isAscii_toLower {c : Char} (h : isAscii c = true) : isAscii c.toLower = true := by
  have hall : ∀ n < 128, isAscii (Char.ofNat n).toLower = true := by decide
  have hcode : c.toNat < 128 := by simpa [isAscii] using h
  rw [← Char.ofNat_toNat c]
  exact hall c.toNat hcode

theorem all_isAscii_lowerAscii {s : String} (h : s.toList.all isAscii = true) :
    (lowerAscii s).toList.all isAscii = true := by
  rw [toList_lowerAscii, List.all_map, List.all_eq_true]
  exact fun c hc => isAscii_toLower (List.all_eq_true.mp h c hc)

theorem lower_eq_lowerAscii {s : String} (h : s.toList.all isAscii = true) :
    lower s = lowerAscii s := by
  have hafter (before cs : List Char) (hcs : ∀ c ∈ cs, isAscii c = true) :
      lowerAfter before cs = cs.map Char.toLower := by
    induction cs generalizing before with
    | nil => rfl
    | cons c cs ih =>
        rw [lowerAfter_cons_of_ascii (hcs c List.mem_cons_self), List.map_cons,
          ih (c :: before) fun other hother => hcs other (List.mem_cons_of_mem c hother)]
  rw [lower, hafter [] s.toList (List.all_eq_true.mp h), lowerAscii]

end TraceHeaders.Text
