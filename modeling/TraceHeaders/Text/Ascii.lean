namespace TraceHeaders.Text

def isAscii (c : Char) : Bool := c.toNat < 128

def isPrintableAscii (c : Char) : Bool := 0x20 ≤ c.toNat && c.toNat ≤ 0x7E

/-- Digits and lowercase letters up to `f`, the only spelling the strict identifiers allow. -/
def isLowerHex (c : Char) : Bool := c.isDigit || ('a' ≤ c && c ≤ 'f')

def isHex (c : Char) : Bool := isLowerHex c || ('A' ≤ c && c ≤ 'F')

/-- Lowercase for ASCII letters.  The letters of other scripts keep their case. -/
def lowerAscii (s : String) : String := String.ofList (s.toList.map Char.toLower)

/-- Whether two names are one, as header names are compared. -/
def sameIgnoringCase (a b : String) : Bool := lowerAscii a == lowerAscii b

@[simp] theorem toList_lowerAscii (s : String) :
    (lowerAscii s).toList = s.toList.map Char.toLower := by
  simp [lowerAscii]

theorem sameIgnoringCase_iff {a b : String} :
    sameIgnoringCase a b = true ↔ lowerAscii a = lowerAscii b := by
  simp [sameIgnoringCase]

theorem utf8Size_of_isAscii {c : Char} (h : isAscii c = true) : c.utf8Size = 1 := by
  rw [isAscii, decide_eq_true_eq] at h
  rw [Char.utf8Size_eq_one_iff, UInt32.le_iff_toNat_le]
  change c.toNat ≤ 127
  omega

theorem utf8ByteSize_ofList_cons (c : Char) (cs : List Char) :
    (String.ofList (c :: cs)).utf8ByteSize = c.utf8Size + (String.ofList cs).utf8ByteSize := by
  rw [← List.singleton_append, String.ofList_append, String.utf8ByteSize_append,
    ← String.singleton_eq_ofList, String.utf8ByteSize_singleton]

theorem utf8ByteSize_of_isAscii {s : String} (h : ∀ c ∈ s.toList, isAscii c = true) :
    s.utf8ByteSize = s.toList.length := by
  have hchars : ∀ cs : List Char, (∀ c ∈ cs, isAscii c = true) →
      (String.ofList cs).utf8ByteSize = cs.length := by
    intro cs hcs
    induction cs with
    | nil => rfl
    | cons c cs ih =>
        have hsize : c.utf8Size = 1 := utf8Size_of_isAscii (hcs c List.mem_cons_self)
        rw [utf8ByteSize_ofList_cons, hsize, ih fun d hd => hcs d (List.mem_cons_of_mem c hd),
          List.length_cons, Nat.add_comm]
  rw [← hchars s.toList h, String.ofList_toList]

theorem isValid_of_isAscii {s : String} (h : ∀ c ∈ s.toList, isAscii c = true) {n : Nat}
    (hn : n ≤ s.utf8ByteSize) : (⟨n⟩ : String.Pos.Raw).IsValid s := by
  have hbefore : ∀ c ∈ (String.ofList (s.toList.take n)).toList, isAscii c = true := by
    rw [String.toList_ofList]
    exact fun c hc => h c (List.mem_of_mem_take hc)
  rw [utf8ByteSize_of_isAscii h] at hn
  rw [String.Pos.Raw.isValid_iff_exists_take_toList]
  refine ⟨n, ?_⟩
  rw [utf8ByteSize_of_isAscii hbefore, String.toList_ofList, List.length_take_of_le hn]

end TraceHeaders.Text
