import TraceHeaders.Text.Numeral

namespace TraceHeaders

/-- An identifier as wide as the format that carried it. -/
inductive TraceId where
  | bits64 (lower : UInt64)
  | bits128 (upper lower : UInt64)
  deriving DecidableEq, Repr

namespace TraceId

instance : Inhabited TraceId := ⟨bits64 0⟩

def lower : TraceId → UInt64
  | bits64 lower => lower
  | bits128 _ lower => lower

/-- The upper half, which is zero in an identifier of 64 bits. -/
def upper : TraceId → UInt64
  | bits64 _ => 0
  | bits128 upper _ => upper

/-- The number of the trace, whatever the width. -/
def toNat (id : TraceId) : Nat := id.upper.toNat * UInt64.size + id.lower.toNat

/-- A number as an identifier of 128 bits. -/
def wide (n : Nat) : TraceId := bits128 (UInt64.ofNat (n / UInt64.size)) (UInt64.ofNat n)

def isZero (id : TraceId) : Bool := id.upper == 0 && id.lower == 0

/-- The upper half if it is worth writing. -/
def upper? (id : TraceId) : Option UInt64 := if id.upper = 0 then none else some id.upper

def hex : TraceId → String
  | bits64 lower => Text.hexPadded 16 lower.toNat
  | bits128 upper lower => Text.hexPadded 16 upper.toNat ++ Text.hexPadded 16 lower.toNat

/-- Whether two identifiers name the same trace.  This is not transitive: two identifiers of 128 bits
may differ and both agree with one of 64 bits. -/
def sameTrace : TraceId → TraceId → Bool
  | bits64 a, bits64 b => a == b
  | bits128 a₁ a₀, bits128 b₁ b₀ => a₁ == b₁ && a₀ == b₀
  | a, b => a.lower == b.lower

/-- Completes a lower half with the hexadecimal text of an upper half.  Without a readable upper half
the identifier stays 64 bits wide. -/
def withUpperHex (lower : UInt64) (upperHex : Option String) : TraceId :=
  match upperHex.bind fun s => (Text.readUInt64 16 s).toOption with
  | some upper => bits128 upper lower
  | none => bits64 lower

theorem toNat_lt (id : TraceId) : id.toNat < UInt64.size * UInt64.size := by
  have hupper := id.upper.toNat_lt
  have hlower := id.lower.toNat_lt
  simp only [toNat, UInt64.size]
  omega

theorem isZero_iff {id : TraceId} : id.isZero = true ↔ id.toNat = 0 := by
  simp only [isZero, toNat, Bool.and_eq_true, beq_iff_eq, ← UInt64.toNat_inj, UInt64.size,
    UInt64.toNat_zero]
  omega

theorem toNat_wide {n : Nat} (h : n < UInt64.size * UInt64.size) : (wide n).toNat = n := by
  simp only [toNat, wide, upper, lower, UInt64.toNat_ofNat', UInt64.size] at h ⊢
  omega

end TraceId

end TraceHeaders
