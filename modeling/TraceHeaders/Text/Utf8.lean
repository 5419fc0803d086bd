/-!
UTF-8.  Encoding is the standard library's; decoding stops at the first sequence that is wrong and
says where it starts and how many of its bytes belong together.
-/

namespace TraceHeaders.Text

def utf8 (cs : List Char) : List UInt8 := cs.flatMap String.utf8EncodeChar

/-- Bytes that are not UTF-8.  `index` is where the offending sequence starts; `length` counts the
bytes of it that have to be skipped, and is absent when the text ends inside a sequence. -/
structure Utf8Error where
  index : Nat
  length : Option Nat
  deriving DecidableEq, Repr

def Utf8Error.message (e : Utf8Error) : String :=
  match e.length with
  | some n => s!"invalid utf-8 sequence of {n} bytes from index {e.index}"
  | none => s!"incomplete utf-8 byte sequence from index {e.index}"

def isContinuation (b : UInt8) : Bool := 0x80 ≤ b && b ≤ 0xBF

/-- The second bytes allowed after the first byte of a three byte sequence: neither an overlong form
nor a surrogate. -/
def isSecondOfThree (first second : UInt8) : Bool :=
  (if first == 0xE0 then 0xA0 else 0x80) ≤ second &&
    second ≤ (if first == 0xED then 0x9F else 0xBF)

/-- The second bytes allowed after the first byte of a four byte sequence: neither an overlong form
nor a code point above the last plane. -/
def isSecondOfFour (first second : UInt8) : Bool :=
  (if first == 0xF0 then 0x90 else 0x80) ≤ second &&
    second ≤ (if first == 0xF4 then 0x8F else 0xBF)

/-- The bits that a continuation byte adds. -/
def lowBits (b : UInt8) : Nat := b.toNat % 64

/-- Decodes the bytes from position `index` on.  A sequence is checked byte by byte, so the first
byte that cannot belong to it decides how long the error is. -/
def decodeUtf8From (index : Nat) : List UInt8 → Except Utf8Error (List Char)
  | [] => .ok []
  | a :: rest =>
      if a < 0x80 then (decodeUtf8From (index + 1) rest).map (Char.ofNat a.toNat :: ·)
      else if 0xC2 ≤ a && a ≤ 0xDF then
        match rest with
        | [] => .error ⟨index, none⟩
        | b :: rest =>
            if isContinuation b then
              (decodeUtf8From (index + 2) rest).map
                (Char.ofNat (a.toNat % 32 * 64 + lowBits b) :: ·)
            else .error ⟨index, some 1⟩
      else if 0xE0 ≤ a && a ≤ 0xEF then
        match rest with
        | [] => .error ⟨index, none⟩
        | b :: rest =>
            if isSecondOfThree a b then
              match rest with
              | [] => .error ⟨index, none⟩
              | c :: rest =>
                  if isContinuation c then
                    (decodeUtf8From (index + 3) rest).map
                      (Char.ofNat (a.toNat % 16 * 4096 + lowBits b * 64 + lowBits c) :: ·)
                  else .error ⟨index, some 2⟩
            else .error ⟨index, some 1⟩
      else if 0xF0 ≤ a && a ≤ 0xF4 then
        match rest with
        | [] => .error ⟨index, none⟩
        | b :: rest =>
            if isSecondOfFour a b then
              match rest with
              | [] => .error ⟨index, none⟩
              | c :: rest =>
                  if isContinuation c then
                    match rest with
                    | [] => .error ⟨index, none⟩
                    | d :: rest =>
                        if isContinuation d then
                          (decodeUtf8From (index + 4) rest).map
                            (Char.ofNat (a.toNat % 8 * 262144 + lowBits b * 4096 +
                              lowBits c * 64 + lowBits d) :: ·)
                        else .error ⟨index, some 3⟩
                  else .error ⟨index, some 2⟩
            else .error ⟨index, some 1⟩
      else .error ⟨index, some 1⟩

def decodeUtf8 (bytes : List UInt8) : Except Utf8Error (List Char) := decodeUtf8From 0 bytes

end TraceHeaders.Text
