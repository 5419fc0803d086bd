namespace TraceHeaders.Text

/-- The pieces between the separators: one more than there are separators, so the empty text has one
empty piece. -/
def pieces (separator : Char) (s : String) : List String :=
  (s.toList.splitOn separator).map String.ofList

def cutChars? (separator : Char) : List Char → Option (List Char × List Char)
  | [] => none
  | c :: cs =>
      if c = separator then some ([], cs)
      else (cutChars? separator cs).map fun (before, after) => (c :: before, after)

/-- Cuts at the first separator. -/
def cut? (separator : Char) (s : String) : Option (String × String) :=
  (cutChars? separator s.toList).map fun (before, after) =>
    (String.ofList before, String.ofList after)

/-- What follows a fixed start. -/
def after? (start s : String) : Option String :=
  (start.toList.isPrefixOf? s.toList).map String.ofList

def begins (start s : String) : Bool := start.toList.isPrefixOf s.toList

def dropBytesChars? : Nat → List Char → Option (List Char)
  | 0, cs => some cs
  | _ + 1, [] => none
  | n + 1, c :: cs => if c.utf8Size ≤ n + 1 then dropBytesChars? (n + 1 - c.utf8Size) cs else none

/-- What follows the first `n` bytes; absent when the text is shorter or a character straddles the
cut. -/
def dropBytes? (n : Nat) (s : String) : Option String :=
  (dropBytesChars? n s.toList).map String.ofList

def swap (old new : Char) (s : String) : String :=
  String.ofList (s.toList.map fun c => if c = old then new else c)

theorem cutChars?_eq_none_iff {separator : Char} {cs : List Char} :
    cutChars? separator cs = none ↔ separator ∉ cs := by
  induction cs with
  | nil => simp [cutChars?]
  | cons c cs ih =>
      by_cases h : c = separator
      · simp [cutChars?, h]
      · simp [cutChars?, h, ih, Ne.symm h]

theorem cutChars?_eq_some_iff {separator : Char} {cs before after : List Char} :
    cutChars? separator cs = some (before, after) ↔
      separator ∉ before ∧ cs = before ++ separator :: after := by
  induction cs generalizing before with
  | nil => simp [cutChars?]
  | cons c cs ih =>
      by_cases h : c = separator
      · subst h
        cases before with
        | nil => simp [cutChars?, eq_comm]
        | cons b before => simp +contextual [cutChars?, eq_comm]
      · cases before with
        | nil => simp [cutChars?, h]
        | cons b before =>
            simp only [cutChars?, h, if_false, Option.map_eq_some_iff, Prod.exists, Prod.mk.injEq,
              List.cons.injEq, List.cons_append, List.mem_cons, not_or]
            constructor
            · rintro ⟨x, y, hxy, ⟨rfl, rfl⟩, rfl⟩
              exact ⟨⟨Ne.symm h, (ih.1 hxy).1⟩, rfl, (ih.1 hxy).2⟩
            · rintro ⟨⟨_, hb⟩, rfl, hcs⟩
              exact ⟨before, after, ih.2 ⟨hb, hcs⟩, ⟨rfl, rfl⟩, rfl⟩

end TraceHeaders.Text
