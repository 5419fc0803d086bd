import TraceHeaders.Codec

namespace TraceHeaders

variable {σ ν α β : Type}

theorem Logged.eq_of_parts {x y : Logged α} (hvalue : x.value = y.value)
    (hrecords : x.records = y.records) : x = y := by
  cases x
  cases y
  cases hvalue
  cases hrecords
  rfl

theorem Logged.bind_congr {x : Logged α} {f g : α → Logged β} (h : f x.value = g x.value) :
    x >>= f = x >>= g := by
  have hbind (f : α → Logged β) :
      x >>= f = ⟨(f x.value).value, x.records ++ (f x.value).records⟩ := rfl
  rw [hbind, h, ← hbind]

/-- What an action makes of its scratch state, with further notes beside it. -/
def withNotes (notes : List ν) (answer : α × σ) : α × σ × List ν := (answer.1, answer.2, notes)

def withoutNotes (answer : α × σ × List ν) : α × σ := (answer.1, answer.2.1)

/-- An action that also adds to the notes kept beside its scratch state. -/
def Action.noting (added : List ν) (action : Action σ α) : Action (σ × List ν) α :=
  fun (state, notes) => withNotes (notes ++ added) <$> action.run state

theorem Action.run_noting (added : List ν) (action : Action σ α) (state : σ) (notes : List ν) :
    (action.noting added).run (state, notes) = withNotes (notes ++ added) <$> action.run state := rfl

theorem withoutNotes_withNotes (notes : List ν) (x : Logged (α × σ)) :
    withoutNotes <$> (withNotes notes <$> x) = x := by
  rw [← comp_map]
  exact id_map x

end TraceHeaders
