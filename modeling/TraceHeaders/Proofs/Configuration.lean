import TraceHeaders.Configuration
import TraceHeaders.Proofs.Text.LowerCase
import TraceHeaders.Proofs.TextMap

namespace TraceHeaders.Configuration

open Text

variable {mapping : List (String × String)}

theorem lowerNames_of_ascii (h : ∀ entry ∈ mapping, entry.1.toList.all isAscii = true) :
    lowerNames mapping = mapping.map fun entry => (lowerAscii entry.1, entry.2) :=
  List.map_congr_left fun entry hentry =>
    congrArg (·, entry.2) (lower_eq_lowerAscii (h entry hentry))

theorem pairwise_lowerNames (hascii : ∀ entry ∈ mapping, entry.1.toList.all isAscii = true)
    (hnames : mapping.Pairwise fun a b => sameIgnoringCase a.1 b.1 = false) :
    (lowerNames mapping).Pairwise fun a b => a.1 ≠ b.1 := by
  rw [lowerNames_of_ascii hascii, List.pairwise_map]
  refine hnames.imp fun hname heq => ?_
  rw [sameIgnoringCase_iff.mpr heq] at hname
  exact Bool.noConfusion hname

theorem get?_ofList_lowerNames (hascii : ∀ entry ∈ mapping, entry.1.toList.all isAscii = true)
    (hnames : mapping.Pairwise fun a b => sameIgnoringCase a.1 b.1 = false) {name value : String} :
    (TextMap.ofList (lowerNames mapping)).get? name = some value ↔
      ∃ entry ∈ mapping, lowerAscii entry.1 = name ∧ entry.2 = value := by
  rw [TextMap.get?_ofList, lastOf?_eq_some_iff (pairwise_lowerNames hascii hnames),
    lowerNames_of_ascii hascii, List.mem_map]
  simp only [Prod.mk.injEq]

end TraceHeaders.Configuration
