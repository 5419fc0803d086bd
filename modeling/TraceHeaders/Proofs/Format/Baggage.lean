import TraceHeaders.Format.Baggage
import TraceHeaders.Proofs.SideData

namespace TraceHeaders.Format

open Text

variable {settings : Settings} {start : String} {encode : String → String}

/-- A baggage item as it comes back: under its key in lowercase, and lost when the key is empty. -/
def restored? (item : String × String) : Option (String × String) :=
  if item.1 = "" then none else some (lowerAscii item.1, item.2)

theorem restored?_eq_some {item : String × String} (hne : item.1 ≠ "")
    (hlower : lowerAscii item.1 = item.1) : restored? item = some item := by
  rw [restored?, if_neg hne, hlower]

theorem baggageName_eq (hnames : settings.baggageHeaders = ∅) (start key : String) :
    baggageName settings start key = start ++ key := by
  rw [baggageName, Settings.baggageHeader?, hnames, TextMap.get?_empty, Option.getD_none]

theorem item?_unmapped {item : String × String} (hheader : settings.baggageHeader? item.1 = none)
    (hkey : settings.baggageKeys.get? (lowerAscii start ++ lowerAscii item.1) = none)
    (hencode : ∀ value, (HeaderValue.decode (encode value)).value = value) :
    SideData.item? settings (some (lowerAscii start))
      ⟨baggageName settings start item.1, encode item.2⟩ = restored? item := by
  have hempty : (lowerAscii item.1).isEmpty = decide (item.1 = "") := by
    rw [Bool.eq_iff_iff, String.isEmpty_iff, decide_eq_true_iff, ← String.toList_inj,
      ← String.toList_inj, toList_lowerAscii]
    exact List.map_eq_nil_iff
  rw [SideData.item?, Header.lowerName, baggageName, hheader, Option.getD_none, lowerAscii_append,
    SideData.baggageKey?, hkey, restored?]
  simp only [Option.bind_some, after?_append, Option.filter_some, hempty, hencode]
  split <;> simp_all

theorem item?_mapped {item : String × String} {name : String}
    (hheader : settings.baggageHeader? item.1 = some name)
    (hkey : settings.baggageKeys.get? (lowerAscii name) = some item.1)
    (hencode : ∀ value, (HeaderValue.decode (encode value)).value = value)
    (from? : Option String) :
    SideData.item? settings from? ⟨baggageName settings start item.1, encode item.2⟩ =
      some item := by
  rw [SideData.item?, Header.lowerName, baggageName, hheader, Option.getD_some,
    SideData.baggageKey?, hkey]
  simp only [Option.map_some, hencode]

theorem baggage_collect_append {from? : Option String}
    {restore : String × String → Option (String × String)} {baggage : TextMap}
     (hitem : ∀ item ∈ baggage.toList, SideData.item? settings from?
      ⟨baggageName settings start item.1, encode item.2⟩ = restore item) (own : List Header) :
    (SideData.collect settings from?
      ⟨own ++ writeBaggage settings start encode baggage⟩).value.baggage =
        TextMap.ofList (own.filterMap (SideData.item? settings from?) ++
          baggage.toList.filterMap restore) := by
  rw [SideData.baggage_collect, List.filterMap_append, writeBaggage, List.filterMap_map]
  exact congrArg (TextMap.ofList <| _ ++ ·) (List.filterMap_congr hitem)

theorem baggage_collect_written (hkeys : settings.baggageKeys = ∅)
    (hnames : settings.baggageHeaders = ∅)
    (hencode : ∀ value, (HeaderValue.decode (encode value)).value = value) {own : List Header}
    (hown : ∀ header ∈ own, SideData.item? settings (some (lowerAscii start)) header = none)
    (baggage : TextMap) :
    (SideData.collect settings (some (lowerAscii start))
      ⟨own ++ writeBaggage settings start encode baggage⟩).value.baggage =
        TextMap.ofList (baggage.toList.filterMap restored?) := by
  have hitem (item : String × String) : SideData.item? settings (some (lowerAscii start))
      ⟨baggageName settings start item.1, encode item.2⟩ = restored? item := by
    apply item?_unmapped _ _ hencode
    · rw [Settings.baggageHeader?, hnames, TextMap.get?_empty]
    · rw [hkeys, TextMap.get?_empty]
  rw [baggage_collect_append fun item _ => hitem item, List.filterMap_eq_nil_iff.mpr hown,
    List.nil_append]

theorem ofList_filterMap_restored? {baggage : TextMap}
    (h : ∀ item ∈ baggage.toList, item.1 ≠ "" ∧ lowerAscii item.1 = item.1) :
    TextMap.ofList (baggage.toList.filterMap restored?) = baggage := by
  have hitems : baggage.toList.filterMap restored? = baggage.toList.filterMap some := by
    apply List.filterMap_congr
    intro item hitem
    exact restored?_eq_some (h item hitem).1 (h item hitem).2
  rw [hitems, List.filterMap_some, TextMap.ofList_toList]

end TraceHeaders.Format
