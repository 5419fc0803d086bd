import TraceHeaders.Chain.Injection
import TraceHeaders.Format
import TraceHeaders.Proofs.Format.Baggage
import TraceHeaders.Proofs.Headers
import TraceHeaders.Proofs.Text.Pieces
import TraceHeaders.Proofs.TextMap

namespace TraceHeaders

open Text

def isBaggageKeyChar (c : Char) : Bool := c.isLower || c.isDigit || c == '_'

/-- A baggage key that means nothing else in any format. -/
structure IsBaggageKey (key : String) : Prop where
  nonempty : key ≠ ""
  allowed : ∀ c ∈ key.toList, isBaggageKeyChar c = true
  unreserved : key ∉ ["root", "parent", "sampled", "self"]

/-- A context that every format can carry: it names a span, and none of its texts holds a separator of
the format that writes it unescaped. -/
structure SpanContext.IsPortable (context : SpanContext) : Prop where
  trace : context.traceId.lower ≠ 0
  span : context.spanId ≠ 0
  origin : ∀ origin, context.origin = some origin → ';' ∉ origin.toList
  tags : ∀ tag ∈ context.propagationTags.tags.toList, ',' ∉ tag.1.toList ∧ ',' ∉ tag.2.toList
  session : ∀ session, context.tags.get? sessionSpanTag = some session → ',' ∉ session.toList
  baggage : ∀ item ∈ context.baggage.toList, IsBaggageKey item.1

theorem isBaggageKeyChar_bounds {c : Char} (h : isBaggageKeyChar c = true) :
    48 ≤ c.toNat ∧ c.toNat ≤ 122 ∧ (c.toNat < 65 ∨ 90 < c.toNat) := by
  simp only [isBaggageKeyChar, Bool.or_eq_true, beq_iff_eq] at h
  rcases h with (h | h) | rfl
  · obtain ⟨hge, hle⟩ := Bool.and_eq_true_iff.mp h
    have hge : 97 ≤ c.toNat := of_decide_eq_true hge
    have hle : c.toNat ≤ 122 := of_decide_eq_true hle
    omega
  · obtain ⟨hge, hle⟩ := Bool.and_eq_true_iff.mp h
    have hge : 48 ≤ c.toNat := of_decide_eq_true hge
    have hle : c.toNat ≤ 57 := of_decide_eq_true hle
    omega
  · decide

theorem isBlank_of_isBaggageKeyChar {c : Char} (h : isBaggageKeyChar c = true) :
    isBlank c = false := by
  have hbounds := isBaggageKeyChar_bounds h
  simp only [isBlank, Bool.or_eq_false_iff, Bool.and_eq_false_iff, decide_eq_false_iff_not,
    beq_eq_false_iff_ne]
  omega

theorem isUpper_of_isBaggageKeyChar {c : Char} (h : isBaggageKeyChar c = true) :
    c.isUpper = false := by
  have hbounds := isBaggageKeyChar_bounds h
  apply decide_eq_false
  rintro ⟨hge, hle⟩
  have hge : 65 ≤ c.toNat := hge
  have hle : c.toNat ≤ 90 := hle
  omega

/-- A name that is made of a baggage key. -/
def IsBaggageName (name : String) : Prop :=
  ∃ key, IsBaggageKey key ∧
    (name = Format.openTracingStart ++ key ∨ name = Format.Haystack.baggageStart ++ key)

theorem isBaggageName_of_mem_writeBaggage {settings : Settings} (hnames : settings.baggageHeaders = ∅)
    {start : String} (hstart : start = Format.openTracingStart ∨ start = Format.Haystack.baggageStart)
    {encode : String → String} {context : SpanContext} (h : context.IsPortable) {header : Header}
    (hheader : header ∈ Format.writeBaggage settings start encode context.baggage) :
    IsBaggageName header.name := by
  obtain ⟨item, hitem, rfl⟩ := List.mem_map.mp hheader
  have hname := Format.baggageName_eq hnames start item.1
  refine ⟨item.1, h.baggage item hitem, ?_⟩
  rcases hstart with rfl | rfl
  · exact .inl hname
  · exact .inr hname

theorem after?_key (style : Style) : ∀ key ∈ style.keys,
    after? (lowerAscii Format.openTracingStart) (lowerAscii key) = none ∧
      ∀ rest ∈ after? (lowerAscii Format.Haystack.baggageStart) (lowerAscii key),
        '-' ∈ rest.toList := by
  cases style <;> decide

theorem isNamed_eq_false_of_openTracing (item value : String) {style : Style} {key : String}
    (hkey : key ∈ style.keys) :
    Header.isNamed ⟨Format.openTracingStart ++ item, value⟩ key = false := by
  rw [← Bool.not_eq_true, Header.isNamed, sameIgnoringCase_iff, lowerAscii_append]
  intro hsame
  have htracing := (after?_key style key hkey).1
  rw [← hsame, after?_append] at htracing
  exact absurd htracing (Option.some_ne_none _)

theorem get?_append_openTracing {settings : Settings} (hnames : settings.baggageHeaders = ∅)
    (encode : String → String) (baggage : TextMap) (own : List Header) {style : Style}
    {key : String} (hkey : key ∈ style.keys) :
    Headers.get? ⟨own ++ Format.writeBaggage settings Format.openTracingStart encode baggage⟩ key =
      Headers.get? ⟨own⟩ key := by
  apply Headers.get?_append_of_unnamed
  intro header hheader
  obtain ⟨item, _, rfl⟩ := List.mem_map.mp hheader
  simp only [Format.baggageName_eq hnames]
  exact isNamed_eq_false_of_openTracing item.1 _ hkey

theorem isNamed_eq_false_of_isBaggageName {header : Header} (h : IsBaggageName header.name)
    {style : Style} {key : String} (hkey : key ∈ style.keys) : header.isNamed key = false := by
  obtain ⟨item, hitem, hname⟩ := h
  obtain ⟨name, value⟩ := header
  rcases hname with rfl | rfl
  · exact isNamed_eq_false_of_openTracing item value hkey
  · have hbaggage := (after?_key style key hkey).2
    rw [← Bool.not_eq_true, Header.isNamed, sameIgnoringCase_iff, lowerAscii_append]
    intro hsame
    rw [← hsame, after?_append] at hbaggage
    have hdash := hbaggage _ rfl
    rw [toList_lowerAscii, List.mem_map] at hdash
    obtain ⟨c, hc, hlower⟩ := hdash
    have hallowed := hitem.allowed c hc
    rw [toLower_eq_self (isUpper_of_isBaggageKeyChar hallowed)] at hlower
    rw [hlower] at hallowed
    exact absurd hallowed (by decide)

theorem keys_disjoint {style other : Style} (hne : style ≠ other) :
    ∀ key ∈ style.keys, ∀ name ∈ other.keys, sameIgnoringCase name key = false := by
  cases style <;> cases other <;> first | exact absurd rfl hne | decide

def IsHeaderOf (style : Style) (header : Header) : Prop :=
  header.name ∈ style.keys ∨ IsBaggageName header.name

theorem isNamed_eq_false_of_isHeaderOf {style other : Style} (hne : style ≠ other)
    {header : Header} (h : IsHeaderOf other header) {key : String} (hkey : key ∈ style.keys) :
    header.isNamed key = false := by
  rcases h with h | h
  · exact keys_disjoint hne key hkey header.name h
  · exact isNamed_eq_false_of_isBaggageName h hkey

/-- Baggage that follows the headers of a style is found under none of its names. -/
theorem get?_append_baggage {settings : Settings} (hnames : settings.baggageHeaders = ∅)
    {start : String} (hstart : start = Format.openTracingStart ∨ start = Format.Haystack.baggageStart)
    (encode : String → String) {context : SpanContext} (h : context.IsPortable) (own : List Header)
    {style : Style} {key : String} (hkey : key ∈ style.keys) :
    Headers.get? ⟨own ++ Format.writeBaggage settings start encode context.baggage⟩ key =
      Headers.get? ⟨own⟩ key := by
  apply Headers.get?_append_of_unnamed
  intro header hheader
  exact isNamed_eq_false_of_isBaggageName
    (isBaggageName_of_mem_writeBaggage hnames hstart h hheader) hkey

end TraceHeaders
