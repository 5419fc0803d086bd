import TraceHeaders.Proofs.Format.B3
import TraceHeaders.Proofs.Format.Datadog
import TraceHeaders.Proofs.Format.Haystack
import TraceHeaders.Proofs.Format.TraceContext.Read
import TraceHeaders.Proofs.Format.Xray

namespace TraceHeaders

namespace Style

/-- The headers that a style writes. -/
def written (settings : Settings) (context : SpanContext) (style : Style) : List Header :=
  (style.write? settings).elim [] fun write => (write context).value

/-- The name of the header of its own that a style writes for a baggage item.  The X-Ray header has the
item among its members unless a header is configured for it, and the B3 headers take no baggage. -/
def baggageName? (settings : Settings) (style : Style) (key : String) : Option String :=
  match style with
  | .datadog | .traceContext => some (Format.baggageName settings Format.openTracingStart key)
  | .haystack => some (Format.baggageName settings Format.Haystack.baggageStart key)
  | .xray => settings.baggageHeader? key
  | .b3Multi | .b3Single | .none => Option.none

/-- The names of the headers of their own that baggage items get. -/
def baggageNames (settings : Settings) (style : Style) (baggage : TextMap) : List String :=
  baggage.toList.filterMap fun item => style.baggageName? settings item.1

end Style

namespace Format

variable (settings : Settings) (context : SpanContext)

theorem names_writeBaggage (start : String) (encode : String → String) (baggage : TextMap) :
    (writeBaggage settings start encode baggage).map (·.name) =
      baggage.toList.filterMap fun item => some (baggageName settings start item.1) := by
  rw [writeBaggage, List.map_map]
  exact (congrFun List.filterMap_eq_map baggage.toList).symm

theorem names_append_baggage {own : List Header} {keys : List String}
    (h : (own.map (·.name)).Subperm keys) (start : String) (encode : String → String)
    (baggage : TextMap) :
    ((own ++ writeBaggage settings start encode baggage).map (·.name)).Subperm
      (keys ++ baggage.toList.filterMap fun item => some (baggageName settings start item.1)) := by
  rw [List.map_append, names_writeBaggage]
  exact (List.subperm_append_right _).mpr h

theorem B3.Multi.names_write_subperm :
    ((write settings context).value.map (·.name)).Subperm keys := by
  cases hzero : context.traceId.isZero with
  | true =>
      rw [write, hzero]
      exact List.nil_subperm
  | false =>
      rw [value_write settings hzero]
      exact (names_ownHeaders_sublist settings context).subperm

theorem B3.Single.names_write_subperm :
    ((write settings context).value.map (·.name)).Subperm keys := by
  cases hzero : context.traceId.isZero with
  | true =>
      rw [write, hzero]
      exact List.nil_subperm
  | false =>
      rw [value_write settings hzero]
      exact List.Subperm.refl keys

theorem TraceContext.names_write_subperm :
    ((write settings context).value.map (·.name)).Subperm
      (keys ++ Style.traceContext.baggageNames settings context.baggage) := by
  by_cases hskip : (context.traceId.isZero || context.spanId == 0) = true
  · rw [write, if_pos hskip]
    exact List.nil_subperm
  · have hidentified : Identified context := by
      rw [Bool.or_eq_true, not_or, Bool.not_eq_true, beq_iff_eq] at hskip
      exact hskip
    have hown : ((ownHeaders context).map (·.name)).Subperm keys := List.Subperm.refl keys
    rw [value_write hidentified]
    exact names_append_baggage settings hown _ _ _

theorem Xray.names_write_subperm :
    ((write settings context).value.map (·.name)).Subperm
      (keys ++ Style.xray.baggageNames settings context.baggage) := by
  cases hzero : context.traceId.isZero with
  | true =>
      rw [write, hzero]
      exact List.nil_subperm
  | false =>
      have hnames (item : String × String) : (mappedHeader? settings item).map (·.name) =
          settings.baggageHeader? item.1 := by
        rw [mappedHeader?]
        cases settings.baggageHeader? item.1 <;> rfl
      rw [value_write_items settings hzero, headers_foldlM_addBaggage, List.nil_append,
        List.map_append, List.map_filterMap]
      simp only [hnames]
      exact List.perm_append_comm.subperm

end Format

namespace Style

open Text

/-- What a style writes, under which names and how often: each of its own headers at most once, and a
header for each baggage item that has one. -/
theorem names_written_subperm (settings : Settings) (context : SpanContext) (style : Style) :
    ((style.written settings context).map (·.name)).Subperm
      (style.keys ++ style.baggageNames settings context.baggage) := by
  have hkeys {names : List String} (style : Style) (h : names.Subperm style.keys) :
      names.Subperm (style.keys ++ style.baggageNames settings context.baggage) :=
    h.trans (List.sublist_append_left _ _).subperm
  cases style with
  | datadog =>
      exact Format.names_append_baggage settings
        (Format.Datadog.names_ownHeaders_sublist settings context).subperm _ _ _
  | haystack =>
      exact Format.names_append_baggage settings
        (Format.Haystack.names_identityHeaders_subperm context) _ _ _
  | b3Multi => exact hkeys b3Multi (Format.B3.Multi.names_write_subperm settings context)
  | b3Single => exact hkeys b3Single (Format.B3.Single.names_write_subperm settings context)
  | xray => exact Format.Xray.names_write_subperm settings context
  | traceContext => exact Format.TraceContext.names_write_subperm settings context
  | none => exact List.nil_subperm

theorem nodup_lowerAscii_keys (style : Style) : (style.keys.map lowerAscii).Nodup := by
  cases style <;> decide

theorem name_of_mem_written {settings : Settings} {context : SpanContext} {style : Style}
    {header : Header} (h : header ∈ style.written settings context) :
    header.name ∈ style.keys ∨ header.name ∈ style.baggageNames settings context.baggage :=
  List.mem_append.mp ((style.names_written_subperm settings context).subset
    (List.mem_map_of_mem h))

theorem mem_baggageNames {settings : Settings} {style : Style} {baggage : TextMap} {name : String} :
    name ∈ style.baggageNames settings baggage ↔
      ∃ item ∈ baggage.toList, style.baggageName? settings item.1 = some name :=
  List.mem_filterMap

end Style

end TraceHeaders
