import Mathlib.Data.List.Nodup
import TraceHeaders.Proofs.Configuration
import TraceHeaders.Proofs.Propagator
import TraceHeaders.Proofs.SideData.Collection

namespace TraceHeaders

open Text

/-- White space, or nothing at all. -/
def IsPadding (s : String) : Prop := ∀ c ∈ s.toList, isBlank c = true

instance (s : String) : Decidable (IsPadding s) :=
  decidable_of_iff (s.toList.all isBlank = true) List.all_eq_true

theorem IsPadding.not_mem {s : String} (h : IsPadding s) {c : Char} (hc : isBlank c = false) :
    c ∉ s.toList := by
  intro hmem
  rw [h c hmem] at hc
  exact Bool.noConfusion hc

theorem trim_pad {before after : String} (hbefore : IsPadding before) (hafter : IsPadding after)
    (s : String) : trim (before ++ s ++ after) = trim s := by
  have hstart : before.toList.dropWhile isBlank = [] := List.dropWhile_eq_nil_iff.mpr hbefore
  have hend : after.toList.dropWhile isBlank = [] := List.dropWhile_eq_nil_iff.mpr hafter
  have hendReverse : after.toList.reverse.dropWhile isBlank = [] :=
    List.dropWhile_eq_nil_iff.mpr fun c hc => hafter c (List.mem_reverse.mp hc)
  rw [← String.toList_inj, toList_trim, toList_trim, String.toList_append, String.toList_append,
    List.append_assoc, trimChars, trimChars, List.dropWhile_append, hstart, List.isEmpty_nil,
    if_pos rfl, List.dropWhile_append]
  split
  · rename_i hblank
    rw [List.isEmpty_iff.mp hblank, hend]
  · rw [List.reverse_append, List.dropWhile_append, hendReverse, List.isEmpty_nil, if_pos rfl]

theorem isPadding_empty : IsPadding "" := by decide

theorem trim_of_isPadding {s : String} (h : IsPadding s) : trim s = "" := by
  have hnil : s.toList.dropWhile isBlank = [] := List.dropWhile_eq_nil_iff.mpr h
  rw [trim, trimChars, hnil]
  rfl

theorem solid_of_trim_eq {s : String} (hne : s ≠ "") (htrim : trim s = s) :
    StartsSolid s.toList ∧ EndsSolid s.toList := by
  have hchars : trimChars s.toList = s.toList := by rw [← toList_trim, htrim]
  have hkept : trimChars s.toList ≠ [] := by simpa [hchars] using hne
  have hsolid := solid_trimChars hkept
  rwa [hchars] at hsolid

/-- A header to be tagged, with its span tag unless that is the default one. -/
structure HeaderTag where
  header : String
  tag? : Option String

namespace HeaderTag

/-- The span tag that is meant.  By default it is made of the header in lowercase. -/
def name (entry : HeaderTag) : String :=
  entry.tag?.getD ("http.request.headers." ++ String.ofList ((lowerAscii entry.header).toList.map
    fun c => if c.isAlphanum = true ∨ c = '-' then c else '_'))

/-- An entry whose header and tag can be told from what stands around them. -/
structure IsListable (entry : HeaderTag) : Prop where
  ascii : entry.header.toList.all isAscii = true
  header : entry.header ≠ "" ∧ trim entry.header = entry.header
  whole : ',' ∉ entry.header.toList ∧ ':' ∉ entry.header.toList
  tag : ∀ tag, entry.tag? = some tag → tag ≠ "" ∧ trim tag = tag ∧ ',' ∉ tag.toList

/-- The ways to write an entry. -/
inductive Writes (entry : HeaderTag) : String → Prop where
  | bare {before after : String} (htag : entry.tag? = none) (hbefore : IsPadding before)
      (hafter : IsPadding after) : entry.Writes (before ++ entry.header ++ after)
  | tagged {tag before behind beyond after : String} (htag : entry.tag? = some tag)
      (hbefore : IsPadding before) (hbehind : IsPadding behind) (hbeyond : IsPadding beyond)
      (hafter : IsPadding after) :
      entry.Writes (before ++ (entry.header ++ behind ++ ":" ++ (beyond ++ tag)) ++ after)

/-- Some pieces list some entries in order, with blank pieces anywhere among them. -/
inductive Lists : List String → List HeaderTag → Prop where
  | nil : Lists [] []
  | blank {piece : String} {pieces : List String} {entries : List HeaderTag}
      (hpiece : IsPadding piece) (hpieces : Lists pieces entries) : Lists (piece :: pieces) entries
  | entry {entry : HeaderTag} {piece : String} {pieces : List String} {entries : List HeaderTag}
      (hpiece : entry.Writes piece) (hpieces : Lists pieces entries) :
      Lists (piece :: pieces) (entry :: entries)

variable {entry : HeaderTag} {piece : String} {pieces : List String} {entries : List HeaderTag}

theorem not_mem_of_writes (h : entry.IsListable) (hpiece : entry.Writes piece) :
    ',' ∉ piece.toList := by
  have hsolid : isBlank ',' = false := by decide
  cases hpiece with
  | bare _ hbefore hafter =>
      simp [hbefore.not_mem hsolid, hafter.not_mem hsolid, h.whole.1]
  | tagged htag hbefore hbehind hbeyond hafter =>
      simp [hbefore.not_mem hsolid, hafter.not_mem hsolid, hbehind.not_mem hsolid,
        hbeyond.not_mem hsolid, h.whole.1, (h.tag _ htag).2.2]

theorem not_mem_of_lists (hentries : ∀ entry ∈ entries, entry.IsListable)
    (h : Lists pieces entries) : ∀ piece ∈ pieces, ',' ∉ piece.toList := by
  have hsolid : isBlank ',' = false := by decide
  induction h with
  | nil => exact fun piece hpiece => absurd hpiece List.not_mem_nil
  | blank hpiece _ ih =>
      exact List.forall_mem_cons.mpr ⟨hpiece.not_mem hsolid, ih hentries⟩
  | entry hpiece _ ih =>
      obtain ⟨hentry, hentries⟩ := List.forall_mem_cons.mp hentries
      exact List.forall_mem_cons.mpr ⟨not_mem_of_writes hentry hpiece, ih hentries⟩

theorem lower_header (h : entry.IsListable) : lower entry.header = lowerAscii entry.header :=
  lower_eq_lowerAscii h.ascii

/-- An entry is read as it was meant, however it is written. -/
theorem readMapping_of_writes (h : entry.IsListable) (hpiece : entry.Writes piece) :
    trim piece ≠ "" ∧
      Environment.readMapping (trim piece) = (lowerAscii entry.header, entry.tag?) := by
  obtain ⟨hne, htrim⟩ := h.header
  cases hpiece with
  | bare htag hbefore hafter =>
      rw [trim_pad hbefore hafter, htrim, Environment.readMapping, cut?_eq_none_iff.mpr h.whole.2,
        htag, lower_header h]
      exact ⟨hne, rfl⟩
  | tagged htag hbefore hbehind hbeyond hafter =>
      rename_i tag before behind beyond after
      obtain ⟨htagNe, htagTrim, -⟩ := h.tag _ htag
      have hcolon : ':' ∉ (entry.header ++ behind).toList := by
        rw [String.toList_append, List.mem_append, not_or]
        exact ⟨h.whole.2, hbehind.not_mem (by decide)⟩
      have hkeep : trim (entry.header ++ behind ++ ":" ++ (beyond ++ tag)) =
          entry.header ++ behind ++ ":" ++ (beyond ++ tag) := by
        obtain ⟨hstart, -⟩ := solid_of_trim_eq hne htrim
        obtain ⟨-, hend⟩ := solid_of_trim_eq htagNe htagTrim
        apply trim_eq_self
        · simp only [String.toList_append, List.append_assoc]
          exact hstart.append _
        · simp only [String.toList_append, ← List.append_assoc]
          exact hend.append_left _
      have hheader : trim (entry.header ++ behind) = entry.header := by
        simpa [htrim] using trim_pad isPadding_empty hbehind entry.header
      have htagPad : trim (beyond ++ tag) = tag := by
        simpa [htagTrim] using trim_pad hbeyond isPadding_empty tag
      rw [trim_pad hbefore hafter, hkeep, Environment.readMapping, cut?_append (by decide) hcolon]
      refine ⟨?_, by simp [hheader, htagPad, lower_header h, htag, htagNe]⟩
      simp [hne]

theorem tokens_intercalate (h : ∀ piece ∈ pieces, ',' ∉ piece.toList) :
    Environment.tokens (",".intercalate pieces) =
      (pieces.filter fun piece => trim piece ≠ "").map trim := by
  rw [Environment.tokens_eq]
  cases pieces with
  | nil => decide
  | cons piece rest => rw [pieces_intercalate (by decide) (List.cons_ne_nil piece rest) h]

theorem lowerAscii_header_ne (h : entry.IsListable) : lowerAscii entry.header ≠ "" := by
  intro hempty
  have hlist := congrArg String.toList hempty
  rw [toList_lowerAscii] at hlist
  exact h.header.1 (String.toList_eq_nil_iff.mp (List.map_eq_nil_iff.mp hlist))

theorem readMappings_of_lists (hentries : ∀ entry ∈ entries, entry.IsListable)
    (h : Lists pieces entries) : Environment.readMappings (",".intercalate pieces) =
      entries.map fun entry => (lowerAscii entry.header, entry.tag?) := by
  have hread : ((pieces.filter fun piece => trim piece ≠ "").map trim).map Environment.readMapping =
      entries.map fun entry => (lowerAscii entry.header, entry.tag?) := by
    induction h with
    | nil => rfl
    | blank hpiece _ ih =>
        rw [List.filter_cons_of_neg (by simp [trim_of_isPadding hpiece]), ih hentries]
    | entry hpiece _ ih =>
        obtain ⟨hentry, hentries⟩ := List.forall_mem_cons.mp hentries
        obtain ⟨hne, hmapping⟩ := readMapping_of_writes hentry hpiece
        rw [List.filter_cons_of_pos (by simpa using hne), List.map_cons, List.map_cons, hmapping,
          ih hentries, List.map_cons]
  rw [Environment.readMappings, tokens_intercalate (not_mem_of_lists hentries h), hread,
    List.filter_eq_self]
  intro mapping hmapping
  obtain ⟨entry, hentry, rfl⟩ := List.mem_map.mp hmapping
  simpa using lowerAscii_header_ne (hentries entry hentry)

theorem defaultTag_lowerAscii (header : String) :
    Environment.defaultTag (lowerAscii header) = "http.request.headers." ++
      String.ofList ((lowerAscii header).toList.map fun c =>
        if c.isAlphanum = true ∨ c = '-' then c else '_') := by
  have hchars : (lowerAscii header).toList.map
        (fun c => if c.isAlphanum || c = '-' then c.toLower else '_') =
      (lowerAscii header).toList.map
        (fun c => if c.isAlphanum = true ∨ c = '-' then c else '_') := by
    apply List.map_congr_left
    intro c hc
    rw [toList_lowerAscii, List.mem_map] at hc
    obtain ⟨original, -, rfl⟩ := hc
    simp only [toLower_toLower, Bool.or_eq_true, decide_eq_true_eq]
  exact congrArg (fun cs => "http.request.headers." ++ String.ofList cs) hchars

theorem readHeaderTags_of_lists (hentries : ∀ entry ∈ entries, entry.IsListable)
    (h : Lists pieces entries) : Environment.readHeaderTags (",".intercalate pieces) =
      entries.map fun entry => (lowerAscii entry.header, entry.name) := by
  rw [Environment.readHeaderTags, readMappings_of_lists hentries h, List.map_map]
  apply List.map_congr_left
  intro entry _
  rw [Function.comp_apply, name, ← defaultTag_lowerAscii]

end HeaderTag

theorem Environment.headerTags_configuration (env : Environment) {text : String}
    (h : env.get? .headerTags = some text) :
    env.configuration.value.headerTags = readHeaderTags text := by
  have htags : env.configuration.value.headerTags =
      (env.get? .headerTags).elim [] readHeaderTags := by
    rw [configuration]
    cases env.get? .headerBaggage <;> rfl
  rw [htags, h, Option.elim_some]

theorem Configuration.get?_headerTags_settings {config : Configuration} {entries : List HeaderTag}
    (hconfig : config.headerTags = entries.map fun entry => (lowerAscii entry.header, entry.name))
    (hentries : ∀ entry ∈ entries, entry.IsListable)
    (hheaders : entries.Pairwise fun a b => sameIgnoringCase a.header b.header = false)
    {name tag : String} : config.settings.headerTags.get? name = some tag ↔
      ∃ entry ∈ entries, lowerAscii entry.header = name ∧ entry.name = tag := by
  have hascii : ∀ mapping ∈ config.headerTags, mapping.1.toList.all isAscii = true := by
    rw [hconfig, List.forall_mem_map]
    exact fun entry hentry => all_isAscii_lowerAscii (hentries entry hentry).ascii
  have hnames : config.headerTags.Pairwise fun a b => sameIgnoringCase a.1 b.1 = false := by
    rw [hconfig, List.pairwise_map]
    simpa only [sameIgnoringCase, lowerAscii_lowerAscii] using hheaders
  have hmap : config.settings.headerTags = TextMap.ofList (lowerNames config.headerTags) := rfl
  rw [hmap, get?_ofList_lowerNames hascii hnames, hconfig]
  simp [lowerAscii_lowerAscii]

/-- A listed header is tagged as it is listed: each tag has the last value of its header, and there are no
other tags. -/
theorem Environment.headerTags_of_lists {env : Environment} {pieces : List String}
    {entries : List HeaderTag} (henv : env.get? .headerTags = some (",".intercalate pieces))
    (hlists : HeaderTag.Lists pieces entries) (hentries : ∀ entry ∈ entries, entry.IsListable)
    (hheaders : entries.Pairwise fun a b => sameIgnoringCase a.header b.header = false)
    (hnames : entries.Pairwise fun a b => a.name ≠ b.name) :
    let config := env.configuration.value
    config.headerTags = entries.map (fun entry => (lowerAscii entry.header, entry.name)) ∧
      ∀ start headers tag value,
        (SideData.collect config.settings start headers).value.tags.get? tag = some value ↔
          ∃ entry ∈ entries, entry.name = tag ∧ ∃ header, headers.LastOf
            (fun header => sameIgnoringCase header.name entry.header = true) header ∧
            header.value = value := by
  intro config
  have hconfig : config.headerTags =
      entries.map fun entry => (lowerAscii entry.header, entry.name) := by
    rw [env.headerTags_configuration henv, HeaderTag.readHeaderTags_of_lists hentries hlists]
  refine ⟨hconfig, fun start headers tag value => ?_⟩
  have htagged (name : String) : config.settings.headerTags.get? name = some tag ↔
      ∃ entry ∈ entries, lowerAscii entry.header = name ∧ entry.name = tag :=
    Configuration.get?_headerTags_settings hconfig hentries hheaders
  -- only one entry has the tag, so the headers that are configured for it are those of the entry
  have hkind {entry : HeaderTag} (hentry : entry ∈ entries) (hname : entry.name = tag)
      (header : Header) : config.settings.headerTags.get? (lowerAscii header.name) = some tag ↔
        sameIgnoringCase header.name entry.header = true := by
    rw [htagged, sameIgnoringCase_iff]
    constructor
    · rintro ⟨other, hother, hheader, hsame⟩
      have hunique := List.inj_on_of_nodup_map (List.pairwise_map.mpr hnames) hother hentry
        (hsame.trans hname.symm)
      rw [← hunique, hheader]
    · exact fun hheader => ⟨entry, hentry, hheader.symm, hname⟩
  rw [SideData.get?_tags_collect_eq_some_iff]
  constructor
  · rintro ⟨header, hlast, hvalue⟩
    obtain ⟨entry, hentry, -, hname⟩ := (htagged _).mp hlast.kind
    simp only [hkind hentry hname] at hlast
    exact ⟨entry, hentry, hname, header, hlast, hvalue⟩
  · rintro ⟨entry, hentry, hname, header, hlast, hvalue⟩
    simp only [← hkind hentry hname] at hlast
    exact ⟨header, hlast, hvalue⟩

/-- An environment that tags two headers, the second one by default. -/
def taggingEnvironment : Environment where
  get?
    | .headerTags => some " ,X-Request-Id : req:id\t,,User.Agent "
    | _ => none

theorem Environment.headerTags_of_lists_padded :
    let config := taggingEnvironment.configuration.value
    config.headerTags = [("x-request-id", "req:id"),
        ("user.agent", "http.request.headers.user_agent")] ∧
      (SideData.collect config.settings none ⟨[⟨"X-REQUEST-ID", "1"⟩, ⟨"x-request-id", "2"⟩,
        ⟨"accept", "3"⟩]⟩).value.tags.get? "req:id" = some "2" := by
  intro config
  have hrequest : HeaderTag.Writes ⟨"X-Request-Id", some "req:id"⟩ "X-Request-Id : req:id\t" := by
    have hpiece : "X-Request-Id : req:id\t" =
        "" ++ ("X-Request-Id" ++ " " ++ ":" ++ (" " ++ "req:id")) ++ "\t" := by decide
    rw [hpiece]
    exact .tagged rfl (by decide) (by decide) (by decide) (by decide)
  have hagent : HeaderTag.Writes ⟨"User.Agent", none⟩ "User.Agent " := by
    have hpiece : "User.Agent " = "" ++ "User.Agent" ++ " " := by decide
    rw [hpiece]
    exact .bare rfl (by decide) (by decide)
  have hrequestListable : HeaderTag.IsListable ⟨"X-Request-Id", some "req:id"⟩ :=
    ⟨by decide, by decide, by decide, by rintro tag ⟨⟩; decide⟩
  have hagentListable : HeaderTag.IsListable ⟨"User.Agent", none⟩ :=
    ⟨by decide, by decide, by decide, by rintro tag ⟨⟩⟩
  have hlists : HeaderTag.Lists [" ", "X-Request-Id : req:id\t", "", "User.Agent "]
      [⟨"X-Request-Id", some "req:id"⟩, ⟨"User.Agent", none⟩] :=
    .blank (by decide) (.entry hrequest (.blank (by decide) (.entry hagent .nil)))
  have henv : taggingEnvironment.get? .headerTags =
      some (",".intercalate [" ", "X-Request-Id : req:id\t", "", "User.Agent "]) := by decide
  obtain ⟨hconfig, htags⟩ := headerTags_of_lists henv hlists
    (List.forall_mem_cons.mpr ⟨hrequestListable, List.forall_mem_singleton.mpr hagentListable⟩)
    (by decide) (by decide)
  have hlast : (Headers.mk [⟨"X-REQUEST-ID", "1"⟩, ⟨"x-request-id", "2"⟩, ⟨"accept", "3"⟩]).LastOf
      (fun header => sameIgnoringCase header.name "X-Request-Id" = true) ⟨"x-request-id", "2"⟩ :=
    ⟨[⟨"X-REQUEST-ID", "1"⟩], [⟨"accept", "3"⟩], rfl, by decide, by decide⟩
  exact ⟨hconfig.trans (by decide),
    (htags _ _ _ _).mpr ⟨_, List.mem_cons_self, rfl, _, hlast, rfl⟩⟩

end TraceHeaders
