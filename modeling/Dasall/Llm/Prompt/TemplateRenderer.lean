import Dasall.Lib.Markers
import Dasall.Llm.Prompt.TemplateText

/-!
# The template renderer

A template is literal text and tags. The tags are found in the template before anything is written
in their place, so that a value never takes part in the search. A value is written with its
delimiters escaped, except where a run of three or more braces has an odd length: its last brace
stays behind another one.
-/

open Dasall.Lib Dasall.Lib.Ascii Dasall.Lib.Text Dasall.Lib.Markers

namespace Dasall.Llm.Prompt

structure TemplateRendererConfig where
  templateEngine : Bytes := str "simple_var"
  maxVariableLength : UInt64 := 100 * 1024
deriving DecidableEq

def TemplateRendererConfig.hasConsistentValues (config : TemplateRendererConfig) : Bool :=
  config.templateEngine == str "simple_var" && decide (0 < config.maxVariableLength)

structure TemplateRenderResult where
  renderedText : Bytes := []
  warnings : List Bytes := []
  nestedRenderRejected : Bool := false
  truncatedValues : Bool := false
deriving DecidableEq

structure TemplateRenderer where
  config : TemplateRendererConfig := {}
  initialized : Bool := false

def TemplateRenderer.init (config : TemplateRendererConfig) : TemplateRenderer × Bool :=
  if !config.hasConsistentValues then ({}, false) else ({ config, initialized := true }, true)

/-- `TemplateVariables`: what is stored under a name. -/
abbrev TemplateVariables := Bytes → Option Bytes

def isValidVariableName (variableName : Bytes) : Bool :=
  !variableName.isEmpty && decide (variableName.length ≤ 64) &&
    variableName.all fun byte => isAlnum byte || byte == 95

def containsTemplateDelimiter (value : Bytes) : Bool :=
  (findFirst openDelimiter value).isSome || (findFirst closeDelimiter value).isSome

def TemplateRenderResult.append (result : TemplateRenderResult) (text : Bytes) :
    TemplateRenderResult :=
  { result with renderedText := result.renderedText ++ text }

def TemplateRenderResult.warn (result : TemplateRenderResult) (warning : String) (name : Bytes) :
    TemplateRenderResult :=
  { result with warnings := result.warnings ++ [str warning ++ name] }

def renderValue (config : TemplateRendererConfig) (variableName value : Bytes)
    (result : TemplateRenderResult) : TemplateRenderResult :=
  let (renderedValue, result) :=
    if containsTemplateDelimiter value then
      (escapeTemplateDelimiters value,
        { result with nestedRenderRejected := true }.warn "nested_render_rejected:" variableName)
    else (value, result)
  let (renderedValue, result) :=
    if config.maxVariableLength.toNat < countUtf8CodePoints renderedValue then
      (truncateUtf8 renderedValue config.maxVariableLength.toNat,
        { result with truncatedValues := true }.warn "value_truncated:" variableName)
    else (renderedValue, result)
  result.append renderedValue

def renderTag (config : TemplateRendererConfig) (templateVariables : TemplateVariables)
    (placeholder variableName : Bytes) (result : TemplateRenderResult) : TemplateRenderResult :=
  if !isValidVariableName variableName then
    (result.append placeholder).warn "unsupported_template_tag:" variableName
  else
    match templateVariables variableName with
    | none => (result.append placeholder).warn "unmatched_variable:" variableName
    | some value => renderValue config variableName value result

/-- The loop of `render`. Each turn moves the cursor by four bytes or more, so the length of the
template is fuel enough. -/
def renderLoop (config : TemplateRendererConfig) (templateVariables : TemplateVariables)
    (templateText : Bytes) : Nat → Nat → TemplateRenderResult → TemplateRenderResult
  | 0, _, result => result
  | fuel + 1, cursor, result =>
    if cursor < templateText.length then
      match find templateText openDelimiter cursor with
      | none => result.append (templateText.drop cursor)
      | some opening =>
        let result := result.append ((templateText.drop cursor).take (opening - cursor))
        match find templateText closeDelimiter (opening + 2) with
        | none => result.append (templateText.drop opening)
        | some close =>
          let placeholder := (templateText.drop opening).take (close + 2 - opening)
          let variableName := (templateText.drop (opening + 2)).take (close - opening - 2)
          renderLoop config templateVariables templateText fuel (close + 2)
            (renderTag config templateVariables placeholder variableName result)
    else result

def TemplateRenderer.render (renderer : TemplateRenderer) (templateText : Bytes)
    (templateVariables : TemplateVariables) : TemplateRenderResult :=
  if !renderer.initialized then
    { renderedText := templateText, warnings := [str "renderer_not_initialized"] }
  else renderLoop renderer.config templateVariables templateText templateText.length 0 {}

/-! ## The segments of a template -/

inductive Segment where
  | literal (text : Bytes)
  | tag (variableName : Bytes)
deriving DecidableEq

def Segment.source : Segment → Bytes
  | .literal text => text
  | .tag variableName => openDelimiter ++ variableName ++ closeDelimiter

/-- A tag runs from the first opening delimiter to the first closing one behind it. -/
def segmentsLoop : Nat → Bytes → List Segment
  | 0, _ => []
  | fuel + 1, text =>
    if text.isEmpty then []
    else
      match findFirst openDelimiter text with
      | none => [.literal text]
      | some opening =>
        match findFirst closeDelimiter (text.drop (opening + 2)) with
        | none => [.literal (text.take opening), .literal (text.drop opening)]
        | some length =>
          .literal (text.take opening) :: .tag ((text.drop (opening + 2)).take length) ::
            segmentsLoop fuel (text.drop (opening + 2 + length + 2))

/-- What a template is made of, whatever the variables are. -/
def segments (templateText : Bytes) : List Segment :=
  segmentsLoop templateText.length templateText

theorem findFirst_some {pattern text : Bytes} {place : Nat}
    (h : findFirst pattern text = some place) :
    text.drop place = pattern ++ text.drop (place + pattern.length) := by
  induction text generalizing place with
  | nil =>
    rw [findFirst] at h
    split at h
    · next hempty =>
      obtain rfl := Option.some.inj h
      rw [List.isEmpty_iff.mp hempty]
      rfl
    · cases h
  | cons item text ih =>
    rw [findFirst] at h
    split at h
    · next hstarts =>
      obtain rfl := Option.some.inj h
      obtain ⟨rest, hrest⟩ := List.isPrefixOf_iff_prefix.mp hstarts
      rw [Nat.zero_add, ← hrest, List.drop_left, List.drop_zero]
    · obtain ⟨earlier, hearlier, rfl⟩ := Option.map_eq_some_iff.mp h
      rw [List.drop_succ_cons, ih hearlier, Nat.add_right_comm, List.drop_succ_cons]

/-- Where a tag is found, the text goes on with its source. -/
theorem drop_tag {text : Bytes} {opening length : Nat}
    (hopen : findFirst openDelimiter text = some opening)
    (hclose : findFirst closeDelimiter (text.drop (opening + 2)) = some length) :
    ((text.drop (opening + 2)).take length).length = length ∧
      text.drop opening = (Segment.tag ((text.drop (opening + 2)).take length)).source ++
        text.drop (opening + 2 + length + 2) := by
  have hopened := findFirst_some hopen
  have hclosed := findFirst_some hclose
  have hlong := congrArg List.length hclosed
  rw [List.length_append, List.length_drop, List.length_drop] at hlong
  have hdelimiter : closeDelimiter.length = 2 := rfl
  constructor
  · rw [List.length_take, List.length_drop]
    omega
  · calc text.drop opening
      _ = openDelimiter ++ text.drop (opening + 2) := hopened
      _ = openDelimiter ++ ((text.drop (opening + 2)).take length ++
          (text.drop (opening + 2)).drop length) := by rw [List.take_append_drop]
      _ = openDelimiter ++ ((text.drop (opening + 2)).take length ++
          (closeDelimiter ++ text.drop (opening + 2 + length + 2))) := by
        rw [hclosed, List.drop_drop, hdelimiter, ← Nat.add_assoc]
      _ = _ := by simp [Segment.source]

theorem segmentsLoop_source (fuel : Nat) (text : Bytes) (hfuel : text.length ≤ fuel) :
    (segmentsLoop fuel text).flatMap Segment.source = text := by
  induction fuel generalizing text with
  | zero =>
    rw [List.length_eq_zero_iff.mp (Nat.le_zero.mp hfuel)]
    rfl
  | succ fuel ih =>
    rw [segmentsLoop]
    split
    · next hempty =>
      rw [List.isEmpty_iff.mp hempty]
      rfl
    · next hne =>
      split
      · simp [Segment.source]
      · next opening hopening =>
        split
        · simp [Segment.source]
        · next length hclose =>
          obtain ⟨-, htag⟩ := drop_tag hopening hclose
          rw [List.flatMap_cons, List.flatMap_cons, ih _ (by rw [List.length_drop]; omega), ← htag]
          exact List.take_append_drop opening text

/-- The source of the segments is the template, all of it. -/
theorem segments_source (templateText : Bytes) :
    (segments templateText).flatMap Segment.source = templateText :=
  segmentsLoop_source _ _ (le_refl _)

def renderSegment (config : TemplateRendererConfig) (templateVariables : TemplateVariables)
    (result : TemplateRenderResult) : Segment → TemplateRenderResult
  | .literal text => result.append text
  | .tag variableName =>
    renderTag config templateVariables (Segment.tag variableName).source variableName result

variable {config : TemplateRendererConfig} {templateVariables : TemplateVariables}

/-- The loop goes through the segments from left to right. -/
theorem renderLoop_eq (templateText : Bytes) (fuel cursor : Nat) (result : TemplateRenderResult) :
    renderLoop config templateVariables templateText fuel cursor result =
      (segmentsLoop fuel (templateText.drop cursor)).foldl
        (renderSegment config templateVariables) result := by
  induction fuel generalizing cursor result with
  | zero => rfl
  | succ fuel ih =>
    rw [renderLoop, segmentsLoop]
    by_cases hcursor : cursor < templateText.length
    swap
    · have hend : templateText.drop cursor = [] := List.drop_eq_nil_of_le (by omega)
      rw [if_neg hcursor, hend]
      rfl
    have hmore : (templateText.drop cursor).isEmpty = false := by
      rw [List.isEmpty_eq_false_iff, ← List.length_pos_iff, List.length_drop]
      omega
    rw [if_pos hcursor, hmore, if_neg (by decide)]
    unfold find
    rw [if_pos (by omega)]
    cases hopen : findFirst openDelimiter (templateText.drop cursor) with
    | none => rfl
    | some opening =>
      have hroom : cursor + opening + 2 ≤ templateText.length := by
        have hlong := congrArg List.length (findFirst_some hopen)
        rw [List.length_drop, List.length_drop, List.length_append] at hlong
        have hdelimiter : openDelimiter.length = 2 := rfl
        omega
      have hbehind : templateText.drop (cursor + opening + 2) =
          (templateText.drop cursor).drop (opening + 2) := by rw [List.drop_drop, Nat.add_assoc]
      simp only [Option.map_some, if_pos hroom, hbehind]
      cases hclose : findFirst closeDelimiter ((templateText.drop cursor).drop (opening + 2)) with
      | none =>
        have hliteral : cursor + opening - cursor = opening := by omega
        simp only [Option.map_none, hliteral]
        rw [← List.drop_drop]
        rfl
      | some length =>
        obtain ⟨hlength, htag⟩ := drop_tag hopen hclose
        have hliteral : cursor + opening - cursor = opening := by omega
        have hname : cursor + opening + 2 + length - (cursor + opening) - 2 = length := by omega
        have hplaceholder : (templateText.drop (cursor + opening)).take
            (cursor + opening + 2 + length + 2 - (cursor + opening)) =
              (Segment.tag (((templateText.drop cursor).drop (opening + 2)).take length)).source := by
          rw [← List.drop_drop, htag, List.take_left']
          simp only [Segment.source, List.length_append, hlength, openDelimiter, closeDelimiter,
            List.length_cons, List.length_nil]
          omega
        have hrest : templateText.drop (cursor + opening + 2 + length + 2) =
            (templateText.drop cursor).drop (opening + 2 + length + 2) := by
          rw [List.drop_drop]
          congr 1
          omega
        simp only [Option.map_some, hliteral, hname, hplaceholder, ih, hrest]
        rfl

/-! ## What is written for a value -/

/-- What the renderer puts in the place of a tag. -/
def writtenValue (config : TemplateRendererConfig) (value : Bytes) : Bytes :=
  let escaped := if containsTemplateDelimiter value then escapeTemplateDelimiters value else value
  if config.maxVariableLength.toNat < countUtf8CodePoints escaped then
    truncateUtf8 escaped config.maxVariableLength.toNat
  else escaped

theorem renderValue_text (variableName value : Bytes) (result : TemplateRenderResult) :
    (renderValue config variableName value result).renderedText =
      result.renderedText ++ writtenValue config value := by
  unfold renderValue writtenValue
  by_cases hdelimiter : containsTemplateDelimiter value = true
  · simp only [hdelimiter, if_true]
    split <;> rfl
  · simp only [hdelimiter, Bool.false_eq_true, if_false]
    split <;> rfl

/-- The value of a tag that is substituted. -/
def TemplateRenderer.substituted (renderer : TemplateRenderer)
    (templateVariables : TemplateVariables) (variableName : Bytes) : Option Bytes :=
  if renderer.initialized && isValidVariableName variableName then templateVariables variableName
  else none

/-- A literal stands for itself, and so does a tag that is not substituted. -/
def TemplateRenderer.written (renderer : TemplateRenderer) (templateVariables : TemplateVariables) :
    Segment → Bytes
  | .literal text => text
  | .tag variableName =>
    match renderer.substituted templateVariables variableName with
    | some value => writtenValue renderer.config value
    | none => (Segment.tag variableName).source

theorem renderSegments_text (renderer : TemplateRenderer) (hready : renderer.initialized = true)
    (templateVariables : TemplateVariables) (pieces : List Segment) (result : TemplateRenderResult) :
    (pieces.foldl (renderSegment renderer.config templateVariables) result).renderedText =
      result.renderedText ++ pieces.flatMap (renderer.written templateVariables) := by
  induction pieces generalizing result with
  | nil => simp
  | cons piece pieces ih =>
    have hpiece : (renderSegment renderer.config templateVariables result piece).renderedText =
        result.renderedText ++ renderer.written templateVariables piece := by
      cases piece with
      | literal text => rfl
      | tag variableName =>
        simp only [renderSegment, renderTag, TemplateRenderer.written, TemplateRenderer.substituted,
          hready, Bool.true_and]
        split
        · next hvalid =>
          rw [Bool.not_eq_true'] at hvalid
          rw [hvalid]
          rfl
        · next hvalid =>
          rw [Bool.not_eq_true', Bool.not_eq_false] at hvalid
          rw [hvalid, if_pos rfl]
          cases templateVariables variableName with
          | none => rfl
          | some value => exact renderValue_text variableName value result
    rw [List.foldl_cons, ih, hpiece, List.flatMap_cons, List.append_assoc]

theorem render_text (renderer : TemplateRenderer) (templateText : Bytes)
    (templateVariables : TemplateVariables) :
    (renderer.render templateText templateVariables).renderedText =
      (segments templateText).flatMap (renderer.written templateVariables) := by
  unfold TemplateRenderer.render
  cases hready : renderer.initialized with
  | false =>
    have hwritten : renderer.written templateVariables = Segment.source := by
      funext piece
      cases piece with
      | literal text => rfl
      | tag variableName => simp [TemplateRenderer.written, TemplateRenderer.substituted, hready]
    rw [hwritten, segments_source]
    rfl
  | true =>
    have htext := renderSegments_text renderer hready templateVariables (segments templateText) {}
    rw [Bool.not_true, if_neg (by decide), renderLoop_eq, List.drop_zero]
    exact htext

variable (value : Bytes)

theorem escape_of_absent (h : containsTemplateDelimiter value = false) :
    escapeTemplateDelimiters value = value := by
  simp only [containsTemplateDelimiter, Bool.or_eq_false_iff, Option.isSome_eq_false_iff,
    Option.isNone_iff_eq_none, findFirst_eq_none_iff] at h
  induction value with
  | nil => rfl
  | cons first rest ih =>
    simp only [List.infix_cons_iff, not_or] at h
    have hrest := ih ⟨h.1.2, h.2.2⟩
    cases rest with
    | nil => rfl
    | cons second rest =>
      have hopen : ¬ (first = 123 ∧ second = 123) := by
        rintro ⟨rfl, rfl⟩
        exact h.1.1 ⟨rest, rfl⟩
      have hclose : ¬ (first = 125 ∧ second = 125) := by
        rintro ⟨rfl, rfl⟩
        exact h.2.1 ⟨rest, rfl⟩
      rw [escapeTemplateDelimiters, if_neg hopen, if_neg hclose, hrest]

/-- What is written are the first pieces of the escaped value. -/
theorem writtenValue_eq :
    writtenValue config value = ((Doubled.escape isBrace [92] (characters value)).take
      config.maxVariableLength.toNat).flatten := by
  obtain ⟨hdecoded, hvalue⟩ := characters_decoded value
  obtain ⟨hescaped, -⟩ := hdecoded.escape
  have hflatten := escapeTemplateDelimiters_flatten hdecoded
  rw [hvalue] at hflatten
  have htext : (if containsTemplateDelimiter value then escapeTemplateDelimiters value else value) =
      (Doubled.escape isBrace [92] (characters value)).flatten := by
    split
    · exact hflatten
    · next habsent =>
      rw [← hflatten, escape_of_absent value (by simpa using habsent)]
  unfold writtenValue
  simp only [htext, hescaped.count_eq, hescaped.truncate_eq]
  split
  · rfl
  · next hshort => rw [List.take_of_length_le (by omega)]

/-! ## No template syntax is injected -/

/-- What is written for a value holds no delimiter, is no longer than the bound, and is valid where
the value is. -/
structure WrittenSafely (config : TemplateRendererConfig) (value : Bytes) : Prop where
  noOpen : ¬ openDelimiter <:+: writtenValue config value
  noClose : ¬ closeDelimiter <:+: writtenValue config value
  short : countUtf8CodePoints (writtenValue config value) ≤ config.maxVariableLength.toNat
  valid : Utf8.Valid value → Utf8.Valid (writtenValue config value)

/-- No run of three or more equal braces of odd length ends, escapes counted, within the bound. -/
def NoOddRun (config : TemplateRendererConfig) (value : Bytes) : Prop :=
  ∀ brace ∈ [[123], [125]], ∀ front count rest,
    Doubled.OddRun (characters value) brace front count rest →
      config.maxVariableLength.toNat < Doubled.writtenLength isBrace front count

theorem written_decoded :
    Decoded ((Doubled.escape isBrace [92] (characters value)).take
      config.maxVariableLength.toNat) :=
  (characters_decoded value).1.escape.1.take _

theorem written_infix_iff (brace : Byte) (hbrace : isBrace [brace] = true) :
    [brace, brace] <:+: writtenValue config value ↔
      ∃ front count rest, Doubled.OddRun (characters value) [brace] front count rest ∧
        Doubled.writtenLength isBrace front count ≤ config.maxVariableLength.toNat := by
  have hlow : brace.toNat < 0x80 ∧ [92] ≠ [brace] := by
    rcases (isBrace_iff [brace]).mp hbrace with h | h
    · obtain rfl := (List.cons.inj h).1
      decide
    · obtain rfl := (List.cons.inj h).1
      decide
  rw [writtenValue_eq, infix_flatten_iff (written_decoded value) hlow.1]
  exact Doubled.take_escape_infix_iff hlow.2 hbrace _ _

theorem writtenSafely_iff : WrittenSafely config value ↔ NoOddRun config value := by
  have hopen := @written_infix_iff config value 123 (by decide)
  have hclose := @written_infix_iff config value 125 (by decide)
  constructor
  · intro hsafe brace hbrace front count rest hrun
    by_contra hwithin
    rw [Nat.not_lt] at hwithin
    simp only [List.mem_cons, List.not_mem_nil, or_false] at hbrace
    rcases hbrace with rfl | rfl
    · exact hsafe.noOpen (hopen.mpr ⟨front, count, rest, hrun, hwithin⟩)
    · exact hsafe.noClose (hclose.mpr ⟨front, count, rest, hrun, hwithin⟩)
  · intro h
    refine ⟨?_, ?_, ?_, ?_⟩
    · intro hinfix
      obtain ⟨front, count, rest, hrun, hwithin⟩ := hopen.mp hinfix
      have := h [123] (by simp) front count rest hrun
      omega
    · intro hinfix
      obtain ⟨front, count, rest, hrun, hwithin⟩ := hclose.mp hinfix
      have := h [125] (by simp) front count rest hrun
      omega
    · rw [writtenValue_eq, (written_decoded value).count_eq]
      exact List.length_take_le _ _
    · rintro ⟨chars, rfl⟩
      rw [writtenValue_eq, characters_encode]
      apply valid_flatten
      intro piece hmem
      rcases mem_escape (List.mem_of_mem_take hmem) with hpiece | rfl
      · obtain ⟨c, -, rfl⟩ := List.mem_map.mp hpiece
        exact Utf8.valid_encode c
      · exact Utf8.valid_ascii [92] (by decide)

/-- The output is the segments of the template with what is written for each tag that is
substituted, and no such text is template syntax or too long. -/
structure RendersSafely (renderer : TemplateRenderer) (templateText : Bytes)
    (templateVariables : TemplateVariables) : Prop where
  source : (segments templateText).flatMap Segment.source = templateText
  text : (renderer.render templateText templateVariables).renderedText =
    (segments templateText).flatMap (renderer.written templateVariables)
  written : ∀ variableName value, .tag variableName ∈ segments templateText →
    renderer.substituted templateVariables variableName = some value →
    WrittenSafely renderer.config value

/-- The renderer writes no template syntax exactly when no value that it substitutes has a run of
braces of odd length, from three on, in the part that is kept. -/
theorem rendersSafely_iff (renderer : TemplateRenderer) (templateText : Bytes)
    (templateVariables : TemplateVariables) :
    RendersSafely renderer templateText templateVariables ↔
      ∀ variableName value, .tag variableName ∈ segments templateText →
        renderer.substituted templateVariables variableName = some value →
        NoOddRun renderer.config value := by
  constructor
  · intro hsafe variableName value hmem hvalue
    exact (writtenSafely_iff value).mp (hsafe.written variableName value hmem hvalue)
  · intro h
    refine ⟨segments_source templateText, render_text renderer templateText templateVariables, ?_⟩
    intro variableName value hmem hvalue
    exact (writtenSafely_iff value).mpr (h variableName value hmem hvalue)

/-- Three opening braces are written as two escaped ones and a third. -/
theorem rendersSafely_three :
    ¬ RendersSafely (TemplateRenderer.init {}).1 (str "\x7b\x7ba\x7d\x7d")
      (fun _ => some [123, 123, 123]) := by
  intro hsafe
  have hwritten := hsafe.written (str "a") [123, 123, 123] (by decide) (by decide)
  exact hwritten.noOpen (by decide)

end Dasall.Llm.Prompt
