import ChatPlatform.Foundation.Words
import ChatPlatform.Web.Hosts

/-!
# What the text of a page is

A page shows a text that is escaped in its markup. The page parser decodes the character
references and reports the text, and the service decodes the references of what was
reported once more; plain text is decoded although it has none. So the text that is shown
comes back exactly when nothing of it looks like a reference and the parser holds nothing
of it back.
-/

namespace ChatPlatform
namespace Web

open Text

/-! ## Pages -/

/-- A piece of the markup around a text. Its tags carry no attributes, which the extractor does not
read. -/
inductive Markup where
  /-- A start tag. -/
  | startTag (tag : Str)
  /-- An end tag. -/
  | endTag (tag : Str)
  /-- An element whose content is not shown, in the pieces that the parser reports. -/
  | hidden (tag : Str) (pieces : List Str)
  deriving DecidableEq

/-- How a piece of markup is written. -/
def Markup.render : Markup → Str
  | .startTag tag => '<' :: tag ++ ['>']
  | .endTag tag => '<' :: '/' :: tag ++ ['>']
  | .hidden tag pieces => '<' :: tag ++ ['>'] ++ pieces.flatten ++ ('<' :: '/' :: tag ++ ['>'])

/-- What the parser reports of a piece of markup. -/
def Markup.events : Markup → List HtmlEvent
  | .startTag tag => [.startTag tag]
  | .endTag tag => [.endTag tag]
  | .hidden tag pieces => .startTag tag :: pieces.map .data ++ [.endTag tag]

/-- The tags are ordinary ones, and the elements that are not shown scripts and styles. -/
def Markup.WellPlaced (lower : Str → Str) : Markup → Prop
  | .startTag tag | .endTag tag => HtmlTextExtractor.isSkipped (lower tag) = false
  | .hidden tag _ => HtmlTextExtractor.isSkipped (lower tag) = true

/-- A character as it is escaped. -/
def escapeChar : Char → Str
  | '&' => "&amp;".toList
  | '<' => "&lt;".toList
  | '>' => "&gt;".toList
  | '"' => "&quot;".toList
  | '\x27' => "&#x27;".toList
  | c => [c]

/-- A text as it is escaped. -/
def escape (s : Str) : Str := s.flatMap escapeChar

/-- The body of a page that shows a text. -/
def page (before : List Markup) (s : Str) (after : List Markup) : Str :=
  before.flatMap Markup.render ++ escape s ++ after.flatMap Markup.render

/-- What the parser does with a page that shows a text: it reports the markup, and the text
with its references decoded, except for an end of it that it may hold back as long as no
tag follows. -/
structure Reports
    (tools : Tools)
    (before : List Markup)
    (s : Str)
    (after : List Markup)
    (reported held : Str) : Prop where
  /-- What is reported and what is held back are the text. -/
  whole : s = reported ++ held
  /-- A tag ends the text. -/
  finished : after ≠ [] → held = []
  /-- The events while the parser is fed. -/
  events : tools.feed (page before s after) =
    before.flatMap Markup.events ++ ([HtmlEvent.data reported].filter fun _ => reported ≠ []) ++
      after.flatMap Markup.events

/-- Decoding a reference takes away more characters than it gives. -/
def ReferencesShrink (unescape : Str → Str) : Prop :=
  ∀ s, unescape s = s ∨ (ink (unescape s)).length < (ink s).length

/-! ## Extracting -/

/-- Between two texts no element is open whose content is not shown. -/
def Showing (parts : List Str) (state : HtmlTextExtractor) : Prop :=
  state.parts = parts ∧ state.skipDepth = 0

/-- The content of an element that is not shown leaves no part. -/
theorem handle_hidden
    (lower : Str → Str)
    (pieces : List Str)
    (state : HtmlTextExtractor)
    (isHidden : 0 < state.skipDepth) :
    (pieces.map .data).foldl (HtmlTextExtractor.handle lower) state = state := by
  induction pieces with
  | nil => rfl
  | cons piece rest inductionHypothesis =>
      have unchanged : HtmlTextExtractor.handle lower state (.data piece) = state := by
        unfold HtmlTextExtractor.handle
        exact if_pos (Or.inl isHidden)
      rw [List.map_cons, List.foldl_cons, unchanged, inductionHypothesis]

/-- A text that is shown leaves a part, collapsed, unless it is white space. -/
theorem handle_data
    (lower : Str → Str)
    (state : HtmlTextExtractor)
    (isShown : state.skipDepth = 0)
    (text : Str) :
    HtmlTextExtractor.handle lower state (.data text) =
      if collapse text = [] then state
      else { state with
        parts := state.parts ++ [collapse text]
        titleParts := state.titleParts ++ if state.inTitle then [collapse text] else [] } := by
  have visible : (0 < state.skipDepth ∨ collapse text = []) ↔ collapse text = [] :=
    or_iff_right (by omega)
  exact if_congr visible rfl rfl

/-- Markup leaves no part. -/
theorem Showing.after_markup
    {lower : Str → Str}
    {parts : List Str}
    {state : HtmlTextExtractor}
    (showing : Showing parts state)
    {markup : Markup}
    (wellPlaced : markup.WellPlaced lower) :
    Showing parts (markup.events.foldl (HtmlTextExtractor.handle lower) state) := by
  obtain ⟨isParts, isShown⟩ := showing
  cases markup with
  | startTag tag =>
      refine ⟨isParts, ?_⟩
      have ordinary : HtmlTextExtractor.isSkipped (lower tag) = false := wellPlaced
      simp only [Markup.events, List.foldl_cons, List.foldl_nil, HtmlTextExtractor.handle,
        ordinary, isShown, Bool.false_eq_true, if_false]
  | endTag tag =>
      refine ⟨isParts, ?_⟩
      have ordinary : HtmlTextExtractor.isSkipped (lower tag) = false := wellPlaced
      simp only [Markup.events, List.foldl_cons, List.foldl_nil, HtmlTextExtractor.handle,
        ordinary, isShown, Bool.false_eq_true, if_false]
  | hidden tag pieces =>
      have skipped : HtmlTextExtractor.isSkipped (lower tag) = true := wellPlaced
      simp only [Markup.events, List.foldl_cons, List.foldl_append, List.cons_append,
        List.foldl_nil]
      rw [handle_hidden lower pieces _ (by simp [HtmlTextExtractor.handle, skipped])]
      refine ⟨isParts, ?_⟩
      simp only [HtmlTextExtractor.handle, skipped, isShown, if_true]

/-- Any markup around texts leaves no part. -/
theorem Showing.after_all
    {lower : Str → Str}
    {parts : List Str}
    {state : HtmlTextExtractor}
    (showing : Showing parts state)
    {markup : List Markup}
    (wellPlaced : ∀ piece ∈ markup, piece.WellPlaced lower) :
    Showing parts
      ((markup.flatMap Markup.events).foldl (HtmlTextExtractor.handle lower) state) := by
  induction markup generalizing state with
  | nil => exact showing
  | cons piece rest inductionHypothesis =>
      rw [List.flatMap_cons, List.foldl_append]
      exact inductionHypothesis (showing.after_markup (wellPlaced piece List.mem_cons_self))
        fun other held => wellPlaced other (List.mem_cons_of_mem _ held)

/-- The text of a page is what was reported, collapsed and decoded once more. -/
theorem extractText_page
    {tools : Tools}
    {content : List UInt8}
    {before after : List Markup}
    {s reported held : Str}
    (decoded : tools.decode content = page before s after)
    (reports : Reports tools before s after reported held)
    (beforePlaced : ∀ piece ∈ before, piece.WellPlaced tools.lower)
    (afterPlaced : ∀ piece ∈ after, piece.WellPlaced tools.lower) :
    (extractText tools content textHtml).2 = tools.unescape (collapse reported) := by
  have start : Showing [] HtmlTextExtractor.init := ⟨rfl, rfl⟩
  have opened := start.after_all beforePlaced
  have shown : Showing (if collapse reported = [] then [] else [collapse reported])
      (([HtmlEvent.data reported].filter fun _ => reported ≠ []).foldl
        (HtmlTextExtractor.handle tools.lower)
        ((before.flatMap Markup.events).foldl (HtmlTextExtractor.handle tools.lower)
          HtmlTextExtractor.init)) := by
    obtain ⟨noParts, isShown⟩ := opened
    generalize (before.flatMap Markup.events).foldl (HtmlTextExtractor.handle tools.lower)
      HtmlTextExtractor.init = state at noParts isShown
    by_cases empty : reported = []
    · rw [empty]
      exact ⟨noParts, isShown⟩
    · have kept : ([HtmlEvent.data reported].filter fun _ => reported ≠ []) =
          [.data reported] := by simp [empty]
      rw [kept, List.foldl_cons, List.foldl_nil, handle_data tools.lower state isShown]
      by_cases blank : collapse reported = []
      · rw [if_pos blank, if_pos blank]
        exact ⟨noParts, isShown⟩
      · rw [if_neg blank, if_neg blank, noParts]
        exact ⟨rfl, isShown⟩
  have closed := shown.after_all afterPlaced
  have notPlain : textHtml ≠ textPlain := by decide
  unfold extractText
  rw [if_neg notPlain, decoded, reports.events, List.foldl_append, List.foldl_append]
  dsimp only
  rw [HtmlTextExtractor.text, closed.1]
  by_cases blank : collapse reported = []
  · rw [if_pos blank, blank]
    rfl
  · rw [if_neg blank, join_singleton, strip_collapse]

/-- Decoding references leaves a text whose visible characters it keeps. -/
theorem unescape_eq_of_ink
    {unescape : Str → Str}
    (shrink : ReferencesShrink unescape)
    {s : Str}
    (notFewer : (ink s).length ≤ (ink (unescape s)).length) : unescape s = s := by
  rcases shrink s with same | fewer
  · exact same
  · omega

/-- A page gives back the text it shows, collapsed, exactly when what the parser holds back
of it is white space and the collapsed text has no reference, and plain text is given back
collapsed exactly when it has none. -/
theorem extractText_inverts_iff
    (tools : Tools)
    (shrink : ReferencesShrink tools.unescape) :
    (∀ (content : List UInt8) (before after : List Markup) (s reported held : Str),
      tools.decode content = page before s after →
      Reports tools before s after reported held →
      (∀ piece ∈ before, piece.WellPlaced tools.lower) →
      (∀ piece ∈ after, piece.WellPlaced tools.lower) →
      ((extractText tools content textHtml).2 = collapse s ↔
        (∀ c ∈ held, isSpace c = true) ∧ tools.unescape (collapse s) = collapse s)) ∧
    ∀ content : List UInt8,
      (extractText tools content textPlain).2 = collapse (tools.decode content) ↔
        tools.unescape (tools.decode content) = tools.decode content := by
  constructor
  · intro content before after s reported held decoded reports beforePlaced afterPlaced
    rw [extractText_page decoded reports beforePlaced afterPlaced, reports.whole]
    have kept : (∀ c ∈ held, isSpace c = true) →
        collapse (reported ++ held) = collapse reported := by
      intro blank
      unfold collapse
      rw [words_append_of_isSpace blank]
    constructor
    · intro inverts
      have visible := congrArg (fun text => (ink text).length) inverts
      simp only [ink_collapse, ink_append, List.length_append] at visible
      have unchanged : tools.unescape (collapse reported) = collapse reported := by
        refine unescape_eq_of_ink shrink ?_
        rw [visible, ink_collapse]
        omega
      rw [unchanged, ink_collapse] at visible
      have blank : ∀ c ∈ held, isSpace c = true :=
        (ink_eq_nil_iff held).mp (List.length_eq_zero_iff.mp (by omega))
      exact ⟨blank, by rw [kept blank, unchanged]⟩
    · rintro ⟨blank, unchanged⟩
      rw [kept blank] at unchanged ⊢
      exact unchanged
  · intro content
    have plain : (extractText tools content textPlain).2 =
        collapse (tools.unescape (tools.decode content)) := by
      unfold extractText
      rw [if_pos rfl]
      rfl
    rw [plain]
    constructor
    · intro inverts
      have visible := congrArg (fun text => (ink text).length) inverts
      simp only [ink_collapse] at visible
      exact unescape_eq_of_ink shrink visible.ge
    · intro unchanged
      rw [unchanged]

/-! ## A reference that is shown -/

/-- A text that looks like a reference. -/
def referenceText : Str := "&lt;".toList

/-- Tools for texts with at most that reference. -/
def referenceTools : Tools where
  lower := Text.lower
  rejectsNetloc _ := false
  decode octets := octets.map fun octet => Char.ofNat octet.toNat
  unescape s := if s = referenceText then "<".toList else s
  feed s :=
    if s = "<p>&amp;lt;</p>".toList then
      [.startTag "p".toList, .data referenceText, .endTag "p".toList]
    else if s = "<p>a  b".toList then [.startTag "p".toList, .data "a  b".toList]
    else []

/-- The octets of a text without characters outside ASCII. -/
def octetsOf (s : Str) : List UInt8 := s.map fun c => UInt8.ofNat c.toNat

theorem referencesShrink_referenceTools : ReferencesShrink referenceTools.unescape := by
  intro s
  by_cases isReference : s = referenceText
  · subst isReference
    exact Or.inr (by decide)
  · exact Or.inl (if_neg isReference)

/-- A text without references comes back from a page and as plain text. -/
theorem extractText_inverts_words :
    (extractText referenceTools (octetsOf "<p>a  b".toList) textHtml).2 = "a b".toList ∧
      (extractText referenceTools (octetsOf "a  b".toList) textPlain).2 = "a b".toList := by
  obtain ⟨html, plain⟩ :=
    extractText_inverts_iff referenceTools referencesShrink_referenceTools
  have reports : Reports referenceTools [.startTag "p".toList] "a  b".toList []
      "a  b".toList [] := ⟨rfl, fun _ => rfl, by decide +kernel⟩
  have placed : ∀ piece ∈ [Markup.startTag "p".toList],
      piece.WellPlaced referenceTools.lower := by
    intro piece held
    rw [List.mem_singleton.mp held]
    show HtmlTextExtractor.isSkipped _ = false
    decide
  constructor
  · exact (html _ _ _ _ _ _ (by decide +kernel) reports placed
      (fun piece inside => absurd inside List.not_mem_nil)).mpr ⟨by decide, by decide +kernel⟩
  · exact (plain (octetsOf "a  b".toList)).mpr (by decide +kernel)

/-- A page that shows the characters of a reference, and such a plain text, come back as the
character that the reference stands for. -/
theorem not_extractText_inverts :
    ReferencesShrink referenceTools.unescape ∧
      Reports referenceTools [.startTag "p".toList] referenceText [.endTag "p".toList]
        referenceText [] ∧
      (extractText referenceTools
        (octetsOf (page [.startTag "p".toList] referenceText [.endTag "p".toList]))
        textHtml).2 ≠ collapse referenceText ∧
      (extractText referenceTools (octetsOf referenceText) textPlain).2 ≠
        collapse (referenceTools.decode (octetsOf referenceText)) := by
  refine ⟨referencesShrink_referenceTools, ⟨rfl, fun _ => rfl, by decide +kernel⟩, ?_, ?_⟩
  · decide +kernel
  · decide +kernel

end Web
end ChatPlatform
