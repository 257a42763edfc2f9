/-
The document of a page, read back.

A title is any text, and may hold tags, entities, the identifier of the message or a message.
Still, each of the three tags `<h1>`, `<h2>` and the one of the message stands in a document at
one place only: the parts that every page has avoid the tags (`avoids_frame`), and the parts
that are put in are escaped and hold no `<`.  So the text behind each tag is the one that was
put there (`textBehind?_html`), and a document tells its page (`html_injective`).
-/
import Mathlib.Tactic.Common
import ResultPages.Page
import ResultPages.Proofs.Page.Escape

namespace ResultPages

lemma Flow.heading_injective : Function.Injective Flow.heading := by
  intro f g h
  cases f <;> cases g <;> first | rfl | exact absurd h (by decide)

namespace Page

open Markup

/-! ### The parts of the document -/

/-- The tags behind which the title, the heading and the message stand. -/
def tags : List (List Char) := ["<h1>".toList, "<h2>".toList, displayTag.toList]

/-- The parts that are the same on all pages, the tags apart. -/
def frame : List (List Char) :=
  [opening.toList, " - ".toList, styling.toList, "</h1>\n    ".toList, "</h2>\n    ".toList,
    closing.toList]

lemma avoids_frame : ∀ tag ∈ tags, frame.all (avoids tag) := by
  unfold tags frame opening styling closing displayTag displayTarget
  repeat rw [String.toList_append]
  repeat rw [String.toList_ofList]
  decide +kernel

/-- No tag begins in another one. -/
lemma avoids_other_tag :
    avoids "<h1>".toList "<h2>".toList ∧ avoids "<h1>".toList displayTag.toList ∧
      avoids "<h2>".toList "<h1>".toList ∧ avoids "<h2>".toList displayTag.toList ∧
        avoids displayTag.toList "<h1>".toList ∧ avoids displayTag.toList "<h2>".toList := by
  unfold displayTag displayTarget
  repeat rw [String.toList_append]
  repeat rw [String.toList_ofList]
  decide

lemma exists_of_mem_tags : ∀ tag ∈ tags, ∃ name, tag = '<' :: name ∧ '<' ∉ name := by
  have hd : displayTag.toList = '<' :: "p id=\"statusMessage\">".toList := by
    unfold displayTag displayTarget
    repeat rw [String.toList_append]
    repeat rw [String.toList_ofList]
    rfl
  intro tag h
  simp only [tags, List.mem_cons, List.not_mem_nil, or_false] at h
  rcases h with rfl | rfl | rfl
  · exact ⟨['h', '1', '>'], String.toList_ofList, by decide⟩
  · exact ⟨['h', '2', '>'], String.toList_ofList, by decide⟩
  · exact ⟨_, hd, by decide⟩

/-- Escaped text avoids the tags. -/
lemma avoids_escape {tag : List Char} (h : tag ∈ tags) (cs : List Char) :
    avoids tag (escape cs) := by
  obtain ⟨name, rfl, -⟩ := exists_of_mem_tags tag h
  exact avoids_of_not_mem (not_mem_escape (by simp) cs)

/-- The document part by part. -/
def parts (p : Page) : List (List Char) :=
  [opening.toList, escape p.title.toList, " - ".toList, escape p.flow.heading.toList,
    styling.toList, "<h1>".toList, escape p.title.toList, "</h1>\n    ".toList,
    "<h2>".toList, escape p.flow.heading.toList, "</h2>\n    ".toList,
    displayTag.toList, escape p.message.toList, closing.toList]

lemma toList_html (p : Page) : p.html.toList = p.parts.flatten := by
  simp [html, parts, Markup.text]

/-! ### Reading behind a tag -/

/-- A tag that all other parts avoid stands once, and the text behind it is the next part. -/
lemma read_of_parts {tag text : List Char} {p : Page} (before after : List (List Char))
    (htag : tag ∈ tags) (hparts : p.parts = before ++ tag :: escape text :: after)
    (hbefore : before.all (avoids tag)) (hafter : after.all (avoids tag))
    (hnext : after.flatten.head? = some '<') :
    occurrences tag p.html.toList = 1 ∧ textBehind? tag p.html.toList = some (escape text) := by
  have htext : '<' ∉ escape text := not_mem_escape (by simp) text
  have hrest : (escape text :: after).all (avoids tag) := by
    rw [List.all_cons, avoids_escape htag, hafter, Bool.and_self]
  obtain ⟨name, rfl, hname⟩ := exists_of_mem_tags tag htag
  rw [toList_html, hparts, List.flatten_append, List.flatten_cons]
  constructor
  · exact occurrences_eq_one hname (avoids_flatten hbefore) (avoids_flatten hrest)
  · exact textBehind?_append (avoids_flatten hbefore) htext hnext

lemma head?_flatten_cons {c : Char} {part : List Char} {rest : List (List Char)}
    (h : part.head? = some c) : (part :: rest).flatten.head? = some c := by
  rw [List.flatten_cons, List.head?_append, h, Option.some_or]

lemma head?_closing_tags :
    "</h1>\n    ".toList.head? = some '<' ∧ "</h2>\n    ".toList.head? = some '<' ∧
      closing.toList.head? = some '<' := by
  unfold closing
  repeat rw [String.toList_append]
  repeat rw [String.toList_ofList]
  decide

/-- The three tags stand once each, in front of what belongs there. -/
theorem read_html (p : Page) :
    (occurrences "<h1>".toList p.html.toList = 1 ∧
      textBehind? "<h1>".toList p.html.toList = some (escape p.title.toList)) ∧
    (occurrences "<h2>".toList p.html.toList = 1 ∧
      textBehind? "<h2>".toList p.html.toList = some (escape p.flow.heading.toList)) ∧
    (occurrences displayTag.toList p.html.toList = 1 ∧
      textBehind? displayTag.toList p.html.toList = some (escape p.message.toList)) := by
  have h1 : "<h1>".toList ∈ tags := by simp only [tags, List.mem_cons, true_or]
  have h2 : "<h2>".toList ∈ tags := by simp only [tags, List.mem_cons, true_or, or_true]
  have hd : displayTag.toList ∈ tags := by simp only [tags, List.mem_cons, true_or, or_true]
  have hf1 := avoids_frame _ h1
  have hf2 := avoids_frame _ h2
  have hfd := avoids_frame _ hd
  simp only [frame, List.all_cons, Bool.and_eq_true] at hf1 hf2 hfd
  obtain ⟨h12, h1d, h21, h2d, hd1, hd2⟩ := avoids_other_tag
  obtain ⟨hn1, hn2, hnd⟩ := head?_closing_tags
  refine ⟨read_of_parts (p.parts.take 5) (p.parts.drop 7) h1 rfl ?_ ?_ (head?_flatten_cons hn1),
    read_of_parts (p.parts.take 8) (p.parts.drop 10) h2 rfl ?_ ?_ (head?_flatten_cons hn2),
    read_of_parts (p.parts.take 11) (p.parts.drop 13) hd rfl ?_ ?_ (head?_flatten_cons hnd)⟩
  -- what stands before and behind each tag: parts of the frame, escaped texts, other tags
  all_goals
    simp only [parts, List.take_succ_cons, List.take_zero, List.drop_succ_cons, List.drop_zero,
      List.all_cons, avoids_escape h1, avoids_escape h2, avoids_escape hd,
      hf1, hf2, hfd, h12, h1d, h21, h2d, hd1, hd2, Bool.and_self]

/-- A document tells its page. -/
theorem html_injective : Function.Injective html := by
  intro p q h
  obtain ⟨⟨-, hp1⟩, ⟨-, hp2⟩, ⟨-, hpd⟩⟩ := read_html p
  obtain ⟨⟨-, hq1⟩, ⟨-, hq2⟩, ⟨-, hqd⟩⟩ := read_html q
  rw [h] at hp1 hp2 hpd
  have htitle : p.title = q.title :=
    String.toList_injective (escape_injective (Option.some.inj (hp1.symm.trans hq1)))
  have hflow : p.flow = q.flow := Flow.heading_injective
    (String.toList_injective (escape_injective (Option.some.inj (hp2.symm.trans hq2))))
  have hmessage : p.message = q.message :=
    String.toList_injective (escape_injective (Option.some.inj (hpd.symm.trans hqd)))
  cases p
  cases q
  simp_all

/-! ### Pages of the service -/

/-- The headings mean themselves in markup. -/
lemma escape_heading (f : Flow) : escape f.heading.toList = f.heading.toList := by
  cases f <;> unfold Flow.heading <;> rw [String.toList_ofList] <;> rfl

/-- The messages mean themselves in markup. -/
lemma escape_message {f : Flow} (o : Outcome f) : escape o.message.toList = o.message.toList := by
  cases f <;> cases o <;> unfold Outcome.message <;> rw [String.toList_ofList] <;> rfl

lemma toList_displayTag : displayTag.toList = "<p id=\"statusMessage\">".toList := by
  unfold displayTag displayTarget
  repeat rw [String.toList_append]
  repeat rw [String.toList_ofList]
  rfl

/-- The message is read behind its tag. -/
theorem textBehind?_displayTag (f : Flow) (title : String) (status : Option String) :
    textBehind? displayTag.toList (ofStatus f title status).html.toList =
      some (Outcome.ofStatus f status).message.toList := by
  rw [(read_html (ofStatus f title status)).2.2.2, ofStatus, escape_message]

/-- The title comes into the document at two places, and nothing else depends on it. -/
lemma exists_html_eq (f : Flow) (message : String) :
    ∃ before between after, ∀ title : String, (Page.mk f title message).html.toList =
      before ++ escape title.toList ++ between ++ escape title.toList ++ after := by
  refine ⟨opening.toList, " - ".toList ++ f.heading.toList ++ styling.toList ++ "<h1>".toList,
    "</h1>\n    ".toList ++ "<h2>".toList ++ f.heading.toList ++ "</h2>\n    ".toList ++
      displayTag.toList ++ escape message.toList ++ closing.toList, ?_⟩
  intro title
  simp only [toList_html, parts, escape_heading, List.flatten_cons, List.flatten_nil,
    List.append_assoc, List.append_nil]

/-- The message stands behind its tag, and its element ends behind it. -/
lemma exists_html_eq_message (p : Page) : ∃ before after, p.html.toList =
    before ++ displayTag.toList ++ escape p.message.toList ++ "</p>".toList ++ after := by
  have hclosing : ∃ after, closing.toList = "</p>".toList ++ after := by
    unfold closing
    refine ⟨"\n".toList ++ "  </main>\n".toList ++ "</body>\n".toList ++ "</html>".toList, ?_⟩
    repeat rw [String.toList_append]
    repeat rw [String.toList_ofList]
    rfl
  obtain ⟨after, hafter⟩ := hclosing
  refine ⟨(p.parts.take 11).flatten, after, ?_⟩
  rw [toList_html, List.append_assoc, List.append_assoc, List.append_assoc, ← hafter]
  simp only [parts, List.take_succ_cons, List.take_zero, List.flatten_cons, List.flatten_nil,
    List.append_assoc, List.append_nil]

/-- The document of a page, for every title and every status that may be asked for: the title
is escaped in it and can be read back, the message stands once, in its element, and two
documents are the same only if flow, title and message are. -/
theorem html_ofStatus (f : Flow) (title : String) (status : Option String) :
    let written := escape title.toList
    let html := (ofStatus f title status).html.toList
    let message := (Outcome.ofStatus f status).message
    -- the title is escaped
    (∀ c ∈ ['<', '>', '"', '\''], c ∉ written) ∧
    (∀ before after, written = before ++ '&' :: after → ∃ e ∈ entities, e <+: '&' :: after) ∧
    unescape written = title.toList ∧
    -- and put in at two places
    (∃ before between after, ∀ t : String, (ofStatus f t status).html.toList =
      before ++ escape t.toList ++ between ++ escape t.toList ++ after) ∧
    -- the message has its place
    occurrences "<p id=\"statusMessage\">".toList html = 1 ∧
    (∃ before after, html =
      before ++ "<p id=\"statusMessage\">".toList ++ message.toList ++ "</p>".toList ++ after) ∧
    -- title and heading can be read
    (occurrences "<h1>".toList html = 1 ∧
      (textBehind? "<h1>".toList html).map unescape = some title.toList) ∧
    (occurrences "<h2>".toList html = 1 ∧
      textBehind? "<h2>".toList html = some f.heading.toList) ∧
    -- nothing is lost
    ∀ (f' : Flow) (title' : String) (status' : Option String),
      (ofStatus f title status).html = (ofStatus f' title' status').html ↔
        f = f' ∧ title = title' ∧ message = (Outcome.ofStatus f' status').message := by
  intro written html message
  obtain ⟨⟨honce1, hread1⟩, ⟨honce2, hread2⟩, ⟨honce, -⟩⟩ :=
    read_html (ofStatus f title status)
  refine ⟨fun c hc => not_mem_escape hc _, fun _ _ h => entity_of_escape_eq h,
    unescape_escape _, exists_html_eq f message, ?_, ?_, ?_, ?_, ?_⟩
  · rw [← toList_displayTag]
    exact honce
  · rw [← toList_displayTag, ← escape_message]
    exact exists_html_eq_message (ofStatus f title status)
  · refine ⟨honce1, ?_⟩
    rw [hread1, Option.map_some, ofStatus, unescape_escape]
  · refine ⟨honce2, ?_⟩
    rw [hread2, ofStatus, escape_heading]
  · intro f' title' status'
    rw [html_injective.eq_iff, ofStatus, ofStatus, Page.mk.injEq]

end Page

end ResultPages
