import LinkPreview.Proofs.Html.WrittenTitle
import LinkPreview.Proofs.Page.Fields

/-!
# A text that is written in a page is shown as it was

A page writes a text for its preview between the quotation marks in the tag of a `meta` element, or
behind the tag of its title, with references for some characters. If nothing else in the page is of
a source of the same text, the preview shows what was written, whatever characters it has: up to the
blanks around it, and nothing if there is nothing else.

The places of tags are those in the page as it is read, after its line ends became line feeds. A
written text has no carriage return but as a reference, so this does not change it.
-/

namespace LinkPreview.Page

open Html

variable {source : Source} {xs : List Item} {item : Item} {text key value markup : String}
  {t : List Char} {id : NodeId} {e : Element}

namespace Source

/-! ## What a source says -/

instance (source : Source) (item : Item) : Decidable (source.Has item) :=
  match source with
  | content _ _ => inferInstanceAs (Decidable (_ ∧ _))
  | title => inferInstanceAs (Decidable (_ = _))

/-- If all elements of a source say the same, this is what the source says. -/
theorem says_of_forall (hitem : item ∈ xs) (hhas : source.Has item)
    (h : ∀ item ∈ xs, source.Has item → source.said? item = some text) : source.Says xs text := by
  obtain ⟨first, hfirst⟩ := exists_isFirst hitem hhas
  exact ⟨first, hfirst, h first hfirst.mem.1 hfirst.mem.2⟩

theorem given?_of_says (h : source.Says xs text) : source.given? xs = nonBlank? text := by
  refine Option.ext fun v => ?_
  rw [given?_eq_some_iff, nonBlank?_eq_some_iff]
  constructor
  · rintro ⟨text', ⟨first, hfirst, hsaid⟩, htrim⟩
    obtain ⟨first', hfirst', hsaid'⟩ := h
    obtain rfl := hfirst.unique hfirst'
    obtain rfl := Option.some.inj (hsaid.symm.trans hsaid')
    exact htrim
  · exact fun htrim => ⟨text, h, htrim⟩

theorem given?_of_none (h : ∀ item ∈ xs, ¬source.Has item) : source.given? xs = none := by
  refine given?_eq_none_iff.mpr fun v => ?_
  rintro ⟨-, ⟨first, hfirst, -⟩, -⟩
  exact h first hfirst.mem.1 hfirst.mem.2

/-! ## What is written -/

/-- Whether a start tag is one of a source. -/
def IsFor : Source → Tag → Prop
  | content key value, tag => tag.name = "meta" ∧ attribute? tag.attributes key = some value
  | title, tag => tag.name = "title"

/-- Whether a text begins with a tag that writes `t` where the elements of a source say what they
say. -/
def Writes : Source → List Char → List Char → Prop
  | content _ _, t, s => WritesContent t s
  | title, t, s => WritesTitle t s

/-- Whether a page writes a text for a source, once: all tags of the source are at one place, where
the text is written, and an element was made there. For a title this is an element of HTML, since in
a drawing what stands between two tags need not be the text of an element. -/
structure IsWrittenIn (source : Source) (t : List Char) (markup : String) : Prop where
  place : ∃ s, source.Writes t s ∧ ∀ p ∈ Tree.startTags markup, source.IsFor p.2 → p.1 = s
  made : ∃ item ∈ items (Tree.read markup), source.Has item ∧
    (source = .title → item.element.vocabulary = .html)

end Source

/-! ## The content of a `meta` element -/

/-- No elements named `meta` but those whose content is a text, if they have a given attribute. -/
abbrev contentIs (key value : String) (t : List Char) : Allowance :=
  .only (fun e => e.name = "meta" → attribute? e.attributes key = some value →
    attribute? e.attributes "content" = some (String.ofList t)) True

instance : Admits (contentIs key value t) := by
  refine admits_only ?_ ?_ ?_
  · rintro e e' (rfl | ⟨hname, more, rfl⟩) h
    · exact h
    · exact fun hmeta => absurd hmeta hname
  · rintro name hname rfl
    exact absurd hname (by decide)
  · rintro name hname attributes rfl
    exact absurd hname (by decide)

theorem admitsTag_contentIs {tag : Tag} (h : (Source.content key value).IsFor tag →
    attribute? tag.attributes "content" = some (String.ofList t)) :
    AdmitsTag (contentIs key value t) tag where
  element := fun hname hkey => h ⟨hname, hkey⟩
  image := fun _ hname => absurd hname (show "img" ≠ "meta" by decide)
  drawing := fun _ hname hkey => h ⟨hname, hkey⟩
  formula := fun _ hname hkey => h ⟨hname, hkey⟩
  foreign := by
    rintro e _ _ name hname hmeta hkey
    refine h ⟨?_, hkey⟩
    simp only [List.mem_cons, List.not_mem_nil, or_false] at hname
    rcases hname with rfl | rfl
    · exact hmeta
    · by_contra hne
      exact Build.drawingName_ne hne (by decide) hmeta
  dropping := fun _ => trivial

/-- The content of a `meta` element is what is written in its tag. -/
theorem attribute?_of_read {s : List Char} (hs : WritesContent t s)
    (htags : ∀ p ∈ Tree.startTags markup, (Source.content key value).IsFor p.2 → p.1 = s)
    (he : (Tree.read markup).element? id = some e) (hname : e.name = "meta")
    (hkey : attribute? e.attributes key = some value) :
    attribute? e.attributes "content" = some (String.ofList t) := by
  refine Tree.present_of_read (A := contentIs key value t) (fun p hp => ?_) he hname hkey
  refine admitsTag_contentIs fun hfor => ?_
  obtain rfl := htags p hp hfor
  obtain ⟨b, -, -, htoken⟩ := Tree.exists_comes_of_mem hp
  exact hs.attribute?_eq htoken

/-! ## Fields -/

/-- All elements of a source that is written once say what is written. -/
theorem Source.IsWrittenIn.given?_eq (h : source.IsWrittenIn t markup) :
    source.given? (items (Tree.read markup)) = nonBlank? (String.ofList t) := by
  obtain ⟨s, hs, htags⟩ := h.place
  obtain ⟨made, hmade, hhas, hhtml⟩ := h.made
  refine given?_of_says (says_of_forall hmade hhas fun item hitem hhas' => ?_)
  obtain ⟨id, he, htext⟩ := exists_element?_of_mem_items hitem
  cases source with
  | content key value => exact attribute?_of_read hs htags he hhas'.1 hhas'.2
  | title =>
      obtain ⟨id', he', -⟩ := exists_element?_of_mem_items hmade
      have honly := isOnlyTitle_of_read hs htags he' (hhtml rfl) hhas
      obtain rfl := honly.only he hhas'
      rw [said?, htext, honly.text.text_eq]

theorem findSome?_of_others {α β : Type} {l : List α} {a : α} {f : α → Option β} (ha : a ∈ l)
    (h : ∀ b ∈ l, b ≠ a → f b = none) : l.findSome? f = f a := by
  cases hfound : l.findSome? f with
  | none => exact (List.findSome?_eq_none_iff.mp hfound a ha).symm
  | some v =>
      obtain ⟨b, hb, hv⟩ := List.exists_of_findSome?_eq_some hfound
      by_cases heq : b = a
      · rw [← heq, hv]
      · rw [h b hb heq] at hv
        cases hv

/-- What a page writes for one source of a text, and for no other of it, is shown without the blanks
around it, and not at all if it is blank. -/
theorem written_text_is_shown (f : Field) (hsource : source ∈ f.sources)
    (h : source.IsWrittenIn t markup)
    (hothers : ∀ other ∈ f.sources, other ≠ source →
      ∀ item ∈ items (Tree.read markup), ¬other.Has item) (address : String) :
    (∀ v, f.value? (metadata markup address) = some v ↔ Text.IsTrimmed v.toList t ∧ v ≠ "") ∧
      (f.value? (metadata markup address) = none ↔ ∀ c ∈ t, Text.isBlank c = true) := by
  have hvalue : f.value? (metadata markup address) = nonBlank? (String.ofList t) := by
    rw [metadata, Field.value?_metadataOf, ← h.given?_eq]
    exact findSome?_of_others hsource fun other hmem hne =>
      Source.given?_of_none (hothers other hmem hne)
  rw [hvalue]
  refine ⟨fun v => ?_, ?_⟩
  · rw [nonBlank?_eq_some_iff, String.toList_ofList]
  · rw [nonBlank?_eq_none_iff, String.toList_ofList]

/-- A page that writes a title to be shown, which looks like markup. -/
def quotedTitle : String :=
  "<Meta content=\" &quot;a&quot; &amp;lt; </title>\" property=og:title>"

/-- A page that writes a title of its own, which looks like markup. -/
def escapedTitle : String :=
  "<p><TITLE>&lt;b> &amp;lt; </title>"

/-- Markup in a title is shown as it is, and so are references that were written themselves. -/
theorem written_text_is_shown_of_markup :
    Field.title.value? (metadata quotedTitle "") = some "\"a\" &lt; </title>" ∧
      Field.title.value? (metadata escapedTitle "") = some "<b> &lt;" := by
  have hquoted : (Source.content "property" "og:title").IsWrittenIn
      " \"a\" &lt; </title>".toList quotedTitle := by
    have htags : Tree.startTags quotedTitle = [(quotedTitle.toList,
        { name := "meta", attributes :=
            [⟨"content", " \"a\" &lt; </title>"⟩, ⟨"property", "og:title"⟩] })] := by
      decide +kernel
    refine ⟨⟨quotedTitle.toList, ?_, fun p hp _ => ?_⟩, by decide +kernel⟩
    · exact @WritesContent.intro _ "Meta".toList [] "content".toList [] []
        " &quot;a&quot; &amp;lt; </title>".toList " property=og:title>".toList ' ' [] (by decide)
        (by decide) (fun c rest _ => by simp [Token.readAttributes, Text.isAsciiBlank]) rfl
        (by decide) (by simp) (by simp) (isWritten_escape .attributeValue (by simp))
    · rw [htags, List.mem_singleton] at hp
      rw [hp]
  have hescaped : Source.title.IsWrittenIn "<b> &lt; ".toList escapedTitle := by
    have htags : Tree.startTags escapedTitle = [(escapedTitle.toList, { name := "p" }),
        (escapedTitle.toList.drop 3, { name := "title" })] := by
      decide +kernel
    refine ⟨⟨escapedTitle.toList.drop 3, ?_, fun p hp hfor => ?_⟩, by decide +kernel⟩
    · exact @WritesTitle.intro _ "TITLE".toList [] "&lt;b> &amp;lt; ".toList "</title>".toList []
        false (by decide) (by simp [Token.inTagName, Text.isAsciiBlank])
        (fun rest => by simp [Token.readAttributes])
        (isWritten_escape .text (by simp)) (.inr (by decide))
    · rw [htags, List.mem_pair] at hp
      rcases hp with rfl | rfl
      · exact absurd (show "p" = "title" from hfor) (by decide)
      · rfl
  refine ⟨((written_text_is_shown .title (by decide) hquoted (by decide +kernel) "").1 _).mpr ?_,
    ((written_text_is_shown .title (by decide) hescaped (by decide +kernel) "").1 _).mpr ?_⟩
  · exact ⟨Text.trim_eq_iff.mp (by decide), by decide⟩
  · exact ⟨Text.trim_eq_iff.mp (by decide), by decide⟩

end LinkPreview.Page
