import LinkPreview.Proofs.Html.Reading
import LinkPreview.Proofs.Page.Fields

/-!
# Whose title is shown

A page that says no title to be shown is shown with the text of its first element named `title`.
This need not be the title of the document: an element of a drawing or a formula counts as well.
Where the page has neither, or the document has its title first, the two are the same.

First is here, as for icons, the element that was made first.
-/

namespace LinkPreview.Page

open Html

variable {xs : List Item} {item first : Item} {title : Option String} {markup address v : String}
  {P : Item → Prop}

/-! ## Titles of documents -/

/-- Whether an element is a title of the document itself, not of a drawing or a formula in it. -/
def IsOwnTitle (item : Item) : Prop :=
  item.element.vocabulary = .html ∧ item.element.name = "title"

/-- Whether an element gives a title: its text without the blanks around it, if anything is left. -/
def GivesTitle (item : Item) (v : String) : Prop :=
  Text.IsTrimmed v.toList item.text.toList ∧ v ≠ ""

/-- Whether a title is what the first element of a kind gives, and is missing if it gives none. -/
def IsTitleOf (P : Item → Prop) (xs : List Item) (title : Option String) : Prop :=
  ∀ v, title = some v ↔ ∃ item, IsFirst P xs item ∧ GivesTitle item v

theorem IsTitleOf.eq_some_iff (h : IsTitleOf P xs title) (hfirst : IsFirst P xs first) :
    title = some v ↔ GivesTitle first v := by
  rw [h v]
  constructor
  · rintro ⟨item, hitem, hgives⟩
    rwa [hfirst.unique hitem]
  · exact fun hgives => ⟨first, hfirst, hgives⟩

/-- A title that comes first and is one of the document is the first of these. -/
theorem IsFirst.own (h : IsFirst Source.title.Has xs first)
    (hhtml : first.element.vocabulary = .html) : IsFirst IsOwnTitle xs first := by
  obtain ⟨before, after, hxs, hhas, hbefore⟩ := h
  exact ⟨before, after, hxs, ⟨hhtml, hhas⟩, fun item hitem hown => hbefore item hitem hown.2⟩

/-- The first title of all is that of the document unless it is one of a drawing or a formula and
gives something else. -/
theorem isTitleOf_own_iff (h : IsTitleOf Source.title.Has xs title) :
    IsTitleOf IsOwnTitle xs title ↔
      ∀ first, IsFirst Source.title.Has xs first → first.element.vocabulary ≠ .html →
        ∀ v, GivesTitle first v ↔ ∃ own, IsFirst IsOwnTitle xs own ∧ GivesTitle own v := by
  constructor
  · intro hown first hfirst _ v
    rw [← h.eq_some_iff hfirst, hown v]
  · intro hforeign v
    by_cases hnone : ∃ item ∈ xs, Source.title.Has item
    · obtain ⟨item, hitem, hhas⟩ := hnone
      obtain ⟨first, hfirst⟩ := exists_isFirst hitem hhas
      rw [h.eq_some_iff hfirst]
      by_cases hhtml : first.element.vocabulary = .html
      · constructor
        · exact fun hgives => ⟨first, hfirst.own hhtml, hgives⟩
        · rintro ⟨own, hown, hgives⟩
          rwa [(hfirst.own hhtml).unique hown]
      · exact hforeign first hfirst hhtml v
    · rw [h v]
      constructor
      · rintro ⟨item, hfirst, -⟩
        exact absurd ⟨item, hfirst.mem⟩ hnone
      · rintro ⟨item, hfirst, -⟩
        exact absurd ⟨item, hfirst.mem.1, hfirst.mem.2.2⟩ hnone

/-! ## Pages without drawings and formulas -/

/-- Elements of HTML alone. -/
abbrev htmlAlone : Allowance :=
  .only (fun e => e.vocabulary = .html) True

instance : Admits htmlAlone :=
  admits_only (fun hext h => hext.vocabulary_eq.trans h) (fun _ => rfl) fun _ _ => rfl

theorem admitsTag_htmlAlone {tag : Tag} (h : tag.name ∉ ["svg", "math"]) :
    AdmitsTag htmlAlone tag where
  element := rfl
  image := fun _ => rfl
  drawing := fun hname => absurd (by simp [hname]) h
  formula := fun hname => absurd (by simp [hname]) h
  foreign := fun hpresent hforeign => absurd hpresent hforeign
  dropping := fun _ => trivial

/-- A page whose tags open no drawing and no formula has elements of HTML alone. -/
theorem vocabulary_eq_of_read (h : ∀ p ∈ Tree.startTags markup, p.2.name ∉ ["svg", "math"])
    (hitem : item ∈ items (Tree.read markup)) : item.element.vocabulary = .html := by
  obtain ⟨id, he, -⟩ := exists_element?_of_mem_items hitem
  exact Tree.present_of_read (A := htmlAlone) (fun p hp => admitsTag_htmlAlone (h p hp)) he

/-! ## The title that is shown -/

/-- Whose title a page is shown with. -/
structure IsShownWithFirstTitle (markup address : String) : Prop where
  /-- The title is that of the first element named `title`, of whatever vocabulary. -/
  any : IsTitleOf Source.title.Has (items (Tree.read markup)) (metadata markup address).title
  /-- It is that of the document exactly if no other title comes first that gives something else. -/
  own_iff : IsTitleOf IsOwnTitle (items (Tree.read markup)) (metadata markup address).title ↔
    ∀ first, IsFirst Source.title.Has (items (Tree.read markup)) first →
      first.element.vocabulary ≠ .html → ∀ v, GivesTitle first v ↔
        ∃ own, IsFirst IsOwnTitle (items (Tree.read markup)) own ∧ GivesTitle own v
  /-- So it is that of the document where no tag opens a drawing or a formula. -/
  undrawn : (∀ p ∈ Tree.startTags markup, p.2.name ∉ ["svg", "math"]) →
    IsTitleOf IsOwnTitle (items (Tree.read markup)) (metadata markup address).title
  /-- Where all elements are in place, the first is the first of the document. -/
  inOrder : (Tree.read markup).IsInPlace →
    items (Tree.read markup) = itemsInDocument (Tree.read markup)

/-- A page that says no title to be shown is shown with that of its first element named `title`. -/
theorem title_is_that_of_first_element (markup address : String)
    (hproperty : ∀ v, ¬(Source.content "property" "og:title").Gives (items (Tree.read markup)) v)
    (hname : ∀ v, ¬(Source.content "name" "twitter:title").Gives (items (Tree.read markup)) v) :
    IsShownWithFirstTitle markup address := by
  have hany : IsTitleOf Source.title.Has (items (Tree.read markup))
      (metadata markup address).title := by
    intro v
    have hvalue : (metadata markup address).title =
        Source.title.given? (items (Tree.read markup)) := by
      refine (Field.value?_metadataOf .title (items (Tree.read markup)) address).trans ?_
      simp [Field.sources, Source.given?_eq_none_iff.mpr hproperty,
        Source.given?_eq_none_iff.mpr hname]
    rw [hvalue, Source.given?_eq_some_iff]
    constructor
    · rintro ⟨text, ⟨item, hfirst, hsaid⟩, htrim⟩
      cases hsaid
      exact ⟨item, hfirst, htrim⟩
    · rintro ⟨item, hfirst, htrim⟩
      exact ⟨item.text, ⟨item, hfirst, rfl⟩, htrim⟩
  refine ⟨hany, isTitleOf_own_iff hany, fun htags => ?_, items_eq_itemsInDocument⟩
  refine (isTitleOf_own_iff hany).mpr fun first hfirst hforeign => ?_
  exact absurd (vocabulary_eq_of_read htags hfirst.mem.1) hforeign

/-- A page whose title comes first, and then that of a drawing. -/
def titleFirst : String :=
  "<title> a</title><svg><title>x</title></svg>"

/-- Behind the title of the document, that of a drawing is not shown. -/
theorem title_is_that_of_first_element_of_own : (metadata titleFirst "").title = some "a" ∧
    IsTitleOf IsOwnTitle (items (Tree.read titleFirst)) (metadata titleFirst "").title := by
  have h := title_is_that_of_first_element titleFirst ""
    (Source.given?_eq_none_iff.mp (by decide +kernel))
    (Source.given?_eq_none_iff.mp (by decide +kernel))
  have htitle : (metadata titleFirst "").title = some "a" := by decide +kernel
  have hfind : ((items (Tree.read titleFirst)).find? (·.element.name == "title")).map
      (·.element.vocabulary) = some .html := by
    decide +kernel
  refine ⟨htitle, h.own_iff.mpr fun first hfirst hforeign => ?_⟩
  rw [(find?_eq_some_iff_isFirst fun item => by simp [Source.Has]).mpr hfirst] at hfind
  exact absurd (Option.some.inj hfind) hforeign

/-- The title of a drawing is shown as that of a page which has none. -/
theorem title_of_drawing_is_shown :
    (metadata "<svg><title>x</title></svg>" "").title = some "x" ∧
      ¬IsTitleOf IsOwnTitle (items (Tree.read "<svg><title>x</title></svg>"))
        (metadata "<svg><title>x</title></svg>" "").title ∧
      ∀ item ∈ items (Tree.read "<svg><title>x</title></svg>"),
        ¬IsOwnTitle item ∧ item.element.name ≠ "meta" := by
  have hmeta : ∀ item ∈ items (Tree.read "<svg><title>x</title></svg>"),
      item.element.name ≠ "meta" := by
    decide +kernel
  have hnone : ∀ item ∈ items (Tree.read "<svg><title>x</title></svg>"), ¬IsOwnTitle item := by
    unfold IsOwnTitle
    decide +kernel
  have htitle : (metadata "<svg><title>x</title></svg>" "").title = some "x" := by decide +kernel
  refine ⟨htitle, fun h => ?_, fun item hitem => ⟨hnone item hitem, hmeta item hitem⟩⟩
  obtain ⟨item, hfirst, -⟩ := (h "x").mp htitle
  exact hnone item hfirst.mem.1 hfirst.mem.2

end LinkPreview.Page
