import LinkPreview.Proofs.Page.FirstIcon

/-!
# Which element gives a text of a preview

Title, description and image have sources in a fixed order. Of each source only the first element
counts: where it says nothing or only blanks, later elements of the source are hidden, and the next
source is asked. A text is trimmed and never empty, and depends on nothing in the page but the first
elements of its own sources.

First is here, as for icons, the element that was made first.
-/

namespace LinkPreview.Page

open Html

variable {xs ys : List Item} {item : Item} {v address : String}

/-! ## Elements of a page -/

/-- The elements of a page are elements of its tree, each with the text in it. -/
theorem exists_element?_of_mem_items {t : Tree} (h : item ∈ items t) :
    ∃ id, t.element? id = some item.element ∧ item.text = String.ofList (t.text id) := by
  obtain ⟨⟨id, e⟩, hmem, rfl⟩ := List.mem_map.mp h
  exact ⟨id, Tree.element?_of_mem_elements hmem, rfl⟩

/-! ## Sources -/

/-- Where a page may say a text of its preview. -/
inductive Source where
  /-- The content of a `meta` element whose attribute `key` is exactly `value`. -/
  | content (key value : String)
  /-- The text of an element named `title`. -/
  | title
  deriving DecidableEq, Repr

namespace Source

variable {s : Source}

/-- Whether an element is one of a source. -/
def Has : Source → Item → Prop
  | content key value, item => item.element.name = "meta" ∧ item.attribute? key = some value
  | title, item => item.element.name = "title"

/-- What an element of a source says. -/
def said? : Source → Item → Option String
  | content _ _, item => item.attribute? "content"
  | title, item => some item.text

/-- Whether the first element of a source says a text. -/
def Says (s : Source) (xs : List Item) (text : String) : Prop :=
  ∃ item, IsFirst s.Has xs item ∧ s.said? item = some text

/-- Whether a source gives a text: its first element says it, with nothing but blanks around. -/
def Gives (s : Source) (xs : List Item) (v : String) : Prop :=
  ∃ text, s.Says xs text ∧ Text.IsTrimmed v.toList text.toList ∧ v ≠ ""

/-- What a source gives. -/
def given? : Source → List Item → Option String
  | content key value, xs => metaContent? xs key value
  | title, xs => titleText? xs

theorem given?_eq_some_iff : s.given? xs = some v ↔ s.Gives xs v := by
  cases s with
  | content key value =>
      have hfirst {item : Item} :
          (xs.find? fun item => item.element.name == "meta" && item.attribute? key == some value) =
            some item ↔ IsFirst (content key value).Has xs item :=
        find?_eq_some_iff_isFirst fun item => by simp [Has]
      simp only [given?, metaContent?, bind, Option.bind_eq_some_iff, hfirst, nonBlank?_eq_some_iff,
        Gives, Says, said?]
      constructor
      · rintro ⟨item, hitem, text, htext, htrim⟩
        exact ⟨text, ⟨item, hitem, htext⟩, htrim⟩
      · rintro ⟨text, ⟨item, hitem, htext⟩, htrim⟩
        exact ⟨item, hitem, text, htext, htrim⟩
  | title =>
      have hfirst {item : Item} :
          xs.find? (·.element.name == "title") = some item ↔ IsFirst title.Has xs item :=
        find?_eq_some_iff_isFirst fun item => by simp [Has]
      simp only [given?, titleText?, bind, Option.bind_eq_some_iff, hfirst, nonBlank?_eq_some_iff,
        Gives, Says, said?, Option.some.injEq]
      constructor
      · rintro ⟨item, hitem, htrim⟩
        exact ⟨item.text, ⟨item, hitem, rfl⟩, htrim⟩
      · rintro ⟨-, ⟨item, hitem, rfl⟩, htrim⟩
        exact ⟨item, hitem, htrim⟩

theorem given?_eq_none_iff : s.given? xs = none ↔ ∀ v, ¬s.Gives xs v := by
  simp only [← given?_eq_some_iff, Option.eq_none_iff_forall_ne_some]

/-- What a source gives depends on what its first element says. -/
theorem given?_congr (h : ∀ text, s.Says xs text ↔ s.Says ys text) : s.given? xs = s.given? ys := by
  refine Option.ext fun v => ?_
  simp only [given?_eq_some_iff, Gives, h]

/-- A first element that says nothing or only blanks hides all others of its source. -/
theorem not_gives_of_blank (hitem : IsFirst s.Has xs item)
    (hblank : ∀ text, s.said? item = some text → ∀ c ∈ text.toList, Text.isBlank c = true) :
    ¬s.Gives xs v := by
  rintro ⟨text, ⟨first, hfirst, hsaid⟩, htrim, hne⟩
  obtain rfl := hitem.unique hfirst
  have hnone : nonBlank? text = none := nonBlank?_eq_none_iff.mpr (hblank text hsaid)
  rw [nonBlank?_eq_some_iff.mpr ⟨htrim, hne⟩] at hnone
  cases hnone

end Source

/-! ## Fields -/

/-- A text of a preview. -/
inductive Field where
  | title
  | description
  | image
  deriving DecidableEq, Repr

namespace Field

variable {f : Field}

/-- Where a text of a preview comes from, the source that is asked first in front. -/
def sources : Field → List Source
  | title => [.content "property" "og:title", .content "name" "twitter:title", .title]
  | description =>
    [.content "property" "og:description", .content "name" "twitter:description",
      .content "name" "description"]
  | image => [.content "property" "og:image", .content "name" "twitter:image"]

/-- The text in a preview. -/
def value? : Field → Metadata → Option String
  | title, m => m.title
  | description, m => m.description
  | image, m => m.image

theorem value?_metadataOf (f : Field) (xs : List Item) (address : String) :
    f.value? (metadataOf xs address) = f.sources.findSome? (·.given? xs) := by
  have hor (a b : Option String) : (a <|> b) = a.or b := by cases a <;> rfl
  have hcons (s : Source) (rest : List Source) : (s :: rest).findSome? (·.given? xs) =
      (s.given? xs).or (rest.findSome? (·.given? xs)) := by
    rw [List.findSome?_cons]
    cases s.given? xs <;> rfl
  cases f <;>
    simp only [value?, metadataOf, hor, sources, hcons, List.findSome?_nil, Option.or_none] <;>
    rfl

end Field

/-- How a text of a preview is taken from the elements `xs` of a page. -/
structure IsFirstNotBlank (xs : List Item) (address : String) (f : Field) : Prop where
  /-- The text is what the first of its sources gives that gives anything. -/
  given : ∀ v, f.value? (metadataOf xs address) = some v ↔
    ∃ before s after, f.sources = before ++ s :: after ∧ s.Gives xs v ∧
      ∀ earlier ∈ before, ∀ v', ¬earlier.Gives xs v'
  /-- It is missing if no source gives any. -/
  missing : f.value? (metadataOf xs address) = none ↔ ∀ s ∈ f.sources, ∀ v, ¬s.Gives xs v
  /-- A source whose first element says nothing or only blanks gives nothing, whatever stands
  behind that element. -/
  hidden : ∀ s ∈ f.sources, ∀ item, IsFirst s.Has xs item →
    (∀ text, s.said? item = some text → ∀ c ∈ text.toList, Text.isBlank c = true) →
    ∀ v, ¬s.Gives xs v
  /-- The text is not empty and has no blanks around it. -/
  trimmed : ∀ v, f.value? (metadataOf xs address) = some v →
    v ≠ "" ∧ (∀ c ∈ v.toList.head?, Text.isBlank c = false) ∧
      ∀ c ∈ v.toList.getLast?, Text.isBlank c = false
  /-- Of the page, what the first element of each of its sources says matters alone. -/
  independent : ∀ ys address', (∀ s ∈ f.sources, ∀ text, s.Says xs text ↔ s.Says ys text) →
    f.value? (metadataOf ys address') = f.value? (metadataOf xs address)

theorem isFirstNotBlank (xs : List Item) (address : String) (f : Field) :
    IsFirstNotBlank xs address f where
  given := by
    intro v
    simp only [Field.value?_metadataOf, List.findSome?_eq_some_iff, Source.given?_eq_some_iff,
      Source.given?_eq_none_iff]
  missing := by
    simp only [Field.value?_metadataOf, List.findSome?_eq_none_iff, Source.given?_eq_none_iff]
  hidden := fun _ _ _ hitem hblank _ => Source.not_gives_of_blank hitem hblank
  trimmed := by
    intro v hv
    rw [Field.value?_metadataOf] at hv
    obtain ⟨s, -, hs⟩ := List.exists_of_findSome?_eq_some hv
    obtain ⟨text, -, ⟨-, -, -, -, -, hhead, hlast⟩, hne⟩ := Source.given?_eq_some_iff.mp hs
    exact ⟨hne, hhead, hlast⟩
  independent := by
    intro ys address' h
    have hmap (zs : List Item) : f.sources.findSome? (·.given? zs) =
        (f.sources.map (·.given? zs)).findSome? id := by
      rw [List.findSome?_map]
      rfl
    rw [Field.value?_metadataOf, Field.value?_metadataOf, hmap, hmap,
      List.map_congr_left fun s hs => Source.given?_congr (h s hs)]

/-- Each text of a preview is taken from the first elements of its sources, among the elements that
have a parent and in the order in which they were made; where all of them are in place, this is the
order of the document. -/
theorem field_is_first_not_blank (t : Tree) (address : String) (f : Field) :
    IsFirstNotBlank (items t) address f ∧ (t.IsInPlace → items t = itemsInDocument t) :=
  ⟨isFirstNotBlank _ _ _, items_eq_itemsInDocument⟩

/-- A page with a title of its own and two that are meant to be shown, the first of them blank. -/
def blankTitle : String :=
  "<title>a</title><meta property=og:title content=' '><meta property=og:title content=b>"

/-- Behind a blank title that is meant to be shown the next one of the kind is hidden, and the title
of the page itself is taken. -/
theorem field_is_first_not_blank_of_blank :
    Field.title.value? (metadata blankTitle "") = some "a" ∧
      items (Tree.read blankTitle) = itemsInDocument (Tree.read blankTitle) := by
  obtain ⟨htaken, hplace⟩ := field_is_first_not_blank (Tree.read blankTitle) "" .title
  refine ⟨(htaken.given "a").mpr ?_, hplace (by decide +kernel)⟩
  refine ⟨[.content "property" "og:title", .content "name" "twitter:title"], .title, [], rfl,
    Source.given?_eq_some_iff.mp (by decide +kernel), fun s hs => ?_⟩
  rw [← Source.given?_eq_none_iff]
  revert s hs
  decide +kernel

/-- A title that is out of place in a table stands in the document in front of one in a cell that
was made before it, and yet this one is taken. So is a title that was cut off from the document,
with the body that frames replaced. -/
theorem title_is_not_chosen_in_document_order :
    ((metadata "<table><td><title>a</title></td></tr><title>b</title></table>" "").title =
          some "a" ∧
        Source.title.Gives (itemsInDocument (Tree.read
          "<table><td><title>a</title></td></tr><title>b</title></table>")) "b") ∧
      (metadata "<p><title>a</title><frameset>" "").title = some "a" ∧
        ∀ v, ¬Source.title.Gives
          (itemsInDocument (Tree.read "<p><title>a</title><frameset>")) v := by
  refine ⟨⟨by decide +kernel, ?_⟩, by decide +kernel, ?_⟩
  · exact Source.given?_eq_some_iff.mp (by decide +kernel)
  · exact Source.given?_eq_none_iff.mp (by decide +kernel)

end LinkPreview.Page
