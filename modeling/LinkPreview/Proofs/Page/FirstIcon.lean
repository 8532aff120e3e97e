import LinkPreview.Outcome
import LinkPreview.Proofs.Html.DocumentOrder
import LinkPreview.Proofs.Url.BeforePath

/-!
# Which link gives the icon of a page

The icon of a page is that of the first link which names an icon. Only this link counts: where its
address is missing or blank, the icon is the one at the root, and no later link is asked. Links
whose relation only looks alike, and all other elements, do not matter wherever they stand. Of the
address of the page, only the text in front of its path matters.

First is here the link that was made first, which need not be the first of the document.
-/

namespace LinkPreview.Page

open Html

variable {xs ys : List Item} {link : Item} {a s : String} {source source' : String} {u u' : Url}

/-! ## Texts that are not blank -/

theorem nonBlank?_eq_some_iff :
    nonBlank? s = some a ↔ Text.IsTrimmed a.toList s.toList ∧ a ≠ "" := by
  rw [← Text.trim_eq_iff, Ne, ← String.toList_inj, String.toList_empty]
  simp only [nonBlank?, List.isEmpty_iff]
  constructor
  · intro h
    split at h
    · cases h
    · rename_i hne
      cases h
      rw [String.toList_ofList]
      exact ⟨rfl, hne⟩
  · rintro ⟨htrim, hne⟩
    rw [htrim, if_neg hne, String.ofList_toList]

theorem nonBlank?_eq_none_iff : nonBlank? s = none ↔ ∀ c ∈ s.toList, Text.isBlank c = true := by
  have hnone : nonBlank? s = none ↔ Text.trim s.toList = [] := by
    simp [nonBlank?]
  rw [hnone, Text.trim_eq_iff]
  constructor
  · rintro ⟨before, after, hs, hbefore, hafter, -⟩ c hc
    rw [hs, List.append_nil, List.mem_append] at hc
    exact hc.elim (hbefore c) (hafter c)
  · intro hs
    exact ⟨s.toList, [], by simp, hs, by simp, by simp, by simp⟩

/-! ## First elements -/

/-- Whether an element is the first of a list that satisfies `P`. -/
def IsFirst (P : Item → Prop) (xs : List Item) (item : Item) : Prop :=
  ∃ before after, xs = before ++ item :: after ∧ P item ∧ ∀ earlier ∈ before, ¬P earlier

theorem find?_eq_some_iff_isFirst {p : Item → Bool} {P : Item → Prop} {item : Item}
    (h : ∀ item, p item = true ↔ P item) : xs.find? p = some item ↔ IsFirst P xs item := by
  simp only [List.find?_eq_some_iff_append, IsFirst, ← h, Bool.not_eq_true', Bool.not_eq_true]
  constructor
  · rintro ⟨hitem, before, after, hxs, hbefore⟩
    exact ⟨before, after, hxs, hitem, hbefore⟩
  · rintro ⟨before, after, hxs, hitem, hbefore⟩
    exact ⟨hitem, before, after, hxs, hbefore⟩

theorem exists_isFirst {P : Item → Prop} {item : Item} (hitem : item ∈ xs) (h : P item) :
    ∃ first, IsFirst P xs first := by
  classical
  have hsome : (xs.find? fun item => decide (P item)).isSome = true :=
    List.find?_isSome.mpr ⟨item, hitem, decide_eq_true h⟩
  obtain ⟨first, hfind⟩ := Option.isSome_iff_exists.mp hsome
  exact ⟨first, (find?_eq_some_iff_isFirst fun _ => decide_eq_true_iff).mp hfind⟩

theorem IsFirst.mem {P : Item → Prop} {first : Item} (h : IsFirst P xs first) :
    first ∈ xs ∧ P first := by
  obtain ⟨before, after, rfl, hfirst, -⟩ := h
  exact ⟨by simp, hfirst⟩

theorem IsFirst.unique {P : Item → Prop} {first second : Item} (h : IsFirst P xs first)
    (h' : IsFirst P xs second) : first = second := by
  classical
  have hfind {item : Item} : xs.find? (fun item => decide (P item)) = some item ↔
      IsFirst P xs item :=
    find?_eq_some_iff_isFirst fun _ => decide_eq_true_iff
  exact Option.some.inj ((hfind.mpr h).symm.trans (hfind.mpr h'))

/-! ## Links to icons -/

/-- Whether an element is a link that names an icon: one of the words of its relation is `icon`, in
any case of its letters. -/
def NamesIcon (item : Item) : Prop :=
  item.element.name = "link" ∧ ∃ relation word, item.attribute? "rel" = some relation ∧
    Text.IsPiece Text.isAsciiBlank word relation.toList ∧
    Text.asciiLower word = "icon".toList

theorem isIconLink_iff {item : Item} : isIconLink item = true ↔ NamesIcon item := by
  have hword {word : List Char} : Text.eqIgnoringAsciiCase word "icon".toList = true ↔
      Text.asciiLower word = "icon".toList := by
    simp [Text.eqIgnoringAsciiCase, Text.asciiLower]
  rw [isIconLink, Bool.and_eq_true, beq_iff_eq, NamesIcon]
  refine and_congr_right fun _ => ?_
  cases item.attribute? "rel" with
  | none => simp
  | some relation =>
      simp only [List.any_eq_true, Text.mem_asciiWords_iff, hword, Option.some.injEq,
        exists_and_left, exists_eq_left']
      refine exists_congr fun word => and_congr_left fun h => and_iff_right ?_
      rintro rfl
      cases h

/-- Whether a link is the first of a list of elements that names an icon. -/
def IsFirstIcon (xs : List Item) (link : Item) : Prop :=
  IsFirst NamesIcon xs link

theorem find?_isIconLink_eq_some_iff : xs.find? isIconLink = some link ↔ IsFirstIcon xs link :=
  find?_eq_some_iff_isFirst fun _ => isIconLink_iff

theorem find?_isIconLink_eq_none_iff :
    xs.find? isIconLink = none ↔ ∀ item ∈ xs, ¬NamesIcon item := by
  simp [← isIconLink_iff]

/-- Whether a link gives an address: its reference without the blanks around it, if more than
blanks is there. -/
def GivesAddress (link : Item) (a : String) : Prop :=
  ∃ reference, link.attribute? "href" = some reference ∧
    Text.IsTrimmed a.toList reference.toList ∧ a ≠ ""

theorem iconAddress?_eq (xs : List Item) :
    iconAddress? xs = (xs.find? isIconLink).bind fun link =>
      (link.attribute? "href").bind nonBlank? :=
  rfl

theorem iconAddress?_eq_some_iff :
    iconAddress? xs = some a ↔ ∃ link, IsFirstIcon xs link ∧ GivesAddress link a := by
  simp only [iconAddress?_eq, Option.bind_eq_some_iff, find?_isIconLink_eq_some_iff,
    nonBlank?_eq_some_iff, GivesAddress]

theorem iconAddress?_eq_none (h : ∀ link, IsFirstIcon xs link →
    ∀ reference, link.attribute? "href" = some reference →
      ∀ c ∈ reference.toList, Text.isBlank c = true) : iconAddress? xs = none := by
  rw [iconAddress?_eq, Option.bind_eq_none_iff]
  intro link hlink
  rw [Option.bind_eq_none_iff]
  intro reference hreference
  exact nonBlank?_eq_none_iff.mpr (h link (find?_isIconLink_eq_some_iff.mp hlink) _ hreference)

/-! ## What the icon depends on -/

/-- The icon of the page at `source` with these elements. -/
def icon? (xs : List Item) (source : String) : Option String :=
  (metadataOf xs source).favicon

theorem icon?_eq (xs : List Item) (source : String) :
    icon? xs source = (Url.read? source).map fun u => resolveIcon u (iconAddress? xs) :=
  rfl

theorem icon?_of_read? (h : Url.read? source = some u) (xs : List Item) :
    icon? xs source = some (resolveIcon u (iconAddress? xs)) := by
  rw [icon?_eq, h, Option.map_some]

theorem icon?_congr (h : xs.find? isIconLink = ys.find? isIconLink) (source : String) :
    icon? xs source = icon? ys source := by
  rw [icon?_eq, icon?_eq, iconAddress?_eq, iconAddress?_eq, h]

theorem icon?_of_none (h : Url.read? source = some u) (hnone : iconAddress? xs = none) :
    icon? xs source = some (u.beforePath ++ "/favicon.ico") := by
  rw [icon?_of_read? h, hnone, resolveIcon]

/-- Of two addresses with the same text in front of the path, a page has the same icon. -/
theorem icon?_eq_of_beforePath_eq (h : Url.read? source = some u)
    (h' : Url.read? source' = some u') (hpath : u.beforePath = u'.beforePath) (xs : List Item) :
    icon? xs source = icon? xs source' := by
  have hscheme := Url.scheme_eq_of_beforePath_eq h h' hpath
  rw [icon?_of_read? h, icon?_of_read? h']
  unfold resolveIcon
  rw [hpath, hscheme]

theorem find?_isIconLink_append {before after : List Item} (hlink : NamesIcon link) :
    (before ++ link :: after).find? isIconLink = (before ++ [link]).find? isIconLink := by
  simp [List.find?_append, isIconLink_iff.mpr hlink]

/-- How the icon of the page at `source` is chosen whose elements are `xs`. -/
structure IsChosenByFirstLink (xs : List Item) (source : String) : Prop where
  /-- There is an icon exactly if the address of the page is read. -/
  present : (∃ icon, icon? xs source = some icon) ↔ ∃ u, Url.read? source = some u
  /-- The first link that names an icon gives its address. -/
  given : ∀ u link a, Url.read? source = some u → IsFirstIcon xs link → GivesAddress link a →
    icon? xs source = some (resolveIcon u (some a))
  /-- Where this link has no reference or a blank one, or no link names an icon, the icon is the
  one at the root. -/
  atRoot : ∀ u, Url.read? source = some u →
    (∀ link, IsFirstIcon xs link → ∀ reference, link.attribute? "href" = some reference →
      ∀ c ∈ reference.toList, Text.isBlank c = true) →
    icon? xs source = some (u.beforePath ++ "/favicon.ico")
  /-- What stands behind a link that names an icon does not matter. -/
  later : ∀ before link after after', xs = before ++ link :: after → NamesIcon link →
    icon? (before ++ link :: after') source = icon? xs source
  /-- Elements that name no icon do not matter, wherever they stand. -/
  lookalikes : ∀ before after others, xs = before ++ after → (∀ item ∈ others, ¬NamesIcon item) →
    icon? (before ++ others ++ after) source = icon? xs source
  /-- Of the address of the page, the text in front of its path matters alone. -/
  origin : ∀ u source' u', Url.read? source = some u → Url.read? source' = some u' →
    u.beforePath = u'.beforePath → icon? xs source' = icon? xs source

theorem isChosenByFirstLink (xs : List Item) (source : String) :
    IsChosenByFirstLink xs source where
  present := by simp [icon?_eq, Option.map_eq_some_iff]
  given := by
    intro u link a hu hlink ha
    rw [icon?_of_read? hu, iconAddress?_eq_some_iff.mpr ⟨link, hlink, ha⟩]
  atRoot := fun u hu hblank => icon?_of_none hu (iconAddress?_eq_none hblank)
  later := by
    rintro before link after after' rfl hlink
    exact icon?_congr ((find?_isIconLink_append hlink).trans (find?_isIconLink_append hlink).symm) _
  lookalikes := by
    rintro before after others rfl hothers
    refine icon?_congr ?_ source
    rw [List.append_assoc, List.find?_append, List.find?_append,
      find?_isIconLink_eq_none_iff.mpr hothers, Option.none_or, ← List.find?_append]
  origin := fun u source' u' hu hu' hpath => (icon?_eq_of_beforePath_eq hu hu' hpath xs).symm

/-- The elements of a document in its order, each with the text in it. -/
def itemsInDocument (t : Tree) : List Item :=
  t.inDocument.map fun (id, element) => ⟨element, String.ofList (t.text id)⟩

theorem items_eq_itemsInDocument {t : Tree} (h : t.IsInPlace) : items t = itemsInDocument t := by
  rw [items, itemsInDocument, Tree.isInPlace_iff.mp h]

/-- The icon of a page is chosen by the first link that names an icon, among the elements that have
a parent and in the order in which they were made; where all of them are in place, this is the
order of the document. -/
theorem icon_is_chosen_by_first_link (t : Tree) (source : String) :
    IsChosenByFirstLink (items t) source ∧ (t.IsInPlace → items t = itemsInDocument t) :=
  ⟨isChosenByFirstLink _ _, items_eq_itemsInDocument⟩

/-- A page with a link that looks alike, then one with a blank reference, then one with another. -/
def blankFirst : String :=
  "<link rel=icons href=/a><link rel='x ICON' href=' '><link rel=icon href=/b>"

/-- Neither a link that looks alike gives the icon nor one behind a blank reference: it is the one
at the root. -/
theorem icon_is_chosen_by_first_link_of_blank :
    icon? (items (Tree.read blankFirst)) "http://[::1]/c" = some "http://[::1]/favicon.ico" ∧
      items (Tree.read blankFirst) = itemsInDocument (Tree.read blankFirst) := by
  obtain ⟨hchosen, hplace⟩ :=
    icon_is_chosen_by_first_link (Tree.read blankFirst) "http://[::1]/c"
  have hread : Url.read? "http://[::1]/c" = some
      { scheme := "http", host := some (.ipv6 [0, 0, 0, 0, 0, 0, 0, 1]),
        path := .segments ["c"] } := by
    decide +kernel
  have hblank : ((items (Tree.read blankFirst)).find? isIconLink).bind (·.attribute? "href") =
      some " " := by
    decide +kernel
  refine ⟨(hchosen.atRoot _ hread fun link hlink reference hreference => ?_).trans
    (by decide +kernel), hplace (by decide +kernel)⟩
  rw [find?_isIconLink_eq_some_iff.mpr hlink, Option.bind_some, hreference] at hblank
  obtain rfl := Option.some.inj hblank
  exact List.forall_mem_singleton.mpr (by decide)

/-- A link that is out of place in a table stands in the document in front of one in a cell that was
made before it, and yet this one gives the icon. So does a link that was cut off from the document,
with the body that frames replaced. -/
theorem icon_is_not_chosen_in_document_order :
    ((metadata "<table><td><link rel=icon href=/a></td></tr><link rel=icon href=/b></table>"
          "http://[::1]/").favicon = some "http://[::1]/a" ∧
        ∃ link, IsFirstIcon (itemsInDocument (Tree.read
            "<table><td><link rel=icon href=/a></td></tr><link rel=icon href=/b></table>")) link ∧
          GivesAddress link "/b") ∧
      (metadata "<p><link rel=icon href=/a><frameset>" "http://[::1]/").favicon =
          some "http://[::1]/a" ∧
        ∀ item ∈ itemsInDocument (Tree.read "<p><link rel=icon href=/a><frameset>"),
          ¬NamesIcon item := by
  refine ⟨⟨by decide +kernel, ?_⟩, by decide +kernel, ?_⟩
  · exact iconAddress?_eq_some_iff.mp (by decide +kernel)
  · exact find?_isIconLink_eq_none_iff.mp (by decide +kernel)

end LinkPreview.Page
