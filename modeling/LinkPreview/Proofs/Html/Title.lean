import LinkPreview.Proofs.Html.WrittenTag

/-!
# How a title is opened and filled

The tag of a title opens an element that holds the characters which follow, up to the next end tag,
and nothing else. `InTitle` says so of a builder that is in there. Once it has left a title, nothing
changes the text in there any more.
-/

namespace LinkPreview.Html

variable {A A' : Allowance} {b b' : Builder} {x : NodeId} {e : Element} {tag : Tag}
  {s t w tail : List Char}

/-! ## What is allowed -/

namespace Builder

theorem Sound.mono (hpresent : ∀ e, A.present e → A'.present e) (h : b.Sound A) : b.Sound A' :=
  ⟨h.bounded, fun he => hpresent _ (h.elements he), h.held, h.formatting⟩

theorem Works.mono (hpresent : ∀ e, A.present e → A'.present e) (hmade : ∀ e, A.made e → A'.made e)
    (hdropping : A.dropping → A'.dropping) (h : b.Works A b') : b.Works A' b' :=
  ⟨h.tree.mono hmade fun _ hid => hid, h.held, h.sound.mono hpresent,
    fun hnewline => (h.newline hnewline).imp_right hdropping⟩

end Builder

namespace Allowance

/-- No elements named `title`. -/
abbrev untitled (dropping : Prop) : Allowance :=
  .only (fun e => e.name ≠ "title") dropping

/-- No elements of HTML named `title`. -/
abbrev untitledInHtml : Allowance :=
  .only (fun e => ¬(e.vocabulary = .html ∧ e.name = "title")) True

/-- No more elements named `title`. -/
def titled : Allowance where
  present := fun _ => True
  made := fun e => e.name ≠ "title"
  dropping := True

/-- All elements. -/
abbrev all : Allowance :=
  .only (fun _ => True) True

theorem ne_title_of_mem {name : String} (h : name ∈ impliedNames ∨ name ∈ formattingNames) :
    name ≠ "title" := by
  rintro rfl
  exact absurd h (by decide)

instance (dropping : Prop) : Admits (untitled dropping) :=
  admits_only (fun hext h heq => h (hext.name_eq ▸ heq)) (fun hname => ne_title_of_mem (.inl hname))
    fun hname _ => ne_title_of_mem (.inr hname)

instance : Admits untitledInHtml :=
  admits_only (fun hext h heq => h ⟨hext.vocabulary_eq ▸ heq.1, hext.name_eq ▸ heq.2⟩)
    (fun hname heq => ne_title_of_mem (.inl hname) heq.2)
    fun hname _ heq => ne_title_of_mem (.inr hname) heq.2

instance : Admits titled where
  present := fun _ => trivial
  extended := fun _ _ => trivial
  implied := fun hname => ne_title_of_mem (.inl hname)
  formatting := fun hname _ => ne_title_of_mem (.inr hname)

instance : Admits all :=
  admits_only (fun _ _ => trivial) (fun _ => trivial) fun _ _ => trivial

instance : AdmitsTag all tag := by
  constructor <;> intros <;> trivial

/-- Who may make all elements not named `title` may make all that other tags stand for. -/
theorem admitsTag_of_name_ne (hmade : ∀ e, e.name ≠ "title" → A.made e) (hdropping : A.dropping)
    (h : tag.name ≠ "title") : AdmitsTag A tag where
  element := hmade _ h
  image := fun _ => hmade _ (by simp)
  drawing := fun _ => hmade _ h
  formula := fun _ => hmade _ h
  foreign := by
    intro _ _ _ name hname
    refine hmade _ ?_
    simp only [List.mem_cons, List.not_mem_nil, or_false] at hname
    rcases hname with rfl | rfl
    · exact h
    · exact Build.drawingName_ne h (by decide)
  dropping := fun _ => hdropping

end Allowance

/-! ## The text of a title -/

/-- Whether a node of a tree is an element named `title` with nothing in it but the text `t`, and
the only one of this name. -/
structure Tree.IsOnlyTitle (tree : Tree) (x : NodeId) (e : Element) (t : List Char) : Prop where
  text : tree.HasText x e t
  name : e.name = "title"
  only : ∀ {id e'}, tree.element? id = some e' → e'.name = "title" → id = x

/-- Whether a builder has left a title: it holds neither the element nor what is in there. -/
structure Builder.IsBehindTitle (b : Builder) (x : NodeId) (e : Element) (t : List Char) :
    Prop where
  title : b.tree.IsOnlyTitle x e t
  sound : b.Sound .titled
  element : ¬b.Mine x
  content : ∀ y ∈ b.tree.children x, ¬b.Mine y

/-- Whatever follows a title leaves its text alone. -/
theorem Builder.IsBehindTitle.works (h : b.IsBehindTitle x e t) (hwork : b.Works .titled b') :
    b'.tree.IsOnlyTitle x e t where
  text := (h.title.text.changes hwork.tree h.element h.content).1
  name := h.title.name
  only := by
    intro id e' he' hname
    rcases hwork.tree.extends_or_made he' with ⟨e₀, he₀, hext⟩ | ⟨-, e₀, hmade, hext⟩
    · exact h.title.only he₀ (hext.name_eq ▸ hname)
    · exact absurd (hext.name_eq ▸ hname) hmade

/-- Whether a builder is in a title with the text `t`, which is the current element. -/
structure Builder.InTitle (b : Builder) (x : NodeId) (e : Element) (t : List Char) : Prop where
  mode : b.mode = .inText
  textMode : b.textMode = .replaceable "title"
  newline : b.skipNewline = false
  title : b.tree.IsOnlyTitle x e t
  vocabulary : e.vocabulary = .html
  sound : b.Sound .titled
  current : ∃ below, b.openElements = x :: below ∧ x ∉ below
  apart : b.head ≠ some x ∧ x ≠ Tree.root
  content : ∀ y ∈ b.tree.children x, ¬b.Holds y

namespace Builder

open Build

/-! ## In a title -/

/-- In an element of HTML, the mode decides. -/
theorem look_of_html {token : Token} (h : (currentForeign? b).1 = none) :
    look token b = modeStep b.mode token b := by
  have hreads : (currentForeign? b).2 = b := rfl
  rw [look, bind_apply, hreads, h]
  rfl

theorem currentForeign?_of_html {below : List NodeId} (hopen : b.openElements = x :: below)
    (he : b.tree.element? x = some e) (hhtml : e.vocabulary = .html) :
    (currentForeign? b).1 = none := by
  simp [currentForeign?, hopen, he, hhtml]

theorem InTitle.look_eq (h : b.InTitle x e t) (token : Token) :
    look token b = inTextStep token b := by
  obtain ⟨below, hopen, -⟩ := h.current
  have he := Tree.element?_eq_some_iff.mpr h.title.text.kind
  rw [look_of_html (currentForeign?_of_html hopen he h.vocabulary), h.mode]
  rfl

/-- A token that is taken in is looked at at least once. -/
theorem exists_take_eq (hnewline : b.skipNewline = false) (token : Token) :
    ∃ n, take token b = lookUpTo token (n + 1) b := by
  have hsame : { b with skipNewline := false } = b := by
    rw [← hnewline]
  refine ⟨23 + 4 * b.openElements.length, ?_⟩
  rw [Nat.add_right_comm]
  simp [take, hnewline, hsame]

theorem insertChar_of_title (h : b.InTitle x e t) (c : Char) :
    insertChar c b = (⟨⟩, { b with tree := b.tree.appendChar x c }) := by
  obtain ⟨below, hopen, -⟩ := h.current
  have hspot : (spotFor x b).1 = .lastOf x := by
    have hfoster : fosteringElements.any (b.tree.isHtml x) = false := by
      rw [List.any_eq_false]
      intro name hname
      have hne : name ≠ "title" := by
        rintro rfl
        exact absurd hname (by decide)
      simp [Tree.isHtml, Tree.element?_eq_some_iff.mpr h.title.text.kind, h.title.name, hne.symm]
    simp only [spotFor, get_bind_apply, ite_apply, hfoster, Bool.and_false, Bool.false_eq_true,
      if_false, pure_apply]
  simp only [insertChar, bind_apply, current_apply, hopen, List.headD_cons, spotFor_snd, hspot,
    onTree_apply]

/-- A character goes to the end of the title. -/
theorem InTitle.take_char (h : b.InTitle x e t) (c : Char) :
    (take (.char c) b).2.InTitle x e (t ++ [c]) := by
  obtain ⟨n, hn⟩ := exists_take_eq h.newline (.char c)
  have htake : (take (.char c) b).2 = { b with tree := b.tree.appendChar x c } := by
    have hstep : inTextStep (.char c) b = (.done, (insertChar c b).2) := rfl
    rw [hn, lookUpTo, bind_apply, h.look_eq, hstep, insertChar_of_title h]
    rfl
  have hsound : (take (.char c) b).2.Sound .titled := (works_take h.sound).sound
  obtain ⟨htext, hchildren⟩ := h.title.text.appendChar h.sound.bounded c
  rw [htake] at hsound ⊢
  refine ⟨h.mode, h.textMode, h.newline, ⟨htext, h.title.name, fun he hname => ?_⟩, h.vocabulary,
    hsound, h.current, h.apart, fun y hy => ?_⟩
  · rw [Tree.element?_appendChar] at he
    exact h.title.only he hname
  · rcases hchildren y hy with hold | rfl
    · exact h.content y hold
    · exact fun hheld => Nat.lt_irrefl _ (h.sound.lt hheld)

theorem InTitle.takeAll_chars (h : b.InTitle x e t) (s : List Char) :
    (Tree.takeAll b (Token.chars s)).InTitle x e (t ++ s) := by
  induction s generalizing b t with
  | nil => simpa [Token.chars, Tree.takeAll] using h
  | cons c s ih => simpa [Token.chars, Tree.takeAll] using ih (h.take_char c)

/-! ## Leaving a title -/

/-- A builder that closes the title is behind it. -/
theorem InTitle.close (h : b.InTitle x e t) :
    Builder.IsBehindTitle { b with
      openElements := b.openElements.drop 1, mode := b.returnMode, textMode := .markup } x e t := by
  obtain ⟨below, hopen, hbelow⟩ := h.current
  have hsound := ((keeps_pop.bind fun _ => keeps_leaveText).works_of_sound b h.sound).sound
  refine ⟨h.title, hsound, ?_, fun y hy => ?_⟩
  · rintro ((hmem | hhead | hroot) | hle)
    · simp only [hopen, List.drop_one, List.tail_cons] at hmem
      exact hbelow hmem
    · exact h.apart.1 hhead
    · exact h.apart.2 hroot
    · exact Nat.not_lt.mpr hle (Tree.lt_size_of_kind? h.title.text.kind)
  · rintro ((hmem | hheld) | hle)
    · exact h.content y hy (.inl (List.mem_of_mem_drop hmem))
    · exact h.content y hy (.inr hheld)
    · obtain ⟨content, hcontent⟩ := Tree.isText_iff.mp (h.title.text.texts y hy)
      exact Nat.not_lt.mpr hle (Tree.lt_size_of_kind? hcontent)

theorem InTitle.take_endTag (h : b.InTitle x e t) (name : String) :
    (take (.endTag name) b).2.IsBehindTitle x e t := by
  obtain ⟨n, hn⟩ := exists_take_eq h.newline (.endTag name)
  rw [hn, lookUpTo, bind_apply, h.look_eq]
  exact h.close

/-- At the end of a page the title is closed like all that is open. -/
theorem InTitle.take_eof (h : b.InTitle x e t) : (take .eof b).2.tree.IsOnlyTitle x e t := by
  obtain ⟨n, hn⟩ := exists_take_eq h.newline .eof
  rw [hn, lookUpTo, bind_apply, h.look_eq]
  exact h.close.works ((keeps_lookUpTo _).works_of_sound _ h.close.sound)

end Builder

end LinkPreview.Html
