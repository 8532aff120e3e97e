import LinkPreview.Proofs.Html.Title

/-!
# Where a title is opened

Every mode does one of two things with the tag of a title: it opens the title and is done, or it
makes no element of this name. A drawing or a formula makes an element of its own.
-/

namespace LinkPreview.Html

open Builder

variable {b b' : Builder} {x : NodeId} {e : Element} {tag : Tag} {vocabulary : Vocabulary}

namespace Builder

theorem Works.untitledInHtml {dropping : Prop} (h : b.Works (.untitled dropping) b') :
    b.Works .untitledInHtml b' :=
  h.mono (A := .untitled dropping) (fun _ hne heq => hne heq.2) (fun _ hne heq => hne heq.2)
    fun _ => trivial

theorem Works.newline_eq (h : b.Works (.untitled False) b') (hnewline : b.skipNewline = false) :
    b'.skipNewline = false := by
  rw [← Bool.not_eq_true]
  intro h'
  rcases h.newline h' with hnew | hnew
  · rw [hnewline] at hnew
    cases hnew
  · exact hnew

end Builder

namespace Build

/-! ## Opening a title -/

/-- An element that is inserted gets a place below a node that was there before. -/
theorem moves_insertVoid {A : Allowance} (hb : b.Sound A) (vocabulary : Vocabulary) (tag : Tag) :
    ∃ below, Tree.Moves (b.tree.add (.element ⟨vocabulary, tag.name, tag.attributes⟩)).2
        b.tree.nodes.size below (insertVoid vocabulary tag b).2.tree ∧
      ∀ p, below = some p → p < b.tree.nodes.size := by
  have hmade : (create ⟨vocabulary, tag.name, tag.attributes⟩ b).2.Sound .all :=
    (works_create (A := .all) (.refl (hb.mono fun _ _ => trivial)) trivial).sound
  have hfits := fits_spotFor_current (.refl hmade)
  rw [insertVoid_apply]
  dsimp only [create_apply] at hfits ⊢
  generalize (spotFor _ _).1 = spot at hfits ⊢
  cases spot with
  | lastOf p =>
      refine ⟨some p, Tree.moves_append _ _ _, fun q hq => ?_⟩
      obtain rfl := Option.some.inj hq
      exact hb.lt (hfits.1.resolve_right (Nat.not_le.mpr hfits.2))
  | before s =>
      refine ⟨_, Tree.moves_insertBefore _ _ _, fun q hq => ?_⟩
      have hparent := ((Tree.moves_detach _ _).parent hq).resolve_right fun h => by cases h.2
      exact hb.bounded.parent (by simpa using hparent)

theorem insertVoid_snd (vocabulary : Vocabulary) (tag : Tag) (b : Builder) :
    (insertVoid vocabulary tag b).2 = { b with tree := (insertVoid vocabulary tag b).2.tree } :=
  (places_insertVoid vocabulary tag b).rest

theorem children_of_le {t : Tree} {id : NodeId} (h : t.nodes.size ≤ id) : t.children id = [] := by
  simp [Tree.children, Array.getElem?_eq_none h]

/-- An element that is inserted has no content. -/
theorem hasText_insertVoid {A : Allowance} (hb : b.Sound A) (vocabulary : Vocabulary) (tag : Tag) :
    (insertVoid vocabulary tag b).2.tree.HasText b.tree.nodes.size
        ⟨vocabulary, tag.name, tag.attributes⟩ [] ∧
      (insertVoid vocabulary tag b).2.tree.children b.tree.nodes.size = [] := by
  obtain ⟨below, hmoves, hbelow⟩ := moves_insertVoid hb vocabulary tag
  have hnew : below ≠ some b.tree.nodes.size := fun h => Nat.lt_irrefl _ (hbelow _ h)
  have hchildren : (insertVoid vocabulary tag b).2.tree.children b.tree.nodes.size = [] := by
    refine List.eq_nil_iff_forall_not_mem.mpr fun y hy => ?_
    rcases hmoves.child hy with hold | ⟨-, h⟩
    · rw [Tree.children_add, children_of_le (Nat.le_refl _)] at hold
      cases hold
    · exact hnew h
  refine ⟨⟨?_, ?_, ?_, ?_, fun n hn => ?_, ?_⟩, hchildren⟩
  · rw [hmoves.kind, Tree.kind?_add, if_pos rfl]
  · rw [hchildren]
    exact fun _ hy => by cases hy
  · rw [hchildren]
    exact List.nodup_nil
  · rw [hchildren]
    rfl
  · rcases hmoves.parent hn with hold | ⟨-, h⟩
    · rw [Tree.parent?_add] at hold
      exact absurd (hb.bounded.parent hold) (Nat.lt_irrefl _)
    · exact absurd h hnew
  · rw [hchildren]
    exact fun _ _ hy => by cases hy

theorem headElement_of_title (hname : tag.name = "title") (b : Builder) :
    (headElement tag b).2 = { b with
      tree := (insertVoid .html tag b).2.tree
      openElements := b.tree.nodes.size :: b.openElements
      returnMode := b.mode, mode := .inText, textMode := .replaceable "title" } := by
  simp only [headElement, hname, openText, openTag, bind_apply, pure_apply, insert_apply,
    modify_apply]
  rw [insertVoid_snd]

/-- The tag of a title opens an element without content. -/
theorem inTitle_headElement {dropping : Prop} (hb : b.Sound (.untitled dropping))
    (hnewline : b.skipNewline = false) (hname : tag.name = "title") :
    (headElement tag b).2.InTitle b.tree.nodes.size ⟨.html, tag.name, tag.attributes⟩ [] := by
  have hsound : (headElement tag b).2.Sound .titled :=
    ((keeps_headElement (A := .all)).works_of_sound b (hb.mono fun _ _ => trivial)).sound.mono
      fun _ _ => trivial
  obtain ⟨below, hmoves, -⟩ := moves_insertVoid hb .html tag
  obtain ⟨htext, hchildren⟩ := hasText_insertVoid hb .html tag
  rw [headElement_of_title hname] at hsound ⊢
  refine ⟨rfl, rfl, hnewline, ⟨htext, hname, fun {id e'} he hname' => ?_⟩, rfl, hsound,
    ⟨_, rfl, ?_⟩, ⟨?_, ?_⟩, ?_⟩
  · by_contra hid
    rw [Tree.element?_eq_some_iff, hmoves.kind, Tree.kind?_add, if_neg hid,
      ← Tree.element?_eq_some_iff] at he
    exact hb.elements he hname'
  · exact fun hmem => Nat.lt_irrefl _ (hb.lt (.of_open hmem))
  · exact fun hhead => Nat.lt_irrefl _ (hb.lt (.inr (.inl hhead)))
  · exact fun hroot => Nat.lt_irrefl _ (hroot ▸ hb.lt (holds_root b))
  · rw [hchildren]
    exact fun _ hy => by cases hy

/-! ## Steps that may open a title -/

/-- Whether a step opens a title and is done, or makes no element of this name. -/
class Titles (m : Build Outcome) : Prop where
  opens_or_works : ∀ b : Builder, b.Sound (.untitled False) → b.skipNewline = false →
    b.Works (.untitled False) (m b).2 ∨
      (m b).1 = .done ∧ ∃ x e, (m b).2.InTitle x e []

instance titles_of_keeps {m : Build Outcome} [h : Keeps (.untitled False) m] : Titles m where
  opens_or_works := fun b hb _ => .inl (h.works_of_sound b hb)

instance titles_bind {α : Type} {m : Build α} {f : α → Build Outcome}
    [hm : Keeps (.untitled False) m] [hf : ∀ a, Titles (f a)] : Titles (m >>= f) where
  opens_or_works := by
    intro b hb hnewline
    have hwork := hm.works_of_sound b hb
    exact ((hf _).opens_or_works _ hwork.sound (hwork.newline_eq hnewline)).imp_left hwork.trans

instance titles_ite {c : Prop} [Decidable c] {m m' : Build Outcome} [h : Titles m]
    [h' : Titles m'] : Titles (if c then m else m') := by
  split
  · exact h
  · exact h'

theorem titles_headElement (hname : tag.name = "title") :
    Titles (do headElement tag; return .done) where
  opens_or_works := fun _ hb hnewline => .inr ⟨rfl, _, _, inTitle_headElement hb hnewline hname⟩

theorem titles_inBodyStep (hname : tag.name = "title") : Titles (inBodyStep (.startTag tag)) := by
  have heq : inBodyStep (.startTag tag) = do headElement tag; return .done := by
    simp [inBodyStep, bodyStart, hname, headElements]
  rw [heq]
  exact titles_headElement hname

theorem titles_foster (hname : tag.name = "title") : Titles (foster (.startTag tag)) := by
  have hfostering (fostering : Bool) :
      Keeps (.untitled False) (modify fun b => { b with fostering } : Build PUnit) :=
    keeps_control (fun _ => ⟨rfl, rfl, rfl, rfl⟩) fun _ => .inl
  have hbody : Titles (do
      let outcome ← inBodyStep (.startTag tag)
      modify fun b => { b with fostering := false }
      return outcome) := by
    refine ⟨fun b hb hnewline => ?_⟩
    rcases (titles_inBodyStep hname).opens_or_works b hb hnewline with hwork | ⟨hdone, x, e, h⟩
    · exact .inl ((hfostering false).works hwork)
    · exact .inr ⟨hdone, x, e, h.mode, h.textMode, h.newline, h.title, h.vocabulary,
        ⟨h.sound.bounded, h.sound.elements, h.sound.held, h.sound.formatting⟩, h.current, h.apart,
        h.content⟩
  exact titles_bind

/-- Behind the head, the title goes into the head all the same. -/
theorem titles_afterHeadStep (hname : tag.name = "title") :
    Titles (afterHeadStep (.startTag tag)) := by
  have heq : afterHeadStep (.startTag tag) = (do
      let head := (← get).head.getD Tree.root
      push head
      headElement tag
      removeOpen head
      return .done) := by
    simp [afterHeadStep, hname, headElements]
  rw [heq]
  refine ⟨fun b hb hnewline => .inr ⟨rfl, ?_⟩⟩
  have hhead : b.Holds (b.head.getD Tree.root) := by
    cases h : b.head with
    | none => exact holds_root b
    | some head => exact .inr (.inl h)
  have hpushed := works_push hb hhead
  have h := inTitle_headElement (b := (push (b.head.getD Tree.root) b).2) hpushed.sound hnewline
    hname
  refine ⟨_, _, h.mode, h.textMode, h.newline, h.title, h.vocabulary,
    ((keeps_removeOpen _).works_of_sound _ h.sound).sound, ?_, h.apart, fun y hy hheld => ?_⟩
  · obtain ⟨below, hopen, hbelow⟩ := h.current
    have hne : b.tree.nodes.size ≠ b.head.getD Tree.root := (Nat.ne_of_lt (hb.lt hhead)).symm
    refine ⟨below.filter (· != b.head.getD Tree.root), ?_, fun hmem => ?_⟩
    · exact (congrArg _ hopen).trans (List.filter_cons_of_pos (bne_iff_ne.mpr hne))
    · exact hbelow (List.mem_filter.mp hmem).1
  · exact h.content y hy (hheld.imp_left fun hmem => (List.mem_filter.mp hmem).1)

/-- The tag of a title opens it in each mode in which it makes an element of this name. -/
theorem titles_modeStep (hname : tag.name = "title") (mode : Mode) :
    Titles (modeStep mode (.startTag tag)) := by
  have hdone : Titles (pure Outcome.done) := inferInstance
  have hagain (mode : Mode) : Titles (againIn mode) := inferInstance
  cases mode with
  | initial => exact hagain .beforeHtml
  | beforeHtml =>
      have : Keeps (.untitled False) (makeRoot []) :=
        keeps_makeRoot (A := .untitled False) (show "html" ≠ "title" by decide)
      rw [show modeStep .beforeHtml (.startTag tag) = (do makeRoot []; againIn .beforeHead) by
        simp [modeStep, beforeHtmlStep, hname]]
      infer_instance
  | beforeHead =>
      have : Keeps (.untitled False) (openHead { name := "head" }) :=
        ⟨fun _ => works_openHead (A := .untitled False) (show "head" ≠ "title" by decide)
          (by decide)⟩
      rw [show modeStep .beforeHead (.startTag tag) =
          (do openHead { name := "head" }; return .again) by
        simp [modeStep, beforeHeadStep, hname]]
      infer_instance
  | inHead =>
      rw [show modeStep .inHead (.startTag tag) = (do headElement tag; return .done) by
        simp [modeStep, inHeadStep, hname, headElements]]
      exact titles_headElement hname
  | afterHead => exact titles_afterHeadStep hname
  | inBody => exact titles_inBodyStep hname
  | inTable =>
      rw [show modeStep .inTable (.startTag tag) = foster (.startTag tag) by
        simp [modeStep, inTableStep, hname]]
      exact titles_foster hname
  | inTableText => exact titles_of_keeps (h := keeps_inTableTextStep (.startTag tag))
  | inCaption =>
      rw [show modeStep .inCaption (.startTag tag) = inBodyStep (.startTag tag) by
        simp [modeStep, inCaptionStep, hname, tableStarts]]
      exact titles_inBodyStep hname
  | inColumnGroup =>
      rw [show modeStep .inColumnGroup (.startTag tag) = (do
          if ← currentIn ["colgroup"] then
            pop
            againIn .inTable
          else return .done) by
        simp [modeStep, inColumnGroupStep, hname]]
      infer_instance
  | inTableBody =>
      rw [show modeStep .inTableBody (.startTag tag) = foster (.startTag tag) by
        simp [modeStep, inTableBodyStep, inTableStep, hname]]
      exact titles_foster hname
  | inRow =>
      rw [show modeStep .inRow (.startTag tag) = foster (.startTag tag) by
        simp [modeStep, inRowStep, inTableStep, hname]]
      exact titles_foster hname
  | inCell =>
      rw [show modeStep .inCell (.startTag tag) = inBodyStep (.startTag tag) by
        simp [modeStep, inCellStep, hname, tableStarts]]
      exact titles_inBodyStep hname
  | inTemplate =>
      rw [show modeStep .inTemplate (.startTag tag) = (do headElement tag; return .done) by
        simp [modeStep, inTemplateStep, hname, headElements]]
      exact titles_headElement hname
  | inSelect =>
      rw [show modeStep .inSelect (.startTag tag) = pure .done by
        simp [modeStep, inSelectStep, hname]]
      exact hdone
  | inSelectInTable =>
      rw [show modeStep .inSelectInTable (.startTag tag) = pure .done by
        simp [modeStep, inSelectInTableStep, inSelectStep, hname, selectionEnds]]
      exact hdone
  | afterBody =>
      rw [show modeStep .afterBody (.startTag tag) = againIn .inBody by
        simp [modeStep, afterBodyStep, hname]]
      exact hagain .inBody
  | afterAfterBody =>
      rw [show modeStep .afterAfterBody (.startTag tag) = againIn .inBody by
        simp [modeStep, afterAfterBodyStep, hname]]
      exact hagain .inBody
  | inText => exact hdone
  | inFrameset =>
      rw [show modeStep .inFrameset (.startTag tag) = pure .done by
        simp [modeStep, inFramesetStep, hname]]
      exact hdone
  | afterFrameset =>
      rw [show modeStep .afterFrameset (.startTag tag) = pure .done by
        simp [modeStep, afterFramesetStep, hname]]
      exact hdone
  | afterAfterFrameset =>
      rw [show modeStep .afterAfterFrameset (.startTag tag) = pure .done by
        simp [modeStep, afterAfterFramesetStep, hname]]
      exact hdone

/-! ## Taking in the tag of a title -/

/-- In a drawing or a formula the tag of a title makes an element of the same vocabulary. -/
theorem foreignStart_title (hb : b.Sound .untitledInHtml) (hforeign : e.vocabulary ≠ .html)
    (hname : tag.name = "title") :
    (foreignStart e tag b).1 = .done ∧ b.Works .untitledInHtml (foreignStart e tag b).2 := by
  have hbreaks : breaksOut tag = false := by
    simp [breaksOut, hname, breakingElements]
  have hmade (name : String) :
      Allowance.untitledInHtml.made ⟨e.vocabulary, name, tag.attributes⟩ :=
    fun h => hforeign h.1
  have hopen (name : String) (hmeta : name ≠ "meta") :
      Keeps .untitledInHtml (openForeign e.vocabulary { tag with name }) := by
    have : Keeps .untitledInHtml (insert e.vocabulary { tag with name }) :=
      keeps_insert (hmade name) hmeta
    have : Keeps .untitledInHtml (insertVoid e.vocabulary { tag with name }) :=
      keeps_insertVoid (hmade name)
    infer_instance
  have hmeta : (if e.vocabulary == .svg then drawingName tag.name else tag.name) ≠ "meta" := by
    rw [hname]
    split
    · exact drawingName_ne (by decide) (by decide)
    · decide
  rw [foreignStart, hbreaks, if_neg Bool.false_ne_true]
  exact ⟨rfl, (hopen _ hmeta).works (.refl hb)⟩

/-- Looking at the tag of a title once opens it or makes none, or makes one of a drawing or a
formula and is done. -/
theorem look_title (hb : b.Sound (.untitled False)) (hnewline : b.skipNewline = false)
    (hname : tag.name = "title") :
    b.Works (.untitled False) (look (.startTag tag) b).2 ∨
      (look (.startTag tag) b).1 = .done ∧
        (b.Works .untitledInHtml (look (.startTag tag) b).2 ∨
          ∃ x e, (look (.startTag tag) b).2.InTitle x e []) := by
  have hreads : (currentForeign? b).2 = b := rfl
  unfold look
  rw [bind_apply, hreads]
  cases hcurrent : (currentForeign? b).1.filter (isForeign · (.startTag tag)) with
  | none =>
      exact ((titles_modeStep hname b.mode).opens_or_works b hb hnewline).imp_right
        (And.imp_right .inr)
  | some e =>
      have hforeign := (currentForeign?_eq_some (Option.filter_eq_some_iff.mp hcurrent).1).2
      exact .inr ((foreignStart_title (Works.refl hb).untitledInHtml.sound hforeign hname).imp_right
        .inl)

theorem lookUpTo_title (n : Nat) (hb : b.Sound (.untitled False)) (hnewline : b.skipNewline = false)
    (hname : tag.name = "title") :
    b.Works .untitledInHtml (lookUpTo (.startTag tag) n b).2 ∨
      ∃ x e, (lookUpTo (.startTag tag) n b).2.InTitle x e [] := by
  induction n generalizing b with
  | zero => exact .inl (Works.refl hb).untitledInHtml
  | succ n ih =>
      rw [lookUpTo, bind_apply]
      rcases look_title hb hnewline hname with hwork | ⟨hdone, htitle⟩
      · cases (look (.startTag tag) b).1 with
        | done => exact .inl hwork.untitledInHtml
        | again =>
            exact (ih hwork.sound (hwork.newline_eq hnewline)).imp_left hwork.untitledInHtml.trans
      · rw [hdone]
        exact htitle

/-- Taking in the tag of a title opens it, or makes no title of HTML. -/
theorem take_title {dropping : Prop} (hb : b.Sound (.untitled dropping))
    (hname : tag.name = "title") :
    b.Works .untitledInHtml (take (.startTag tag) b).2 ∨
      ∃ x e, (take (.startTag tag) b).2.InTitle x e [] := by
  have hstart : b.Works (.untitled dropping) { b with skipNewline := false } :=
    (Works.refl hb).keep rfl (fun _ hid => hid) rfl (fun _ hentry => hentry) fun h => by cases h
  have htake : take (.startTag tag) b = lookUpTo (.startTag tag)
      (24 + 4 * b.openElements.length) { b with skipNewline := false } := by
    simp [take]
  rw [htake]
  exact (lookUpTo_title _ ⟨hstart.sound.bounded, hstart.sound.elements, hstart.sound.held,
    hstart.sound.formatting⟩ rfl hname).imp_left hstart.untitledInHtml.trans

end Build

end LinkPreview.Html
