import LinkPreview.Proofs.Html.Formatting

/-!
# What the rules keep to

Every mode has its rules, and each of them changes only what is the builder's own and makes only
elements that the token stands for or that need no tag. So does taking in a token, which is looked
at until a rule is done with it.
-/

namespace LinkPreview.Html.Build

open Builder

variable {A : Allowance} {b b' : Builder} {tag : Tag} {token : Token}

/-! ## Before the body -/

theorem works_addMissing [Admits A] {id : NodeId} (hb : b.Sound A) (hid : b.Holds id)
    (attributes : List Attribute) :
    b.Works A { b with tree := b.tree.addMissing id attributes } :=
  (Works.refl hb).change (.extended (.inl hid) (hb.held hid).2)

instance keeps_mergeRoot [Admits A] (tag : Tag) : Keeps A (mergeRoot tag) := by
  have : Keeps A (do
      let root := (← get).openElements.getLast?.getD Tree.root
      onTree (·.addMissing root tag.attributes)
      return Outcome.done : Build Outcome) :=
    keeps_of_get fun b hb => works_addMissing hb (holds_getLast? b) _
  refine (keeps_isOpen _).bind fun _ => ?_
  dsimp only
  infer_instance

theorem keeps_makeRoot [Admits A] {attributes : List Attribute}
    (he : A.made ⟨.html, "html", attributes⟩) :
    Keeps A (makeRoot attributes) where
  works_of_sound := by
    intro b hb
    have hmade := works_create (.refl hb) he
    have hok : (create ⟨.html, "html", attributes⟩ b).2.tree.IsHoldable b.tree.nodes.size :=
      isHoldable_create b (e := ⟨.html, "html", attributes⟩)
        (show "html" ≠ "meta" by decide)
    have happend : Tree.Change A.made b.Mine _ (Tree.append _ Tree.root b.tree.nodes.size) :=
      .of_append (.inr (Nat.le_refl _)) hok.1 (.inl (.inl (holds_root b)))
        (hmade.sound.lt (holds_root _))
    exact (hmade.change happend).open (.inr (Nat.le_refl _)) (hok.change happend)

theorem works_openHead [Admits A] (he : A.made ⟨.html, tag.name, tag.attributes⟩)
    (hname : tag.name ≠ "meta") (hb : b.Sound A) : b.Works A (openHead tag b).2 := by
  have hkeeps : Keeps A (insert .html tag) := keeps_insert he hname
  have h := hkeeps.works (.refl hb)
  have hopen : b.tree.nodes.size ∈ (insert .html tag b).2.openElements := by
    rw [insert_apply]
    exact List.mem_cons_self
  refine h.adjust rfl (fun {i} hi => ?_) (fun hentry => .inl ⟨_, hentry⟩) .inl
  rcases hi with hi | hi | hi
  · exact .inl (.inl hi)
  · cases hi
    rw [insert_apply]
    exact .inl (.of_open hopen)
  · exact .inl (.inr (.inr hi))

instance keeps_openHead [Admits A] [htag : AdmitsTag A tag] [hopens : Opens tag] :
    Keeps A (openHead tag) where
  works_of_sound := fun _ => works_openHead htag.element hopens.name_ne

instance keeps_initialStep (token : Token) : Keeps A (initialStep token) := by
  unfold initialStep
  cases token <;> dsimp only <;> infer_instance

instance keeps_beforeHtmlStep [hA : Admits A] [AdmitsToken A token] :
    Keeps A (beforeHtmlStep token) := by
  have : Keeps A (makeRoot []) := keeps_makeRoot (hA.implied (by decide))
  unfold beforeHtmlStep
  cases token with
  | startTag tag =>
      dsimp only
      split
      case isTrue hname =>
        have htag : AdmitsTag A tag := inferInstance
        have : Keeps A (makeRoot tag.attributes) := keeps_makeRoot (hname ▸ htag.element)
        infer_instance
      case isFalse => infer_instance
  | _ => dsimp only; infer_instance

instance keeps_beforeHeadStep [hA : Admits A] [AdmitsToken A token] :
    Keeps A (beforeHeadStep token) := by
  have : Keeps A (openHead { name := "head" }) :=
    ⟨fun _ => works_openHead (hA.implied (by decide)) (by decide)⟩
  unfold beforeHeadStep
  cases token with
  | startTag tag =>
      dsimp only
      split
      case h_2 hname =>
        have : Opens tag := ⟨by simp [hname]⟩
        infer_instance
      all_goals infer_instance
  | _ => dsimp only; infer_instance

instance keeps_openTemplate [Admits A] [AdmitsTag A tag] [Opens tag] :
    Keeps A (openTemplate tag) := by
  have hopen : Keeps A (openTag tag) := inferInstance
  exact hopen.bind fun _ => keeps_mark.bind fun _ =>
    keeps_control (fun _ => ⟨rfl, rfl, rfl, rfl⟩) fun _ => .inl

/-- Leaving the modes of the innermost template. -/
instance keeps_leaveTemplate : Keeps A (modify fun b =>
    { b with templateModes := b.templateModes.drop 1 } : Build PUnit) :=
  keeps_control (fun _ => ⟨rfl, rfl, rfl, rfl⟩) fun _ => .inl

instance keeps_closeTemplate : Keeps A closeTemplate :=
  keeps_bind

instance keeps_headElement [Admits A] [AdmitsTag A tag] : Keeps A (headElement tag) := by
  unfold headElement
  split
  case h_7 => infer_instance
  all_goals
    rename_i hname
    have : Opens tag := ⟨by simp [hname]⟩
    infer_instance

instance keeps_inHeadStep [Admits A] [AdmitsToken A token] : Keeps A (inHeadStep token) := by
  unfold inHeadStep
  cases token with
  | startTag tag => dsimp only; split <;> infer_instance
  | endTag name => dsimp only; split <;> infer_instance
  | _ => dsimp only; infer_instance

theorem works_push (hb : b.Sound A) {id : NodeId} (hid : b.Holds id) : b.Works A (push id b).2 :=
  (Works.refl hb).open (.inl hid) (hb.held hid)

instance keeps_afterHeadStep [hA : Admits A] [AdmitsToken A token] :
    Keeps A (afterHeadStep token) := by
  have : Keeps A (openImplied "body") := keeps_openImplied (by decide)
  unfold afterHeadStep
  cases token with
  | startTag tag =>
      have hrest (head : NodeId) : Keeps A (do
          headElement tag
          removeOpen head
          return Outcome.done : Build Outcome) := inferInstance
      have : Keeps A (do
          let head := (← get).head.getD Tree.root
          push head
          headElement tag
          removeOpen head
          return Outcome.done : Build Outcome) := by
        refine keeps_of_get fun b hb => ?_
        have hhead : b.Holds (b.head.getD Tree.root) := by
          cases h : b.head with
          | none => exact holds_root b
          | some head => exact .inr (.inl h)
        exact (hrest _).works (works_push hb hhead)
      dsimp only
      split
      case h_3 hname | h_4 hname =>
        have : Opens tag := ⟨by simp [hname]⟩
        infer_instance
      all_goals infer_instance
  | endTag name => dsimp only; split <;> infer_instance
  | _ => dsimp only; infer_instance

/-! ## The body -/

instance keeps_closeItem (names : List String) : Keeps A (closeItem names) := by
  refine keeps_get.bind fun b => ?_
  dsimp only
  split <;> infer_instance

instance keeps_openForeign {vocabulary : Vocabulary} [Keeps A (insert vocabulary tag)]
    [Keeps A (insertVoid vocabulary tag)] : Keeps A (openForeign vocabulary tag) :=
  keeps_ite

instance keeps_closeForm : Keeps A closeForm := by
  have : Keeps A (modify fun b => { b with form := none } : Build PUnit) :=
    keeps_control (fun _ => ⟨rfl, rfl, rfl, rfl⟩) fun _ => .inl
  refine (keeps_isOpen _).bind fun _ => ?_
  split
  · infer_instance
  · refine keeps_get.bind fun b => ?_
    split <;> infer_instance

/-- The body gives way to a frameset. -/
theorem works_giveWay [Admits A] (hb : b.Sound A) {root body : NodeId}
    (hroot : root ∈ b.openElements) (hbody : body ∈ b.openElements) :
    b.Works A { b with tree := b.tree.detach body, openElements := [root] } := by
  have hdetached := (Works.refl hb).change (.moved (.inl (.of_open hbody)) (hb.lt (.of_open hbody))
    (fun p hp => by cases hp) (Tree.moves_detach b.tree body))
  exact hdetached.keep rfl (fun id hid => List.mem_singleton.mp hid ▸ hroot) rfl (fun _ h => h) .inl

/-- The tags of formatting elements. -/
class Formats (tag : Tag) : Prop where
  name_mem : tag.name ∈ formattingNames

instance keeps_openFormatting_of_formats [Admits A] [h : Formats tag] :
    Keeps A (openFormatting tag) :=
  keeps_openFormatting h.name_mem

set_option synthInstance.maxSize 1024 in
instance keeps_bodyStart [hA : Admits A] [htag : AdmitsTag A tag] : Keeps A (bodyStart tag) := by
  have (id : NodeId) : Keeps A (modify fun b => { b with form := some id } : Build PUnit) :=
    keeps_control (fun _ => ⟨rfl, rfl, rfl, rfl⟩) fun _ => .inl
  have : Keeps A (modify fun b => { b with textMode := .plain } : Build PUnit) :=
    keeps_control (fun _ => ⟨rfl, rfl, rfl, rfl⟩) fun _ => .inl
  have hdropping (hname : tag.name ∈ ["pre", "listing", "textarea"]) :
      Keeps A (modify fun b => { b with skipNewline := true, framesetOk := false } : Build PUnit) :=
    keeps_control (fun _ => ⟨rfl, rfl, rfl, rfl⟩) fun _ _ => .inr (htag.dropping hname)
  have : Keeps A (modify fun b =>
      { b with mode :=
          if [Mode.inTable, .inCaption, .inTableBody, .inRow, .inCell].contains b.mode then
            .inSelectInTable
          else .inSelect } : Build PUnit) :=
    keeps_control (fun _ => ⟨rfl, rfl, rfl, rfl⟩) fun _ => .inl
  unfold bodyStart
  dsimp only
  split
  case h_2 =>
    refine keeps_of_get fun b hb => ?_
    rcases hopen : b.openElements.reverse with _ | ⟨_, _ | ⟨body, _⟩⟩
    · exact .refl hb
    · exact .refl hb
    · have hbody : b.Holds body := .of_open (List.mem_reverse.mp (by simp [hopen]))
      dsimp only
      rw [bind_apply, ite_apply]
      split
      · exact (keeps_forbidFrameset.works (.refl hb)).change
          (.extended (.inl hbody) (hb.held hbody).2)
      · exact .refl hb
  case h_3 hname =>
    have : Opens tag := ⟨by simp [hname]⟩
    have hopen : Keeps A (do
        openTag tag
        goTo .inFrameset
        return Outcome.done : Build Outcome) := inferInstance
    refine keeps_of_get fun b hb => ?_
    rcases hopenElements : b.openElements.reverse with _ | ⟨root, _ | ⟨body, _⟩⟩
    · exact .refl hb
    · exact .refl hb
    · dsimp only
      rw [ite_apply]
      split
      · exact hopen.works (works_giveWay hb (List.mem_reverse.mp (by simp [hopenElements]))
          (List.mem_reverse.mp (by simp [hopenElements])))
      · exact .refl hb
  case h_18 hname | h_19 hname =>
    have : Formats tag := ⟨by rw [hname]; decide⟩
    infer_instance
  case h_10 hname | h_11 hname | h_29 hname =>
    have : Opens tag := ⟨by simp [hname]⟩
    have := hdropping (by simp [hname])
    infer_instance
  case h_28 hname =>
    have : Keeps A (insertVoid .html { tag with name := "img" }) :=
      keeps_insertVoid (htag.image hname)
    infer_instance
  case h_41 hname =>
    have hopens : tag.name ≠ "meta" := by simp [hname]
    have := keeps_insert (htag.formula hname) hopens
    have := keeps_insertVoid (htag.formula hname)
    infer_instance
  case h_42 hname =>
    have hopens : tag.name ≠ "meta" := by simp [hname]
    have := keeps_insert (htag.drawing hname) hopens
    have := keeps_insertVoid (htag.drawing hname)
    infer_instance
  case h_43 =>
    split
    · infer_instance
    · rename_i hhead
      have : Opens tag := ⟨fun hname => hhead (by rw [hname]; decide)⟩
      split
      · infer_instance
      · split
        · rename_i hformatting
          have : Formats tag := ⟨.tail _ (.tail _ (List.contains_iff_mem.mp hformatting))⟩
          infer_instance
        · infer_instance
  all_goals
    rename_i hname
    have : Opens tag := ⟨by simp [hname]⟩
    infer_instance

instance keeps_bodyEnd [hA : Admits A] (name : String) : Keeps A (bodyEnd name) := by
  have : Keeps A (openImplied "p") := keeps_openImplied (by decide)
  have : Keeps A (insertVoid .html { name := "br" }) :=
    keeps_insertVoid (show A.made ⟨.html, "br", []⟩ from hA.implied (by decide))
  unfold bodyEnd
  dsimp only
  split <;> infer_instance

instance keeps_templateEnd : Keeps A templateEnd :=
  keeps_bind

instance keeps_inBodyStep [Admits A] [AdmitsToken A token] : Keeps A (inBodyStep token) := by
  unfold inBodyStep
  cases token <;> dsimp only <;> infer_instance

/-- Leaving an element whose content is text. -/
instance keeps_leaveText : Keeps A (modify fun b =>
    { b with mode := b.returnMode, textMode := .markup } : Build PUnit) :=
  keeps_control (fun _ => ⟨rfl, rfl, rfl, rfl⟩) fun _ => .inl

instance keeps_inTextStep [Admits A] (token : Token) : Keeps A (inTextStep token) := by
  unfold inTextStep
  cases token <;> dsimp only <;> infer_instance

/-! ## Tables -/

instance keeps_foster [Admits A] [AdmitsToken A token] : Keeps A (foster token) := by
  have (fostering : Bool) : Keeps A (modify fun b => { b with fostering } : Build PUnit) :=
    keeps_control (fun _ => ⟨rfl, rfl, rfl, rfl⟩) fun _ => .inl
  exact keeps_bind

instance keeps_inTableStep [Admits A] [AdmitsToken A token] : Keeps A (inTableStep token) := by
  have : Keeps A (openImplied "colgroup") := keeps_openImplied (by decide)
  have : Keeps A (openImplied "tbody") := keeps_openImplied (by decide)
  have (id : NodeId) : Keeps A (modify fun b => { b with form := some id } : Build PUnit) :=
    keeps_control (fun _ => ⟨rfl, rfl, rfl, rfl⟩) fun _ => .inl
  have : Keeps A (modify fun b =>
      { b with tableText := [], returnMode := b.mode, mode := .inTableText } : Build PUnit) :=
    keeps_control (fun _ => ⟨rfl, rfl, rfl, rfl⟩) fun _ => .inl
  unfold inTableStep
  cases token with
  | startTag tag =>
      dsimp only
      split
      case h_1 hname | h_2 hname | h_4 hname | h_5 hname | h_6 hname =>
        have : Opens tag := ⟨by simp [hname]⟩
        infer_instance
      all_goals infer_instance
  | endTag name => dsimp only; split <;> infer_instance
  | _ => dsimp only; infer_instance

instance keeps_forM (s : List Char) {f : Char → Build PUnit} [h : ∀ c, Keeps A (f c)] :
    Keeps A (s.forM f) := by
  induction s with
  | nil => exact keeps_pure _
  | cons c s ih => exact keeps_bind

instance keeps_inTableTextStep [Admits A] (token : Token) : Keeps A (inTableTextStep token) := by
  have (c : Char) :
      Keeps A (modify fun b => { b with tableText := c :: b.tableText } : Build PUnit) :=
    keeps_control (fun _ => ⟨rfl, rfl, rfl, rfl⟩) fun _ => .inl
  unfold inTableTextStep
  cases token <;> dsimp only <;> infer_instance

instance keeps_inCaptionStep [Admits A] [AdmitsToken A token] : Keeps A (inCaptionStep token) := by
  unfold inCaptionStep
  cases token with
  | endTag name => dsimp only; split <;> infer_instance
  | _ => dsimp only; infer_instance

instance keeps_inColumnGroupStep [Admits A] [AdmitsToken A token] :
    Keeps A (inColumnGroupStep token) := by
  unfold inColumnGroupStep
  cases token with
  | startTag tag => dsimp only; split <;> infer_instance
  | endTag name => dsimp only; split <;> infer_instance
  | _ => dsimp only; infer_instance

instance keeps_inTableBodyStep [Admits A] [AdmitsToken A token] :
    Keeps A (inTableBodyStep token) := by
  have : Keeps A (openImplied "tr") := keeps_openImplied (by decide)
  unfold inTableBodyStep
  cases token with
  | startTag tag =>
      dsimp only
      split
      case h_1 hname =>
        have : Opens tag := ⟨by simp [hname]⟩
        infer_instance
      all_goals infer_instance
  | endTag name => dsimp only; split <;> infer_instance
  | _ => dsimp only; infer_instance

instance keeps_inRowStep [Admits A] [AdmitsToken A token] : Keeps A (inRowStep token) := by
  unfold inRowStep
  cases token with
  | startTag tag =>
      dsimp only
      split
      case h_1 hname | h_2 hname =>
        have : Opens tag := ⟨by simp [hname]⟩
        infer_instance
      all_goals infer_instance
  | endTag name => dsimp only; split <;> infer_instance
  | _ => dsimp only; infer_instance

instance keeps_closeCell : Keeps A closeCell :=
  keeps_bind

instance keeps_inCellStep [Admits A] [AdmitsToken A token] : Keeps A (inCellStep token) := by
  unfold inCellStep
  cases token with
  | endTag name => dsimp only; split <;> infer_instance
  | _ => dsimp only; infer_instance

/-! ## Other modes -/

set_option synthInstance.maxSize 1024 in
instance keeps_inSelectStep [Admits A] [AdmitsToken A token] : Keeps A (inSelectStep token) := by
  unfold inSelectStep
  cases token with
  | startTag tag =>
      dsimp only
      split
      case h_2 hname | h_3 hname =>
        have : Opens tag := ⟨by simp [hname]⟩
        infer_instance
      all_goals infer_instance
  | endTag name =>
      dsimp only
      split
      case h_1 =>
        refine keeps_get.bind fun b => ?_
        split <;> infer_instance
      all_goals infer_instance
  | _ => dsimp only; infer_instance

instance keeps_inSelectInTableStep [Admits A] [AdmitsToken A token] :
    Keeps A (inSelectInTableStep token) := by
  unfold inSelectInTableStep
  cases token <;> dsimp only <;> infer_instance

instance keeps_inTemplateStep [Admits A] [AdmitsToken A token] :
    Keeps A (inTemplateStep token) := by
  have (mode : Mode) : Keeps A (modify fun b =>
      { b with templateModes := mode :: b.templateModes.drop 1 } : Build PUnit) :=
    keeps_control (fun _ => ⟨rfl, rfl, rfl, rfl⟩) fun _ => .inl
  unfold inTemplateStep
  cases token with
  | startTag tag => dsimp only; split <;> infer_instance
  | _ => dsimp only; infer_instance

instance keeps_afterBodyStep [Admits A] [AdmitsToken A token] : Keeps A (afterBodyStep token) := by
  unfold afterBodyStep
  cases token <;> dsimp only <;> infer_instance

instance keeps_inFramesetStep [Admits A] [AdmitsToken A token] :
    Keeps A (inFramesetStep token) := by
  unfold inFramesetStep
  cases token with
  | startTag tag =>
      dsimp only
      split
      case h_2 hname =>
        have : Opens tag := ⟨by simp [hname]⟩
        infer_instance
      all_goals infer_instance
  | _ => dsimp only; infer_instance

instance keeps_afterFramesetStep [Admits A] [AdmitsToken A token] :
    Keeps A (afterFramesetStep token) := by
  unfold afterFramesetStep
  cases token with
  | startTag tag => dsimp only; split <;> infer_instance
  | _ => dsimp only; infer_instance

instance keeps_afterAfterBodyStep [Admits A] [AdmitsToken A token] :
    Keeps A (afterAfterBodyStep token) := by
  unfold afterAfterBodyStep
  cases token <;> dsimp only <;> infer_instance

instance keeps_afterAfterFramesetStep [Admits A] [AdmitsToken A token] :
    Keeps A (afterAfterFramesetStep token) := by
  unfold afterAfterFramesetStep
  cases token with
  | startTag tag => dsimp only; split <;> infer_instance
  | _ => dsimp only; infer_instance

instance keeps_modeStep [Admits A] [AdmitsToken A token] (mode : Mode) :
    Keeps A (modeStep mode token) := by
  cases mode <;> unfold modeStep <;> infer_instance

/-! ## Drawings and formulas -/

/-- The name of an element of a drawing is that of its tag, or has capital letters. -/
theorem drawingName_cases (name : String) :
    drawingName name = name ∨ drawingName name ∈ drawingNames := by
  unfold drawingName
  cases h : drawingNames.find? fun proper =>
      String.ofList (Text.asciiLower proper.toList) == name with
  | none => exact .inl rfl
  | some proper => exact .inr (List.mem_of_find?_eq_some h)

theorem drawingName_ne {name other : String} (h : name ≠ other) (hother : other ∉ drawingNames) :
    drawingName name ≠ other := by
  rintro rfl
  exact (drawingName_cases name).elim (fun heq => h heq.symm) hother

instance keeps_popForeign : Keeps A foreignStart.popForeign :=
  keeps_close fun _ _ hid => (List.dropWhile_suffix _).subset hid

theorem keeps_foreignStart [Admits A] [htag : AdmitsTag A tag] {e : Element} (he : A.present e)
    (hforeign : e.vocabulary ≠ .html) : Keeps A (foreignStart e tag) := by
  have : AdmitsToken A (.startTag tag) := ⟨fun h => by cases h; exact htag⟩
  unfold foreignStart
  split
  · infer_instance
  · rename_i hbreaks
    have hname : tag.name ≠ "meta" := by
      intro hname
      refine hbreaks (Bool.or_eq_true_iff.mpr (.inl ?_))
      rw [hname]
      decide
    have hopen (name : String) (hmem : name ∈ [tag.name, drawingName tag.name]) :
        Keeps A (openForeign e.vocabulary { tag with name }) := by
      have hmeta : name ≠ "meta" := by
        simp only [List.mem_cons, List.not_mem_nil, or_false] at hmem
        rcases hmem with rfl | rfl
        · exact hname
        · exact drawingName_ne hname (by decide)
      have hadmitted := htag.foreign he hforeign name hmem
      have : Keeps A (insert e.vocabulary { tag with name }) := keeps_insert hadmitted hmeta
      have : Keeps A (insertVoid e.vocabulary { tag with name }) := keeps_insertVoid hadmitted
      infer_instance
    have := hopen (if e.vocabulary == .svg then drawingName tag.name else tag.name)
      (by split <;> simp)
    infer_instance

theorem works_foreignEnd_search [Admits A] (name : String) (hb : b.Sound A)
    (isNamed isHtmlElement : NodeId → Bool) (first : Bool) (ids : List NodeId)
    (hids : ∀ id ∈ ids, id ∈ b.openElements) :
    b.Works A (foreignEnd.search name b isNamed isHtmlElement first ids b).2 := by
  induction ids generalizing first with
  | nil => exact .refl hb
  | cons id rest ih =>
      cases rest with
      | nil => exact .refl hb
      | cons below rest =>
          have hrest : ∀ id ∈ below :: rest, id ∈ b.openElements := fun id hid =>
            hids id (.tail _ hid)
          unfold foreignEnd.search
          simp only [ite_apply]
          split
          · exact (keeps_modeStep b.mode).works (.refl hb)
          · split
            · exact (Works.refl hb).keep rfl hrest rfl (fun _ hentry => hentry) .inl
            · exact ih _ hrest

instance keeps_foreignEnd [Admits A] (name : String) : Keeps A (foreignEnd name) :=
  keeps_of_get fun _ hb => works_foreignEnd_search name hb _ _ _ _ fun _ hid => hid

theorem keeps_foreignStep [Admits A] [AdmitsToken A token] {e : Element} (he : A.present e)
    (hforeign : e.vocabulary ≠ .html) : Keeps A (foreignStep e token) := by
  unfold foreignStep
  cases token with
  | startTag tag => exact keeps_foreignStart he hforeign
  | _ => dsimp only; infer_instance

/-! ## Taking in a token -/

/-- What is made of the current element: it is in the tree, and not of HTML. -/
theorem currentForeign?_eq_some {e : Element} (h : (currentForeign? b).1 = some e) :
    (∃ id, b.tree.element? id = some e) ∧ e.vocabulary ≠ .html := by
  simp only [currentForeign?, get_bind_apply, pure_apply] at h
  split at h
  · rename_i e' hcurrent
    split at h
    · cases h
    · rename_i hhtml
      cases h
      obtain ⟨id, -, hid⟩ := Option.bind_eq_some_iff.mp hcurrent
      exact ⟨⟨id, hid⟩, fun heq => hhtml (beq_iff_eq.mpr heq)⟩
  · cases h

theorem works_look [Admits A] [AdmitsToken A token] (hb : b.Sound A) :
    b.Works A (look token b).2 := by
  have hreads : (currentForeign? b).2 = b := rfl
  unfold look
  rw [bind_apply, hreads]
  cases hcurrent : (currentForeign? b).1.filter (isForeign · token) with
  | none => exact (keeps_modeStep b.mode).works (.refl hb)
  | some e =>
      obtain ⟨⟨id, hid⟩, hforeign⟩ :=
        currentForeign?_eq_some (Option.filter_eq_some_iff.mp hcurrent).1
      exact (keeps_foreignStep (hb.elements hid) hforeign).works (.refl hb)

instance keeps_look [Admits A] [AdmitsToken A token] : Keeps A (look token) where
  works_of_sound := fun _ => works_look

instance keeps_lookUpTo [Admits A] [AdmitsToken A token] (n : Nat) :
    Keeps A (lookUpTo token n) := by
  induction n with
  | zero => exact keeps_pure _
  | succ n ih =>
      refine Keeps.bind (m := look token) inferInstance fun outcome => ?_
      cases outcome <;> infer_instance

/-- Taking in a token changes only what is the builder's own, and makes only what the token stands
for or what needs no tag. -/
theorem works_take [Admits A] [AdmitsToken A token] (hb : b.Sound A) :
    b.Works A (take token b).2 := by
  have hstart : b.Works A { b with skipNewline := false } :=
    (Works.refl hb).keep rfl (fun _ hid => hid) rfl (fun _ hentry => hentry) fun h => by cases h
  simp only [take, get_bind_apply]
  rw [bind_apply, ite_apply]
  split
  · exact (keeps_lookUpTo _).works hstart
  · exact hstart

end LinkPreview.Html.Build
