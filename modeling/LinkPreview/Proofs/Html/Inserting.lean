import LinkPreview.Proofs.Html.Building

/-!
# Inserting, opening and closing

What the steps keep to that all modes are made of. New content goes to a `Spot`, which is at a node
that the builder holds; so what is inserted goes below such a node or besides one.
-/

namespace LinkPreview.Html

variable {A : Allowance} {b b' : Builder} {id p : NodeId}
  {vocabulary : Vocabulary} {tag : Tag}

namespace Tree

variable {L : Element → Prop} {t : Tree} {mine : NodeId → Prop}

/-! ## Writing a character -/

theorem Change.of_append (hid : mine id) (hlt : id < t.nodes.size) (hp : t.Reaches mine p)
    (hplt : p < t.nodes.size) : Change L mine t (t.append p id) :=
  .moved hid hlt (fun q hq => by cases hq; exact ⟨hp, hplt⟩) (moves_append t p id)

theorem Change.of_insertBefore {s : NodeId} (ht : t.Bounded) (hid : mine id)
    (hlt : id < t.nodes.size) (hs : mine s) : Change L mine t (t.insertBefore s id) := by
  refine .moved hid hlt (fun q hq => ?_) (moves_insertBefore t s id)
  have hq' : t.parent? s = some q :=
    ((moves_detach t id).parent hq).resolve_right fun h => by cases h.2
  exact ⟨.inr ⟨s, hs, hq'⟩, ht.parent hq'⟩

theorem mem_children_of_previous? {s before : NodeId} (h : t.previous? s = some before) :
    ∃ p, t.parent? s = some p ∧ before ∈ t.children p := by
  obtain ⟨p, hp, hbefore⟩ := Option.bind_eq_some_iff.mp h
  refine ⟨p, hp, ?_⟩
  exact (List.dropWhile_suffix _).subset (List.mem_of_mem_drop (List.mem_of_mem_head? hbefore))

theorem changes_appendChar (hfresh : ∀ id, t.nodes.size ≤ id → mine id) (hp : mine p)
    (hlt : p < t.nodes.size) (c : Char) : Changes L mine t (t.appendChar p c) := by
  have hnew : Changes L mine t ((t.add (.text (String.singleton c))).2.append p t.nodes.size) := by
    refine .tail (.single (.made fun e h => by cases h)) (Change.of_append ?_ ?_ (.inl hp) ?_)
    · exact hfresh _ (Nat.le_refl _)
    · rw [size_add]
      exact Nat.lt_succ_self _
    · rw [size_add]
      exact Nat.lt_succ_of_lt hlt
  unfold appendChar
  split
  · rename_i last hlast
    split
    · exact .single (.wrote (.inl hp) (List.mem_of_mem_head? hlast) ‹_›)
    · exact hnew
  · exact hnew

theorem changes_insertCharBefore {s : NodeId} (ht : t.Bounded)
    (hfresh : ∀ id, t.nodes.size ≤ id → mine id) (hs : mine s) (c : Char) :
    Changes L mine t (t.insertCharBefore s c) := by
  have hadd : Change L mine t (t.add (.text (String.singleton c))).2 := .made fun e h => by cases h
  have hnew :
      Changes L mine t ((t.add (.text (String.singleton c))).2.insertBefore s t.nodes.size) := by
    refine .tail (.single hadd) (Change.of_insertBefore (ht.change hadd) ?_ ?_ hs)
    · exact hfresh _ (Nat.le_refl _)
    · rw [size_add]
      exact Nat.lt_succ_self _
  unfold insertCharBefore
  split
  · rename_i before hbefore
    obtain ⟨p, hp, hmem⟩ := mem_children_of_previous? hbefore
    split
    · exact .single (.wrote (.inr ⟨s, hs, hp⟩) hmem ‹_›)
    · exact hnew
  · exact hnew

end Tree

namespace Builder

/-- Changes of what is the builder's own. -/
theorem Works.changes [Admits A] (h : Works A b b') {t : Tree}
    (hchanges : Tree.Changes A.made b.Mine b'.tree t) : Works A b { b' with tree := t } := by
  induction hchanges with
  | refl => exact h
  | tail _ hchange ih => exact ih.change hchange

theorem Works.mine_of_le (h : Works A b b') (hle : b'.tree.nodes.size ≤ id) : b.Mine id :=
  h.mine (.inr hle)

end Builder

namespace Build

open Builder

/-! ## Spots -/

/-- Whether a spot is at a node that a builder may change, which came from the state `b` to `b'`. -/
def Spot.Fits (b b' : Builder) : Spot → Prop
  | .lastOf p => b.Mine p ∧ p < b'.tree.nodes.size
  | .before s => b.Mine s

theorem fits_of_holds (h : b.Works A b') (hp : b'.Holds p) : Spot.Fits b b' (.lastOf p) :=
  ⟨h.held hp, h.sound.lt hp⟩

theorem fits_fosterSpot (h : b.Works A b') (hp : b'.Holds p) (t : Tree) (ids : List NodeId)
    (hids : ∀ id ∈ ids, b'.Holds id) : Spot.Fits b b' (fosterSpot t p ids) := by
  induction ids with
  | nil => exact fits_of_holds h hp
  | cons id rest ih =>
      have hid : b'.Holds id := hids id List.mem_cons_self
      have hrest : ∀ id ∈ rest, b'.Holds id := fun id hid => hids id (.tail _ hid)
      unfold fosterSpot
      split
      · exact fits_of_holds h hid
      · split
        · split
          · exact h.held hid
          · cases rest with
            | nil => exact fits_of_holds h hp
            | cons below rest => exact fits_of_holds h (hrest below List.mem_cons_self)
        · exact ih hrest

theorem holds_getLast? (b : Builder) : b.Holds (b.openElements.getLast?.getD Tree.root) := by
  cases hlast : b.openElements.getLast? with
  | none => exact holds_root b
  | some last => exact .of_open (List.mem_of_getLast? hlast)

theorem holds_headD {ids : List NodeId} (h : ∀ id ∈ ids, b.Holds id) :
    b.Holds (ids.headD Tree.root) := by
  cases ids with
  | nil => exact holds_root b
  | cons id rest => exact h id List.mem_cons_self

@[simp] theorem spotFor_snd (target : NodeId) (b : Builder) : (spotFor target b).2 = b := by
  simp only [spotFor, get_bind_apply, ite_apply]
  split <;> rfl

theorem fits_spotFor (h : b.Works A b') (hp : b.Mine p) (hlt : p < b'.tree.nodes.size) :
    Spot.Fits b b' (spotFor p b').1 := by
  simp only [spotFor, get_bind_apply, ite_apply]
  split
  · exact fits_fosterSpot h (holds_getLast? b') _ _ fun id hid => .of_open hid
  · exact ⟨hp, hlt⟩

@[simp] theorem current_apply (b : Builder) : current b = (b.openElements.headD Tree.root, b) :=
  rfl

theorem holds_current (b : Builder) : b.Holds (b.openElements.headD Tree.root) :=
  holds_headD fun _ => .of_open

/-- Where content goes that is meant for the current element. -/
theorem fits_spotFor_current (h : b.Works A b') :
    Spot.Fits b b' (spotFor (b'.openElements.headD Tree.root) b').1 :=
  fits_spotFor h (h.held (holds_current b')) (h.sound.lt (holds_current b'))

/-! ## Inserting -/

@[simp] theorem onTree_apply (f : Tree → Tree) (b : Builder) :
    onTree f b = (⟨⟩, { b with tree := f b.tree }) :=
  rfl

@[simp] theorem create_apply (e : Element) (b : Builder) :
    create e b = (b.tree.nodes.size, { b with tree := (b.tree.add (.element e)).2 }) :=
  rfl

theorem works_place [Admits A] (h : b.Works A b') {spot : Spot} (hspot : spot.Fits b b')
    (hid : b.Mine id) (hlt : id < b'.tree.nodes.size) : b.Works A (place spot id b').2 := by
  cases spot with
  | lastOf p => exact h.change (.of_append hid hlt (.inl hspot.1) hspot.2)
  | before s => exact h.change (.of_insertBefore h.sound.bounded hid hlt hspot)

/-- Putting a node somewhere changes neither the open elements nor what nodes are. -/
structure Places (b b' : Builder) : Prop where
  kind : ∀ id, b'.tree.kind? id = b.tree.kind? id
  size : b'.tree.nodes.size = b.tree.nodes.size
  rest : b' = { b with tree := b'.tree }

theorem places_place (spot : Spot) (id : NodeId) (b : Builder) : Places b (place spot id b).2 := by
  cases spot with
  | lastOf p =>
      exact ⟨(Tree.moves_append b.tree p id).kind, (Tree.moves_append b.tree p id).size, rfl⟩
  | before s =>
      exact ⟨(Tree.moves_insertBefore b.tree s id).kind, (Tree.moves_insertBefore b.tree s id).size,
        rfl⟩

theorem works_create [Admits A] (h : b.Works A b') {e : Element} (he : A.made e) :
    b.Works A (create e b').2 :=
  h.change (.made fun e' h' => by cases h'; exact he)

theorem isHoldable_create (b : Builder) {e : Element} (hname : e.name ≠ "meta") :
    (create e b).2.tree.IsHoldable b.tree.nodes.size := by
  refine ⟨?_, fun e' he' => ?_⟩
  · simp
  · simp only [create_apply, Tree.element?_eq_some_iff, Tree.kind?_add, if_true,
      Option.some.injEq, NodeKind.element.injEq] at he'
    exact he' ▸ hname

/-- What inserting an element does: it is made and put into a spot. -/
theorem insertVoid_apply (vocabulary : Vocabulary) (tag : Tag) (b : Builder) :
    insertVoid vocabulary tag b =
      let made := (create ⟨vocabulary, tag.name, tag.attributes⟩ b).2
      (b.tree.nodes.size, (place (spotFor (b.openElements.headD Tree.root) made).1
        b.tree.nodes.size made).2) := by
  simp only [insertVoid, bind_apply, pure_apply, current_apply, spotFor_snd]
  rfl

theorem works_insertVoid [Admits A] (h : b.Works A b')
    (he : A.made ⟨vocabulary, tag.name, tag.attributes⟩) :
    b.Works A (insertVoid vocabulary tag b').2 := by
  rw [insertVoid_apply]
  have hmade := works_create h he
  refine works_place hmade (fits_spotFor_current hmade) (h.mine_of_le (Nat.le_refl _)) ?_
  simp

theorem places_insertVoid (vocabulary : Vocabulary) (tag : Tag) (b : Builder) :
    Places (create ⟨vocabulary, tag.name, tag.attributes⟩ b).2 (insertVoid vocabulary tag b).2 := by
  rw [insertVoid_apply]
  exact places_place _ _ _

theorem isHoldable_insertVoid (vocabulary : Vocabulary) (hname : tag.name ≠ "meta") (b : Builder) :
    (insertVoid vocabulary tag b).2.tree.IsHoldable b.tree.nodes.size := by
  have hplaces := places_insertVoid vocabulary tag b
  have hmade :=
    isHoldable_create (e := ⟨vocabulary, tag.name, tag.attributes⟩) b hname
  refine ⟨hplaces.size ▸ hmade.1, fun e he => hmade.2 e ?_⟩
  rwa [← Tree.element?_congr (hplaces.kind _)]

theorem keeps_insertVoid [Admits A] (he : A.made ⟨vocabulary, tag.name, tag.attributes⟩) :
    Keeps A (insertVoid vocabulary tag) where
  works_of_sound := fun _ hb => works_insertVoid (.refl hb) he

theorem insert_apply (vocabulary : Vocabulary) (tag : Tag) (b : Builder) :
    insert vocabulary tag b = (b.tree.nodes.size,
      { (insertVoid vocabulary tag b).2 with
        openElements := b.tree.nodes.size :: (insertVoid vocabulary tag b).2.openElements }) := by
  simp only [insert, bind_apply, pure_apply, push, modify_apply, insertVoid_apply]

theorem keeps_insert [Admits A] (he : A.made ⟨vocabulary, tag.name, tag.attributes⟩)
    (hname : tag.name ≠ "meta") : Keeps A (insert vocabulary tag) where
  works_of_sound := by
    intro b hb
    rw [insert_apply]
    have h := works_insertVoid (.refl hb) he
    exact h.open (.inr (Nat.le_refl _)) (isHoldable_insertVoid vocabulary hname b)

/-- The tags for which elements are opened. -/
class Opens (tag : Tag) : Prop where
  name_ne : tag.name ≠ "meta"

instance keeps_insert_html [Admits A] [htag : AdmitsTag A tag] [hopens : Opens tag] :
    Keeps A (insert .html tag) :=
  keeps_insert htag.element hopens.name_ne

instance keeps_insertVoid_html [Admits A] [htag : AdmitsTag A tag] :
    Keeps A (insertVoid .html tag) :=
  keeps_insertVoid htag.element

instance keeps_openTag [Keeps A (insert .html tag)] : Keeps A (openTag tag) :=
  keeps_bind

instance keeps_voidTag [Keeps A (insertVoid .html tag)] : Keeps A (voidTag tag) :=
  keeps_bind

theorem keeps_openImplied [hA : Admits A] {name : String} (hname : name ∈ impliedNames) :
    Keeps A (openImplied name) := by
  have : Keeps A (insert .html { name }) := by
    refine keeps_insert (hA.implied hname) ?_
    rintro rfl
    exact absurd hname (by decide)
  exact keeps_openTag

theorem works_insertChar [Admits A] (c : Char) (hb : b.Sound A) :
    b.Works A (insertChar c b).2 := by
  have h := Works.refl hb
  have hfits := fits_spotFor_current h
  simp only [insertChar, bind_apply, current_apply, spotFor_snd]
  revert hfits
  generalize (spotFor (b.openElements.headD Tree.root) b).1 = spot
  intro hfits
  cases spot with
  | lastOf p =>
      exact h.changes (Tree.changes_appendChar (fun _ => .inr) hfits.1 hfits.2 c)
  | before s =>
      exact h.changes (Tree.changes_insertCharBefore hb.bounded (fun _ => .inr) hfits c)

instance keeps_insertChar [Admits A] (c : Char) : Keeps A (insertChar c) where
  works_of_sound := fun _ => works_insertChar c

/-! ## Looking -/

instance keeps_currentIn (names : List String) : Keeps A (currentIn names) :=
  keeps_of_reads fun _ => rfl

instance keeps_isOpen (name : String) : Keeps A (isOpen name) :=
  keeps_of_reads fun _ => rfl

instance keeps_scopeHolds (scope : Scope) (p : NodeId → Bool) : Keeps A (scopeHolds scope p) :=
  keeps_of_reads fun _ => rfl

instance keeps_inScope (scope : Scope) (names : List String) : Keeps A (inScope scope names) :=
  keeps_of_reads fun _ => rfl

/-! ## Closing -/

/-- A step that changes neither the tree nor what is held. -/
theorem keeps_control {f : Builder → Builder}
    (h : ∀ b, (f b).tree = b.tree ∧ (f b).openElements = b.openElements ∧ (f b).head = b.head ∧
      (f b).formatting = b.formatting)
    (hnewline : ∀ b, (f b).skipNewline = true → b.skipNewline = true ∨ A.dropping) :
    Keeps A (modify f : Build PUnit) :=
  keeps_modify (fun b => (h b).1) (fun b _ hid => (h b).2.1 ▸ hid) (fun b => (h b).2.2.1)
    (fun b _ hentry => (h b).2.2.2 ▸ hentry) hnewline

/-- A step that closes elements. -/
theorem keeps_close {f : Builder → List NodeId} (h : ∀ b, ∀ id ∈ f b, id ∈ b.openElements) :
    Keeps A (modify fun b => { b with openElements := f b } : Build PUnit) :=
  keeps_modify (fun _ => rfl) h (fun _ => rfl) (fun _ _ hentry => hentry) fun _ => .inl

instance keeps_pop : Keeps A pop :=
  keeps_close fun _ _ => List.mem_of_mem_drop

instance keeps_popThrough (p : Tree → NodeId → Bool) : Keeps A (popThrough p) :=
  keeps_close fun _ _ hid => (List.dropWhile_suffix _).subset (List.mem_of_mem_drop hid)

instance keeps_popNamed (names : List String) : Keeps A (popNamed names) :=
  keeps_popThrough _

instance keeps_popTo (names : List String) : Keeps A (popTo names) :=
  keeps_close fun _ _ hid => (List.dropWhile_suffix _).subset hid

instance keeps_removeOpen (id : NodeId) : Keeps A (removeOpen id) :=
  keeps_close fun _ _ hid => (List.mem_filter.mp hid).1

instance keeps_closeImplied (names : List String) (spared : String) :
    Keeps A (closeImplied names spared) :=
  keeps_close fun _ _ hid => (List.dropWhile_suffix _).subset hid

instance keeps_closeAllImplied : Keeps A closeAllImplied :=
  keeps_closeImplied _ _

instance keeps_closeParagraph : Keeps A closeParagraph :=
  keeps_bind

instance keeps_closeOpenParagraph : Keeps A closeOpenParagraph :=
  keeps_bind

/-! ## Modes -/

instance keeps_goTo (mode : Mode) : Keeps A (goTo mode) :=
  keeps_control (fun _ => ⟨rfl, rfl, rfl, rfl⟩) fun _ => .inl

instance keeps_againIn (mode : Mode) : Keeps A (againIn mode) :=
  keeps_bind

instance keeps_forbidFrameset : Keeps A forbidFrameset :=
  keeps_control (fun _ => ⟨rfl, rfl, rfl, rfl⟩) fun _ => .inl

instance keeps_resetMode : Keeps A resetMode :=
  keeps_control (fun _ => ⟨rfl, rfl, rfl, rfl⟩) fun _ => .inl

instance keeps_againInReset : Keeps A againInReset :=
  keeps_bind

instance keeps_openText [Keeps A (openTag tag)] (textMode : TextMode) :
    Keeps A (openText tag textMode) := by
  have : Keeps A (modify fun b =>
      { b with returnMode := b.mode, mode := .inText, textMode } : Build PUnit) :=
    keeps_control (fun _ => ⟨rfl, rfl, rfl, rfl⟩) fun _ => .inl
  exact keeps_bind

end Build

end LinkPreview.Html
