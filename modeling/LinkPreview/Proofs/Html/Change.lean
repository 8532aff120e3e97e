import Mathlib.Data.List.Basic
import LinkPreview.Proofs.Html.Tree

/-!
# What a builder can do to a tree

A builder that holds some nodes of a tree can make nodes, move nodes that it holds, write into texts
beside or below them, and give them attributes. `Change` lists these, and everything that is said of
trees as they are built follows from the list: links stay inside the tree, elements keep their
names, and the text of an element that the builder has let go of stays what it is.
-/

namespace LinkPreview.Html

/-- Whether an element is another one with more attributes. The elements named `meta` get none. -/
def Element.Extends (e e' : Element) : Prop :=
  e' = e ∨ e.name ≠ "meta" ∧ ∃ more, e' = { e with attributes := e.attributes ++ more }

namespace Element.Extends

variable {e e' e'' : Element}

theorem refl (e : Element) : e.Extends e := .inl rfl

theorem name_eq (h : e.Extends e') : e'.name = e.name := by
  rcases h with rfl | ⟨-, more, rfl⟩ <;> rfl

theorem vocabulary_eq (h : e.Extends e') : e'.vocabulary = e.vocabulary := by
  rcases h with rfl | ⟨-, more, rfl⟩ <;> rfl

theorem trans (h : e.Extends e') (h' : e'.Extends e'') : e.Extends e'' := by
  rcases h' with rfl | ⟨hname, more', rfl⟩
  · exact h
  · refine .inr ⟨h.name_eq ▸ hname, ?_⟩
    rcases h with rfl | ⟨-, more, rfl⟩
    · exact ⟨more', rfl⟩
    · exact ⟨more ++ more', by simp⟩

end Element.Extends

namespace Tree

variable {L : Element → Prop} {mine : NodeId → Prop} {t t' : Tree} {id p c x a i : NodeId}
  {below : Option NodeId} {e e' : Element} {kind : NodeKind} {s : List Char} {ch : Char}

/-! ## Making nodes and writing -/

@[simp] theorem size_add (t : Tree) (kind : NodeKind) :
    (t.add kind).2.nodes.size = t.nodes.size + 1 := by
  simp [add]

theorem getElem?_add (t : Tree) (kind : NodeKind) (id : NodeId) :
    (t.add kind).2.nodes[id]? = if id = t.nodes.size then some { kind } else t.nodes[id]? := by
  simp [add, Array.getElem?_push]

theorem kind?_add (t : Tree) (kind : NodeKind) (id : NodeId) :
    (t.add kind).2.kind? id = if id = t.nodes.size then some kind else t.kind? id := by
  simp only [kind?, getElem?_add]
  split <;> rfl

theorem kind?_add_of_lt (kind : NodeKind) (h : id < t.nodes.size) :
    (t.add kind).2.kind? id = t.kind? id := by
  rw [kind?_add, if_neg (Nat.ne_of_lt h)]

@[simp] theorem parent?_add (t : Tree) (kind : NodeKind) (id : NodeId) :
    (t.add kind).2.parent? id = t.parent? id := by
  simp only [parent?, getElem?_add]
  split
  · rename_i h
    simp [h]
  · rfl

@[simp] theorem children_add (t : Tree) (kind : NodeKind) (id : NodeId) :
    (t.add kind).2.children id = t.children id := by
  simp only [children, getElem?_add]
  split
  · rename_i h
    simp [h]
  · rfl

theorem isText_iff : t.isText id = true ↔ ∃ content, t.kind? id = some (.text content) := by
  simp only [isText, kind?]
  rcases t.nodes[id]? with _ | ⟨_ | _ | _, _, _⟩ <;> simp

theorem kind?_extendText_of_ne (t : Tree) (ch : Char) (h : i ≠ id) :
    (t.extendText i ch).kind? id = t.kind? id := by
  rw [extendText, kind?, getElem?_update, if_neg h, kind?]

theorem kind?_extendText {content : String} (ch : Char) (h : t.kind? i = some (.text content)) :
    (t.extendText i ch).kind? i = some (.text (content.push ch)) := by
  obtain ⟨node, hnode, hkind⟩ := Option.map_eq_some_iff.mp h
  simp only [extendText, kind?, getElem?_update, if_true, hnode, Option.map_some, hkind]

@[simp] theorem parent?_extendText (t : Tree) (i : NodeId) (ch : Char) (id : NodeId) :
    (t.extendText i ch).parent? id = t.parent? id := by
  refine parent?_update (fun n => ?_) i id
  split <;> rfl

@[simp] theorem children_extendText (t : Tree) (i : NodeId) (ch : Char) (id : NodeId) :
    (t.extendText i ch).children id = t.children id := by
  refine children_update (fun n => ?_) i id
  split <;> rfl

@[simp] theorem size_extendText (t : Tree) (i : NodeId) (ch : Char) :
    (t.extendText i ch).nodes.size = t.nodes.size :=
  size_update _ _ _

theorem element?_extendText (t : Tree) (i : NodeId) (ch : Char) (id : NodeId) :
    (t.extendText i ch).element? id = t.element? id := by
  by_cases h : i = id
  · simp only [element?, extendText, getElem?_update, if_pos h]
    rcases t.nodes[id]? with _ | ⟨_ | _ | _, _, _⟩ <;> rfl
  · exact element?_congr (kind?_extendText_of_ne t ch h)

theorem kind?_addMissing_of_ne (t : Tree) (attributes : List Attribute) (h : i ≠ id) :
    (t.addMissing i attributes).kind? id = t.kind? id := by
  rw [addMissing, kind?, getElem?_update, if_neg h, kind?]

theorem exists_element?_addMissing (t : Tree) (id : NodeId) (attributes : List Attribute) :
    (t.addMissing id attributes).element? id = none ∧ t.element? id = none ∨
      ∃ e more, t.element? id = some e ∧ (t.addMissing id attributes).element? id =
        some { e with attributes := e.attributes ++ more } := by
  simp only [element?, addMissing, getElem?_update, if_true]
  rcases t.nodes[id]? with _ | ⟨_ | e | _, _, _⟩
  · exact .inl ⟨rfl, rfl⟩
  · exact .inl ⟨rfl, rfl⟩
  · exact .inr ⟨e, _, rfl, rfl⟩
  · exact .inl ⟨rfl, rfl⟩

@[simp] theorem parent?_addMissing (t : Tree) (i : NodeId) (attributes : List Attribute)
    (id : NodeId) : (t.addMissing i attributes).parent? id = t.parent? id := by
  refine parent?_update (fun n => ?_) i id
  split <;> rfl

@[simp] theorem children_addMissing (t : Tree) (i : NodeId) (attributes : List Attribute)
    (id : NodeId) : (t.addMissing i attributes).children id = t.children id := by
  refine children_update (fun n => ?_) i id
  split <;> rfl

@[simp] theorem size_addMissing (t : Tree) (i : NodeId) (attributes : List Attribute) :
    (t.addMissing i attributes).nodes.size = t.nodes.size :=
  size_update _ _ _

/-! ## Changes -/

/-- Whether a node is one of those held, or the parent of one of them. -/
def Reaches (t : Tree) (mine : NodeId → Prop) (p : NodeId) : Prop :=
  mine p ∨ ∃ s, mine s ∧ t.parent? s = some p

/-- What can be done at once to a tree by one who holds the nodes `mine` and makes only elements of
which `L` holds. -/
inductive Change (L : Element → Prop) (mine : NodeId → Prop) (t : Tree) : Tree → Prop
  | made {kind : NodeKind} (h : ∀ e, kind = .element e → L e) : Change L mine t (t.add kind).2
  | moved {c : NodeId} {below : Option NodeId} {t' : Tree} (hc : mine c) (hlt : c < t.nodes.size)
      (hbelow : ∀ p, below = some p → t.Reaches mine p ∧ p < t.nodes.size)
      (h : t.Moves c below t') :
      Change L mine t t'
  | movedChildren {a p : NodeId} (ha : mine a) (hp : mine p) (hlt : p < t.nodes.size) :
      Change L mine t (t.moveChildren a p)
  | wrote {i p : NodeId} {ch : Char} (hp : t.Reaches mine p) (hi : i ∈ t.children p)
      (htext : t.isText i = true) :
      Change L mine t (t.extendText i ch)
  | extended {id : NodeId} {attributes : List Attribute} (hid : mine id)
      (hname : ∀ e, t.element? id = some e → e.name ≠ "meta") :
      Change L mine t (t.addMissing id attributes)

/-- What can be done to a tree. -/
abbrev Changes (L : Element → Prop) (mine : NodeId → Prop) : Tree → Tree → Prop :=
  Relation.ReflTransGen (Change L mine)

theorem Change.mono {L' : Element → Prop} {mine' : NodeId → Prop} (hL : ∀ e, L e → L' e)
    (hmine : ∀ id, mine id → mine' id) (h : Change L mine t t') : Change L' mine' t t' := by
  have hreaches {p : NodeId} (hp : t.Reaches mine p) : t.Reaches mine' p :=
    hp.imp (hmine p) fun ⟨s, hs, hparent⟩ => ⟨s, hmine s hs, hparent⟩
  cases h with
  | made h => exact .made fun e he => hL e (h e he)
  | moved hc hlt hbelow h =>
      exact .moved (hmine _ hc) hlt (fun p hp => ⟨hreaches (hbelow p hp).1, (hbelow p hp).2⟩) h
  | movedChildren ha hp hlt => exact .movedChildren (hmine _ ha) (hmine _ hp) hlt
  | wrote hp hi htext => exact .wrote (hreaches hp) hi htext
  | extended hid hname => exact .extended (hmine _ hid) hname

theorem Changes.mono {L' : Element → Prop} {mine' : NodeId → Prop} (hL : ∀ e, L e → L' e)
    (hmine : ∀ id, mine id → mine' id) (h : Changes L mine t t') : Changes L' mine' t t' :=
  Relation.ReflTransGen.mono (fun _ _ => Change.mono hL hmine) _ _ h

/-! ### Moving the children of a node -/

/-- What each move of a child keeps, moving all of them keeps. -/
theorem moveChildren_induction {I : Tree → Prop} (h : I t)
    (hstep : ∀ t' c, c ∈ t.children a → I t' → I (t'.append p c)) : I (t.moveChildren a p) := by
  unfold moveChildren
  generalize hcs : t.children a = cs at hstep
  clear hcs
  induction cs with
  | nil => exact h
  | cons c cs ih =>
      exact hstep _ c List.mem_cons_self (ih fun t' c' hc' => hstep t' c' (.tail _ hc'))

/-! ### The size -/

theorem size_moveChildren (t : Tree) (a p : NodeId) :
    (t.moveChildren a p).nodes.size = t.nodes.size := by
  refine moveChildren_induction (I := fun t' => t'.nodes.size = t.nodes.size) rfl ?_
  intro t' c _ h
  rw [(moves_append t' p c).size, h]

theorem Change.size_le (h : Change L mine t t') : t.nodes.size ≤ t'.nodes.size := by
  cases h with
  | made => simp
  | moved _ _ _ h => exact Nat.le_of_eq h.size.symm
  | movedChildren => exact Nat.le_of_eq (size_moveChildren _ _ _).symm
  | wrote => simp
  | extended => simp

theorem Changes.size_le (h : Changes L mine t t') : t.nodes.size ≤ t'.nodes.size := by
  induction h with
  | refl => exact Nat.le_refl _
  | tail _ h ih => exact Nat.le_trans ih h.size_le

/-! ### Elements -/

theorem kind?_moveChildren (t : Tree) (a p id : NodeId) :
    (t.moveChildren a p).kind? id = t.kind? id := by
  refine moveChildren_induction (I := fun t' => t'.kind? id = t.kind? id) rfl ?_
  intro t' c _ h
  rw [(moves_append t' p c).kind, h]

/-- A change makes an element, or leaves all as they are except that one may get attributes. -/
theorem Change.element?_cases (h : Change L mine t t') (id : NodeId) :
    t'.element? id = t.element? id ∨
      (∃ e e', t.element? id = some e ∧ t'.element? id = some e' ∧ e.Extends e') ∨
      t.element? id = none ∧ t.nodes.size ≤ id ∧ ∃ e, t'.element? id = some e ∧ L e := by
  cases h with
  | @made kind h =>
      by_cases hid : id = t.nodes.size
      · have hnone : t.element? id = none := by
          refine Option.eq_none_iff_forall_ne_some.mpr fun e he => ?_
          exact Nat.ne_of_lt (lt_size_of_kind? (element?_eq_some_iff.mp he)) hid
        cases kind with
        | element e =>
            refine .inr (.inr ⟨hnone, Nat.le_of_eq hid.symm, e, ?_, h e rfl⟩)
            rw [element?_eq_some_iff, kind?_add, if_pos hid]
        | document | text content =>
            refine .inl (hnone ▸ Option.eq_none_iff_forall_ne_some.mpr fun e he => ?_)
            rw [element?_eq_some_iff, kind?_add, if_pos hid] at he
            cases he
      · refine .inl (element?_congr ?_)
        rw [kind?_add, if_neg hid]
  | moved _ _ _ h => exact .inl (element?_congr (h.kind id))
  | movedChildren => exact .inl (element?_congr (kind?_moveChildren _ _ _ _))
  | wrote => exact .inl (element?_extendText _ _ _ _)
  | @extended i attributes _ hname =>
      by_cases hid : i = id
      · subst hid
        rcases exists_element?_addMissing t i attributes with ⟨hnew, hold⟩ | ⟨e, more, hold, hnew⟩
        · exact .inl (hnew.trans hold.symm)
        · exact .inr (.inl ⟨e, _, hold, hnew, .inr ⟨hname e hold, more, rfl⟩⟩)
      · exact .inl (element?_congr (kind?_addMissing_of_ne t attributes hid))

/-- An element was there, or was made. -/
theorem Changes.extends_or_made (h : Changes L mine t t') (he : t'.element? id = some e') :
    (∃ e, t.element? id = some e ∧ e.Extends e') ∨
      t.nodes.size ≤ id ∧ ∃ e, L e ∧ e.Extends e' := by
  induction h generalizing e' with
  | refl => exact .inl ⟨e', he, .refl e'⟩
  | tail hs h ih =>
      rcases h.element?_cases id with heq | ⟨e₂, e₃, he₂, he₃, hext'⟩ | ⟨-, hle, e, hnew, hL⟩
      · exact ih (heq ▸ he)
      · obtain rfl := Option.some.inj (he₃.symm.trans he)
        rcases ih he₂ with ⟨e, hold, hext⟩ | ⟨hle, e, hL, hext⟩
        · exact .inl ⟨e, hold, hext.trans hext'⟩
        · exact .inr ⟨hle, e, hL, hext.trans hext'⟩
      · obtain rfl := Option.some.inj (hnew.symm.trans he)
        exact .inr ⟨Nat.le_trans (Changes.size_le hs) hle, e, hL, .refl e⟩

/-! ### Links -/

/-- Whether all links of a tree are to nodes that are there. -/
structure Bounded (t : Tree) : Prop where
  parent : ∀ {id p}, t.parent? id = some p → p < t.nodes.size
  child : ∀ {id p}, id ∈ t.children p → id < t.nodes.size

theorem Bounded.moves (h : t.Bounded) (hmoves : t.Moves c below t') (hc : c < t.nodes.size)
    (hbelow : ∀ p, below = some p → p < t.nodes.size) : t'.Bounded where
  parent := by
    intro id p hp
    rw [hmoves.size]
    rcases hmoves.parent hp with hp | ⟨-, hp⟩
    · exact h.parent hp
    · exact hbelow p hp
  child := by
    intro id p hid
    rw [hmoves.size]
    rcases hmoves.child hid with hid | ⟨rfl, -⟩
    · exact h.child hid
    · exact hc

theorem Bounded.change (h : t.Bounded) (hchange : Change L mine t t') : t'.Bounded := by
  cases hchange with
  | @made kind =>
      refine ⟨fun hp => ?_, fun hid => ?_⟩
      · rw [parent?_add] at hp
        rw [size_add]
        exact Nat.lt_succ_of_lt (h.parent hp)
      · rw [children_add] at hid
        rw [size_add]
        exact Nat.lt_succ_of_lt (h.child hid)
  | moved _ hlt hbelow hmoves => exact h.moves hmoves hlt fun p hp => (hbelow p hp).2
  | @movedChildren a p _ _ hlt =>
      refine (moveChildren_induction
        (I := fun t' => t'.Bounded ∧ t'.nodes.size = t.nodes.size) ⟨h, rfl⟩ ?_).1
      rintro t' c hc ⟨h', hsize⟩
      have hmoves := moves_append t' p c
      refine ⟨h'.moves hmoves (hsize ▸ h.child hc) fun q hq => ?_, hmoves.size.trans hsize⟩
      cases hq
      rw [hsize]
      exact hlt
  | wrote => exact ⟨fun hp => by simpa using h.parent (by simpa using hp),
      fun hid => by simpa using h.child (by simpa using hid)⟩
  | extended => exact ⟨fun hp => by simpa using h.parent (by simpa using hp),
      fun hid => by simpa using h.child (by simpa using hid)⟩

/-! ### Texts -/

/-- The characters of a node that is text. -/
def ownText (t : Tree) (id : NodeId) : List Char :=
  match t.kind? id with
  | some (.text content) => content.toList
  | _ => []

/-- Whether a node is an element with nothing but texts in it, which are together `s` and are in no
other place. -/
structure HasText (t : Tree) (x : NodeId) (e : Element) (s : List Char) : Prop where
  kind : t.kind? x = some (.element e)
  texts : ∀ y ∈ t.children x, t.isText y = true
  nodup : (t.children x).Nodup
  text : (t.children x).reverse.flatMap t.ownText = s
  parents : ∀ n, t.parent? n = some x → n ∈ t.children x
  children : ∀ p, ∀ y ∈ t.children x, y ∈ t.children p → p = x

theorem ownText_congr (h : t'.kind? id = t.kind? id) : t'.ownText id = t.ownText id := by
  rw [ownText, ownText, h]

/-- The text of such an element is what its texts are together. -/
theorem HasText.text_eq (h : t.HasText x e s) : t.text x = s := by
  have hx : 0 < t.nodes.size := Nat.zero_lt_of_lt (lt_size_of_kind? h.kind)
  obtain ⟨⟨_, parent, ids⟩, hnode, rfl⟩ := Option.map_eq_some_iff.mp h.kind
  have hids : t.children x = ids := by simp [Tree.children, hnode]
  obtain ⟨depth, hdepth⟩ : ∃ depth, t.nodes.size = depth + 1 := ⟨t.nodes.size - 1, by omega⟩
  have hroot : t.text x = ids.reverse.flatMap (t.textTo depth) := by
    simp [Tree.text, hdepth, textTo, hnode]
  rw [hroot, ← h.text, hids]
  refine List.flatMap_congr fun y hy => ?_
  rw [← hids] at hy
  obtain ⟨content, hcontent⟩ := isText_iff.mp (h.texts y (List.mem_reverse.mp hy))
  -- `x` and `y` are two nodes, so that the depth reaches down to the texts
  have hne : y ≠ x := by
    rintro rfl
    rw [h.kind] at hcontent
    cases hcontent
  have hsize : 1 < t.nodes.size := by
    rcases Nat.lt_or_gt_of_ne hne with hlt | hlt
    · exact Nat.lt_of_le_of_lt (Nat.one_le_of_lt hlt) (lt_size_of_kind? h.kind)
    · exact Nat.lt_of_le_of_lt (Nat.one_le_of_lt hlt) (lt_size_of_kind? hcontent)
  obtain ⟨depth, rfl⟩ : ∃ depth', depth = depth' + 1 := ⟨depth - 1, by omega⟩
  obtain ⟨⟨_, _, _⟩, hy, rfl⟩ := Option.map_eq_some_iff.mp hcontent
  simp [ownText, hcontent, textTo, hy]

/-- What is said of an element with its texts depends on these nodes and on the links to them. -/
theorem HasText.congr (h : t.HasText x e s) (hx : t'.kind? x = t.kind? x)
    (hchildren : t'.children x = t.children x)
    (hkind : ∀ y ∈ t.children x, t'.kind? y = t.kind? y)
    (hparent : ∀ n, t'.parent? n = some x → t.parent? n = some x)
    (hchild : ∀ p, ∀ y ∈ t.children x, y ∈ t'.children p → y ∈ t.children p) :
    t'.HasText x e s where
  kind := hx.trans h.kind
  texts := by
    intro y hy
    rw [hchildren] at hy
    rw [isText_iff, hkind y hy, ← isText_iff]
    exact h.texts y hy
  nodup := hchildren.symm ▸ h.nodup
  text := by
    rw [hchildren, ← h.text]
    exact List.flatMap_congr fun y hy => ownText_congr (hkind y (List.mem_reverse.mp hy))
  parents := by
    intro n hn
    rw [hchildren]
    exact h.parents n (hparent n hn)
  children := by
    intro p y hy hp
    rw [hchildren] at hy
    exact h.children p y hy (hchild p y hy hp)

theorem HasText.moves (h : t.HasText x e s) (hmoves : t.Moves c below t')
    (hc : c ∉ t.children x) (hbelow : below ≠ some x) :
    t'.HasText x e s ∧ t'.children x = t.children x := by
  have hchildren := hmoves.rest hbelow hc
  refine ⟨h.congr (hmoves.kind x) hchildren (fun y _ => hmoves.kind y) (fun n hn => ?_)
    fun p y hy hp => ?_, hchildren⟩
  · exact (hmoves.parent hn).resolve_right fun h => hbelow h.2
  · refine (hmoves.child hp).resolve_right fun heq => hc ?_
    exact heq.1 ▸ hy

/-- A change by one who holds neither an element nor the texts in it leaves it as it is. -/
theorem HasText.change (h : t.HasText x e s) (hchange : Change L mine t t') (hx : ¬mine x)
    (hchildren : ∀ y ∈ t.children x, ¬mine y) :
    t'.HasText x e s ∧ t'.children x = t.children x := by
  have hreaches {p : NodeId} (hp : t.Reaches mine p) : p ≠ x := by
    rintro rfl
    rcases hp with hp | ⟨s, hs, hparent⟩
    · exact hx hp
    · exact hchildren s (h.parents s hparent) hs
  have hlt {y : NodeId} (hy : y ∈ t.children x) : y < t.nodes.size := by
    obtain ⟨content, hcontent⟩ := isText_iff.mp (h.texts y hy)
    exact lt_size_of_kind? hcontent
  cases hchange with
  | made =>
      refine ⟨h.congr (kind?_add_of_lt _ (lt_size_of_kind? h.kind)) (children_add _ _ _)
        (fun y hy => kind?_add_of_lt _ (hlt hy)) (fun n hn => ?_) fun p y _ hp => ?_,
        children_add _ _ _⟩
      · simpa using hn
      · simpa using hp
  | moved hc _ hbelow hmoves =>
      exact h.moves hmoves (fun hmem => hchildren _ hmem hc)
        fun heq => hreaches (hbelow x heq).1 rfl
  | @movedChildren a p ha hp _ =>
      refine moveChildren_induction
        (I := fun t' => t'.HasText x e s ∧ t'.children x = t.children x) ⟨h, rfl⟩ ?_
      rintro t₁ c hc ⟨h₁, hsame⟩
      have hcx : c ∉ t₁.children x := by
        rw [hsame]
        intro hmem
        exact hx (h.children a c hmem hc ▸ ha)
      obtain ⟨h₂, hsame₂⟩ := h₁.moves (moves_append t₁ p c) hcx fun heq => by
        cases heq
        exact hx hp
      exact ⟨h₂, hsame₂.trans hsame⟩
  | @wrote i p ch hp hi htext =>
      have hix : i ∉ t.children x := fun hmem => hreaches hp (h.children p i hmem hi)
      have hne : i ≠ x := by
        rintro rfl
        obtain ⟨content, hcontent⟩ := isText_iff.mp htext
        rw [h.kind] at hcontent
        cases hcontent
      refine ⟨h.congr (kind?_extendText_of_ne _ _ hne) (children_extendText _ _ _ _)
        (fun y hy => kind?_extendText_of_ne _ _ fun heq => hix (heq ▸ hy)) (fun n hn => ?_)
        fun p y _ hp => ?_, children_extendText _ _ _ _⟩
      · simpa using hn
      · simpa using hp
  | @extended id attributes hid _ =>
      refine ⟨h.congr (kind?_addMissing_of_ne _ _ fun heq => hx (heq ▸ hid))
        (children_addMissing _ _ _ _)
        (fun y hy => kind?_addMissing_of_ne _ _ fun heq => hchildren y hy (heq ▸ hid))
        (fun n hn => ?_) fun p y _ hp => ?_, children_addMissing _ _ _ _⟩
      · simpa using hn
      · simpa using hp

theorem HasText.changes (h : t.HasText x e s) (hchanges : Changes L mine t t') (hx : ¬mine x)
    (hchildren : ∀ y ∈ t.children x, ¬mine y) :
    t'.HasText x e s ∧ t'.children x = t.children x := by
  induction hchanges with
  | refl => exact ⟨h, rfl⟩
  | tail _ hchange ih =>
      obtain ⟨h', hsame⟩ := ih
      obtain ⟨h'', hsame'⟩ := h'.change hchange hx fun y hy => hchildren y (hsame ▸ hy)
      exact ⟨h'', hsame'.trans hsame⟩

/-! ### Writing a text -/

theorem detach_of_parent?_eq_none (h : t.parent? c = none) : t.detach c = t := by
  rw [detach, h]

/-- A node that is in no place becomes the newest child. -/
theorem children_append (hc : t.parent? c = none) (hp : p < t.nodes.size) :
    (t.append p c).children p = c :: t.children p := by
  rw [append, detach_of_parent?_eq_none hc]
  rw [children_update (f := fun n => { n with parent := some p }) fun _ => rfl]
  simp only [children, getElem?_update, if_true, Array.getElem?_eq_getElem hp, Option.map_some,
    Option.getD_some]

theorem parent?_of_le (h : t.nodes.size ≤ id) : t.parent? id = none := by
  simp [parent?, Array.getElem?_eq_none h]

theorem element?_add_text (t : Tree) (content : String) (id : NodeId) :
    (t.add (.text content)).2.element? id = t.element? id := by
  by_cases hid : id = t.nodes.size
  · refine Option.ext fun e => ?_
    rw [element?_eq_some_iff, element?_eq_some_iff, kind?_add, if_pos hid,
      kind?_of_le (Nat.le_of_eq hid.symm)]
    simp
  · exact element?_congr (by rw [kind?_add, if_neg hid])

theorem element?_appendChar (t : Tree) (p : NodeId) (ch : Char) (id : NodeId) :
    (t.appendChar p ch).element? id = t.element? id := by
  have hnew : ((t.add (.text (String.singleton ch))).2.append p t.nodes.size).element? id =
      t.element? id :=
    (element?_congr ((moves_append _ _ _).kind id)).trans (element?_add_text _ _ _)
  unfold appendChar
  split
  · split
    · exact element?_extendText _ _ _ _
    · exact hnew
  · exact hnew

/-- The first character of an element without content. -/
theorem HasText.appendFirst (h : t.HasText x e s) (ht : t.Bounded) (hnone : t.children x = [])
    (ch : Char) :
    let t' := (t.add (.text (String.singleton ch))).2.append x t.nodes.size
    t'.HasText x e (s ++ [ch]) ∧ t'.children x = [t.nodes.size] := by
  have hx := lt_size_of_kind? h.kind
  have hs : s = [] := by
    rw [← h.text, hnone]
    rfl
  have hmoves := moves_append (t.add (.text (String.singleton ch))).2 x t.nodes.size
  have hchildren : ((t.add (.text (String.singleton ch))).2.append x t.nodes.size).children x =
      [t.nodes.size] := by
    rw [children_append, children_add, hnone]
    · rw [parent?_add, parent?_of_le (Nat.le_refl _)]
    · rw [size_add]
      exact Nat.lt_succ_of_lt hx
  have hkind : ((t.add (.text (String.singleton ch))).2.append x t.nodes.size).kind?
      t.nodes.size = some (.text (String.singleton ch)) := by
    rw [hmoves.kind, kind?_add, if_pos rfl]
  refine ⟨⟨?_, ?_, ?_, ?_, ?_, ?_⟩, hchildren⟩
  · rw [hmoves.kind, kind?_add_of_lt _ hx, h.kind]
  · intro y hy
    rw [hchildren, List.mem_singleton] at hy
    subst hy
    exact isText_iff.mpr ⟨_, hkind⟩
  · rw [hchildren]
    simp
  · rw [hchildren, hs]
    simp [ownText, hkind]
  · intro n hn
    rw [hchildren, List.mem_singleton]
    rcases hmoves.parent hn with hold | hnew
    · rw [parent?_add] at hold
      have := h.parents n hold
      rw [hnone] at this
      cases this
    · exact hnew.1
  · intro p y hy hp
    rw [hchildren, List.mem_singleton] at hy
    subst hy
    rcases hmoves.child hp with hold | hnew
    · rw [children_add] at hold
      exact absurd (ht.child hold) (Nat.lt_irrefl _)
    · exact (Option.some.inj hnew.2).symm

/-- A further character of an element with text. -/
theorem HasText.extendLast (h : t.HasText x e s) {last : NodeId} {rest : List NodeId}
    (hlast : t.children x = last :: rest) (ch : Char) :
    (t.extendText last ch).HasText x e (s ++ [ch]) := by
  have hmem : last ∈ t.children x := hlast ▸ List.mem_cons_self
  obtain ⟨content, hcontent⟩ := isText_iff.mp (h.texts last hmem)
  have hne : last ≠ x := by
    rintro rfl
    rw [h.kind] at hcontent
    cases hcontent
  have hkind := kind?_extendText ch hcontent
  have hrest : last ∉ rest := (List.nodup_cons.mp (hlast ▸ h.nodup)).1
  refine ⟨?_, ?_, ?_, ?_, ?_, ?_⟩
  · rw [kind?_extendText_of_ne _ _ hne, h.kind]
  · intro y hy
    rw [children_extendText] at hy
    by_cases heq : last = y
    · subst heq
      exact isText_iff.mpr ⟨_, hkind⟩
    · rw [isText_iff, kind?_extendText_of_ne _ _ heq, ← isText_iff]
      exact h.texts y hy
  · rw [children_extendText]
    exact h.nodup
  · have hsame : rest.reverse.flatMap (t.extendText last ch).ownText =
        rest.reverse.flatMap t.ownText := by
      refine List.flatMap_congr fun y hy => ownText_congr (kind?_extendText_of_ne _ _ ?_)
      rintro rfl
      exact hrest (List.mem_reverse.mp hy)
    have hown : (t.extendText last ch).ownText last = t.ownText last ++ [ch] := by
      simp [ownText, hkind, hcontent]
    rw [children_extendText, ← h.text, hlast, List.reverse_cons, List.flatMap_append,
      List.flatMap_append, hsame, List.flatMap_singleton, List.flatMap_singleton, hown,
      List.append_assoc]
  · intro n hn
    rw [parent?_extendText] at hn
    rw [children_extendText]
    exact h.parents n hn
  · intro p y hy hp
    rw [children_extendText] at hy hp
    exact h.children p y hy hp

/-- An element with nothing but text stays so when a character is written at its end. -/
theorem HasText.appendChar (h : t.HasText x e s) (ht : t.Bounded) (ch : Char) :
    (t.appendChar x ch).HasText x e (s ++ [ch]) ∧
      ∀ y ∈ (t.appendChar x ch).children x, y ∈ t.children x ∨ y = t.nodes.size := by
  cases hchildren : t.children x with
  | nil =>
      obtain ⟨htext, hnew⟩ := h.appendFirst ht hchildren ch
      have heq : t.appendChar x ch =
          (t.add (.text (String.singleton ch))).2.append x t.nodes.size := by
        simp [Tree.appendChar, hchildren, add]
      rw [heq]
      exact ⟨htext, fun y hy => .inr (List.mem_singleton.mp (hnew ▸ hy))⟩
  | cons last rest =>
      have htext := h.extendLast hchildren ch
      have heq : t.appendChar x ch = t.extendText last ch := by
        simp [Tree.appendChar, hchildren, h.texts last (hchildren ▸ List.mem_cons_self)]
      rw [heq]
      refine ⟨htext, fun y hy => .inl ?_⟩
      rwa [children_extendText, hchildren] at hy

end Tree

end LinkPreview.Html
