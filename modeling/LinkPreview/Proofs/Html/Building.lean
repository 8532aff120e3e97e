import LinkPreview.Html.Document
import LinkPreview.Proofs.Html.Change

/-!
# What a builder keeps to

A builder holds the open elements, the head and the document. From there on it changes only these
nodes and those that it makes later, and makes only elements of a certain kind, if the tags of the
page are such. `Works` says so of two states of a builder, and `Keeps` of a step.

## Implementation notes

`Keeps` is a class, with an instance for each step and for what steps are composed of. So that a
composed step keeps to its own is found by the search for an instance, and a proof only says what
this search cannot: which tags are read, and what is done to a node that is not the current one.
-/

namespace LinkPreview.Html

/-! ## Elements that are made -/

/-- The names of elements that are made where their tag is missing. -/
def impliedNames : List String :=
  ["html", "head", "body", "colgroup", "tbody", "tr", "p", "br"]

/-- The names of formatting elements, which are made again without a tag. -/
def formattingNames : List String :=
  "a" :: "nobr" :: Build.formattingElements

/-- What is allowed in building a tree. -/
structure Allowance where
  /-- The elements that there may be. -/
  present : Element → Prop
  /-- The elements that may still be made. -/
  made : Element → Prop
  /-- Whether a line feed that comes next may be dropped. -/
  dropping : Prop

/-- Whether what is allowed includes what is done without a tag. -/
class Admits (A : Allowance) : Prop where
  present : ∀ {e}, A.made e → A.present e
  extended : ∀ {e e'}, e.Extends e' → A.present e → A.present e'
  implied : ∀ {name}, name ∈ impliedNames → A.made ⟨.html, name, []⟩
  formatting : ∀ {name}, name ∈ formattingNames → ∀ attributes, A.made ⟨.html, name, attributes⟩

/-- Whether what is allowed includes all that a start tag stands for. In a drawing or a formula it
stands for an element of the same vocabulary. -/
class AdmitsTag (A : Allowance) (tag : Tag) : Prop where
  element : A.made ⟨.html, tag.name, tag.attributes⟩
  image : tag.name = "image" → A.made ⟨.html, "img", tag.attributes⟩
  drawing : tag.name = "svg" → A.made ⟨.svg, tag.name, tag.attributes⟩
  formula : tag.name = "math" → A.made ⟨.mathml, tag.name, tag.attributes⟩
  foreign : ∀ {e}, A.present e → e.vocabulary ≠ .html →
    ∀ name ∈ [tag.name, Build.drawingName tag.name],
      A.made ⟨e.vocabulary, name, tag.attributes⟩
  dropping : tag.name ∈ ["pre", "listing", "textarea"] → A.dropping

/-- Whether what is allowed includes all that a token stands for. -/
class AdmitsToken (A : Allowance) (token : Token) : Prop where
  tag : ∀ {tag}, token = .startTag tag → AdmitsTag A tag

instance {A : Allowance} {tag : Tag} [h : AdmitsToken A (.startTag tag)] : AdmitsTag A tag :=
  h.tag rfl

instance {A : Allowance} (c : Char) : AdmitsToken A (.char c) where
  tag := fun h => by cases h

instance {A : Allowance} (name : String) : AdmitsToken A (.endTag name) where
  tag := fun h => by cases h

instance {A : Allowance} : AdmitsToken A .eof where
  tag := fun h => by cases h

/-- Elements of which `P` holds, and no others. -/
def Allowance.only (P : Element → Prop) (dropping : Prop) : Allowance where
  present := P
  made := P
  dropping := dropping

theorem admits_only {P : Element → Prop} {dropping : Prop}
    (hextended : ∀ {e e'}, e.Extends e' → P e → P e')
    (himplied : ∀ {name}, name ∈ impliedNames → P ⟨.html, name, []⟩)
    (hformatting : ∀ {name}, name ∈ formattingNames → ∀ attributes, P ⟨.html, name, attributes⟩) :
    Admits (.only P dropping) where
  present := fun h => h
  extended := hextended
  implied := himplied
  formatting := hformatting

variable {A : Allowance} {b b' b'' : Builder} {t : Tree} {id : NodeId} {e : Element}

/-! ## Nodes that are held -/

/-- Whether a node is none that is never held: it is there, and no element named `meta`. -/
def Tree.IsHoldable (t : Tree) (id : NodeId) : Prop :=
  id < t.nodes.size ∧ ∀ e, t.element? id = some e → e.name ≠ "meta"

theorem Tree.IsHoldable.change {mine : NodeId → Prop} {t' : Tree} (h : t.IsHoldable id)
    (hchange : Tree.Change A.made mine t t') : t'.IsHoldable id := by
  refine ⟨Nat.lt_of_lt_of_le h.1 hchange.size_le, fun e' he' => ?_⟩
  rcases hchange.element?_cases id with heq | ⟨e₁, e₂, he₁, he₂, hext⟩ | ⟨-, hle, -⟩
  · exact h.2 e' (heq ▸ he')
  · obtain rfl := Option.some.inj (he₂.symm.trans he')
    rw [hext.name_eq]
    exact h.2 e₁ he₁
  · exact absurd h.1 (Nat.not_lt.mpr hle)

namespace Builder

/-- Whether a node is one that the builder holds. -/
def Holds (b : Builder) (id : NodeId) : Prop :=
  id ∈ b.openElements ∨ b.head = some id ∨ id = Tree.root

/-- Whether a node is one that the builder may change from now on: it is held, or not yet made. -/
def Mine (b : Builder) (id : NodeId) : Prop :=
  b.Holds id ∨ b.tree.nodes.size ≤ id

theorem Holds.of_open (h : id ∈ b.openElements) : b.Holds id := .inl h

theorem holds_root (b : Builder) : b.Holds Tree.root := .inr (.inr rfl)

/-- What holds of every state of a builder that makes only elements that it may make. -/
structure Sound (A : Allowance) (b : Builder) : Prop where
  bounded : b.tree.Bounded
  elements : ∀ {id e}, b.tree.element? id = some e → A.present e
  held : ∀ {id}, b.Holds id → b.tree.IsHoldable id
  formatting : ∀ {id tag}, Formatting.element id tag ∈ b.formatting → tag.name ∈ formattingNames

theorem Sound.lt (h : b.Sound A) (hid : b.Holds id) : id < b.tree.nodes.size :=
  (h.held hid).1

/-- The document that a builder starts with. -/
theorem sound_start (A : Allowance) : Sound A {} where
  bounded := by
    refine ⟨fun {id p} h => ?_, fun {id p} h => ?_⟩
    · cases id with
      | zero => cases h
      | succ id => simp [Tree.parent?, Tree.empty] at h
    · cases p with
      | zero => cases h
      | succ p => simp [Tree.children, Tree.empty] at h
  elements := by
    intro id e h
    cases id with
    | zero => cases h
    | succ id => simp [Tree.element?, Tree.empty] at h
  held := by
    rintro id (h | h | rfl)
    · cases h
    · cases h
    · exact ⟨Nat.one_pos, fun e h => by cases h⟩
  formatting := fun h => by cases h

/-! ## Work -/

/-- Whether a builder comes from the state `b` to `b'` by changing only what is its own, and making
only elements that may be made. -/
structure Works (A : Allowance) (b b' : Builder) : Prop where
  tree : Tree.Changes A.made b.Mine b.tree b'.tree
  held : ∀ {id}, b'.Holds id → b.Mine id
  sound : b'.Sound A
  newline : b'.skipNewline = true → b.skipNewline = true ∨ A.dropping

theorem Works.refl (h : b.Sound A) : Works A b b :=
  ⟨.refl, .inl, h, .inl⟩

theorem Works.size_le (h : Works A b b') : b.tree.nodes.size ≤ b'.tree.nodes.size :=
  h.tree.size_le

theorem Works.mine (h : Works A b b') (hid : b'.Mine id) : b.Mine id :=
  hid.elim h.held fun hle => .inr (Nat.le_trans h.size_le hle)

theorem Works.trans (h : Works A b b') (h' : Works A b' b'') : Works A b b'' where
  tree := h.tree.trans (h'.tree.mono (fun _ he => he) fun _ => h.mine)
  held := fun hid => h.mine (h'.held hid)
  sound := h'.sound
  newline := fun hnewline => (h'.newline hnewline).elim h.newline .inr

/-- A change of what is the builder's own. -/
theorem Works.change [hA : Admits A] (h : Works A b b') {t : Tree}
    (hchange : Tree.Change A.made b.Mine b'.tree t) : Works A b { b' with tree := t } where
  tree := h.tree.tail hchange
  held := h.held
  newline := h.newline
  sound := by
    refine ⟨h.sound.bounded.change hchange, fun {id e} he => ?_,
      fun hid => (h.sound.held hid).change hchange, h.sound.formatting⟩
    rcases hchange.element?_cases id with heq | ⟨e₁, e₂, he₁, he₂, hext⟩ | ⟨-, -, e', he', hmade⟩
    · exact h.sound.elements (heq ▸ he)
    · obtain rfl := Option.some.inj (he₂.symm.trans he)
      exact hA.extended hext (h.sound.elements he₁)
    · exact hA.present (Option.some.inj (he'.symm.trans he) ▸ hmade)

/-- What is held, and what the formatting elements are, may change besides the tree. -/
theorem Works.adjust (h : Works A b b') (htree : b''.tree = b'.tree)
    (hheld : ∀ {id}, b''.Holds id → b'.Holds id ∨ b.Mine id ∧ b'.tree.IsHoldable id)
    (hformatting : ∀ {id tag}, Formatting.element id tag ∈ b''.formatting →
      (∃ id', .element id' tag ∈ b'.formatting) ∨ tag.name ∈ formattingNames)
    (hnewline : b''.skipNewline = true → b'.skipNewline = true ∨ A.dropping) :
    Works A b b'' where
  tree := htree ▸ h.tree
  held := fun hid => (hheld hid).elim h.held And.left
  newline := fun h' => (hnewline h').elim h.newline .inr
  sound := by
    refine ⟨htree ▸ h.sound.bounded, fun he => h.sound.elements (htree ▸ he), fun hid => ?_,
      fun hentry => ?_⟩
    · rw [htree]
      exact (hheld hid).elim h.sound.held And.right
    · rcases hformatting hentry with ⟨id', hold⟩ | hname
      · exact h.sound.formatting hold
      · exact hname

/-- Elements may be closed, and all that is neither an element nor a text may change. -/
theorem Works.keep (h : Works A b b') (htree : b''.tree = b'.tree)
    (hopen : ∀ id ∈ b''.openElements, id ∈ b'.openElements) (hhead : b''.head = b'.head)
    (hformatting : ∀ entry ∈ b''.formatting, entry ∈ b'.formatting)
    (hnewline : b''.skipNewline = true → b'.skipNewline = true ∨ A.dropping) : Works A b b'' :=
  h.adjust htree (fun hid => .inl (hid.imp (hopen _) (Or.imp_left (hhead ▸ ·))))
    (fun hentry => .inl ⟨_, hformatting _ hentry⟩) hnewline

/-- One more node may be opened. -/
theorem Works.open (h : Works A b b') (hid : b.Mine id) (hok : b'.tree.IsHoldable id) :
    Works A b { b' with openElements := id :: b'.openElements } := by
  refine h.adjust rfl (fun {i} hi => ?_) (fun hentry => .inl ⟨_, hentry⟩) .inl
  rcases hi with hi | hi
  · rcases List.mem_cons.mp hi with rfl | hi
    · exact .inr ⟨hid, hok⟩
    · exact .inl (.inl hi)
  · exact .inl (.inr hi)

end Builder

/-! ## Steps -/

namespace Build

variable {α β : Type} {m : Build α} {f : α → Build β}

@[simp] theorem bind_apply (m : Build α) (f : α → Build β) (b : Builder) :
    (m >>= f) b = f (m b).1 (m b).2 :=
  rfl

@[simp] theorem pure_apply (a : α) (b : Builder) : (pure a : Build α) b = (a, b) :=
  rfl

@[simp] theorem get_bind_apply (f : Builder → Build β) (b : Builder) :
    (get >>= f : Build β) b = f b b :=
  rfl

@[simp] theorem get_apply (b : Builder) : (get : Build Builder) b = (b, b) :=
  rfl

@[simp] theorem set_apply (b b' : Builder) : (set b' : Build PUnit) b = (⟨⟩, b') :=
  rfl

@[simp] theorem modify_apply (f : Builder → Builder) (b : Builder) :
    (modify f : Build PUnit) b = (⟨⟩, f b) :=
  rfl

@[simp] theorem ite_apply {c : Prop} [Decidable c] (m m' : Build α) (b : Builder) :
    (if c then m else m') b = if c then m b else m' b := by
  split <;> rfl

/-- Whether a step changes only what is the builder's own, and makes only elements that
may be made. -/
class Keeps (A : Allowance) (m : Build α) : Prop where
  works_of_sound : ∀ b : Builder, b.Sound A → b.Works A (m b).2

theorem Keeps.works (h : Keeps A m) (hb : b.Works A b') : b.Works A (m b').2 :=
  hb.trans (h.works_of_sound b' hb.sound)

instance keeps_bind [hm : Keeps A m] [hf : ∀ a, Keeps A (f a)] : Keeps A (m >>= f) where
  works_of_sound := fun _ hb => (hf _).works (hm.works (.refl hb))

theorem Keeps.bind (hm : Keeps A m) (hf : ∀ a, Keeps A (f a)) : Keeps A (m >>= f) :=
  keeps_bind

instance keeps_pure (a : α) : Keeps A (pure a : Build α) where
  works_of_sound := fun _ hb => .refl hb

instance keeps_ite {c : Prop} [Decidable c] {m' : Build α} [h : Keeps A m] [h' : Keeps A m'] :
    Keeps A (if c then m else m') := by
  split
  · exact h
  · exact h'

/-- A step that only looks at the state. -/
theorem keeps_of_reads (h : ∀ b, (m b).2 = b) : Keeps A m where
  works_of_sound := by
    intro b hb
    rw [h]
    exact .refl hb

instance keeps_get : Keeps A (get : Build Builder) :=
  keeps_of_reads fun _ => rfl

/-- A step that goes on by the state in which it is. -/
theorem keeps_of_get {f : Builder → Build α}
    (h : ∀ b : Builder, b.Sound A → b.Works A (f b b).2) : Keeps A (get >>= f) where
  works_of_sound := h

/-- A step that closes elements at most, or changes neither elements nor texts. -/
theorem keeps_modify {f : Builder → Builder} (htree : ∀ b, (f b).tree = b.tree)
    (hopen : ∀ b, ∀ id ∈ (f b).openElements, id ∈ b.openElements)
    (hhead : ∀ b, (f b).head = b.head)
    (hformatting : ∀ b, ∀ entry ∈ (f b).formatting, entry ∈ b.formatting)
    (hnewline : ∀ b, (f b).skipNewline = true → b.skipNewline = true ∨ A.dropping) :
    Keeps A (modify f : Build PUnit) where
  works_of_sound := fun b hb =>
    (Builder.Works.refl hb).keep (htree b) (hopen b) (hhead b) (hformatting b) (hnewline b)

/-- Whether a step that was taken since the state `b` leads to a value and a state of which `P`
holds. -/
def Leads (A : Allowance) (b : Builder) (r : α × Builder) (P : α → Builder → Prop) : Prop :=
  b.Works A r.2 ∧ P r.1 r.2

theorem Leads.bind {P : α → Builder → Prop} {Q : β → Builder → Prop} (hm : Leads A b (m b') P)
    (hf : ∀ a b'', b.Works A b'' → P a b'' → Leads A b (f a b'') Q) :
    Leads A b ((m >>= f) b') Q :=
  hf _ _ hm.1 hm.2

end Build

end LinkPreview.Html
