import LinkPreview.Proofs.Html.Inserting

/-!
# Opening formatting elements again

The list of formatting elements holds tags of formatting elements alone. So what is opened again
from it, or cloned to sort out an end tag that comes too early, is a formatting element too. An end
tag moves nodes that are open, and clones that it makes.
-/

namespace LinkPreview.Html.Build

open Builder

variable {A : Allowance} {b b' : Builder} {id last block ancestor : NodeId} {tag : Tag}

theorem ne_meta_of_mem_formattingNames {name : String} (h : name ∈ formattingNames) :
    name ≠ "meta" := by
  rintro rfl
  exact absurd h (by decide)

/-! ## The list -/

/-- A change of the list that leaves the tags in it, or puts tags of formatting elements there. -/
theorem works_onFormatting (h : b.Works A b') {f : List Formatting → List Formatting}
    (hf : ∀ {id tag}, Formatting.element id tag ∈ f b'.formatting →
      (∃ id', .element id' tag ∈ b'.formatting) ∨ tag.name ∈ formattingNames) :
    b.Works A (onFormatting f b').2 :=
  h.adjust rfl .inl hf .inl

theorem keeps_onFormatting {f : List Formatting → List Formatting}
    (hf : ∀ {entries id tag}, Formatting.element id tag ∈ f entries →
      (∃ id', .element id' tag ∈ entries) ∨ tag.name ∈ formattingNames) :
    Keeps A (onFormatting f) where
  works_of_sound := fun _ hb => works_onFormatting (.refl hb) hf

instance keeps_dropFormatting (id : NodeId) : Keeps A (dropFormatting id) :=
  keeps_onFormatting fun hentry => .inl ⟨_, (List.mem_filter.mp hentry).1⟩

instance keeps_mark : Keeps A mark :=
  keeps_onFormatting fun hentry => .inl ⟨_, (List.mem_cons.mp hentry).resolve_left (by simp)⟩

instance keeps_unmark : Keeps A unmark :=
  keeps_onFormatting fun hentry =>
    .inl ⟨_, (List.dropWhile_suffix _).subset (List.mem_of_mem_drop hentry)⟩

theorem mem_of_mem_unmarked {entries : List Formatting} (h : (id, tag) ∈ unmarked entries) :
    .element id tag ∈ entries := by
  fun_induction unmarked entries with
  | case1 id' tag' rest ih =>
      rcases List.mem_cons.mp h with heq | hmem
      · cases heq
        exact List.mem_cons_self
      · exact .tail _ (ih hmem)
  | case2 => cases h

theorem Sound.name_of_mem_unmarked (hb : b.Sound A) (h : (id, tag) ∈ unmarked b.formatting) :
    tag.name ∈ formattingNames :=
  hb.formatting (mem_of_mem_unmarked h)

/-! ## Opening -/

theorem keeps_insertFormatting [hA : Admits A] (hname : tag.name ∈ formattingNames) :
    Keeps A (insert .html tag) :=
  keeps_insert (hA.formatting hname _) (ne_meta_of_mem_formattingNames hname)

theorem keeps_openFormatting [Admits A] (hname : tag.name ∈ formattingNames) :
    Keeps A (openFormatting tag) := by
  have hinsert := keeps_insertFormatting (A := A) hname
  have hentry (id : NodeId) : Keeps A (onFormatting (.element id tag :: ·)) := by
    refine keeps_onFormatting fun hentry => ?_
    rcases List.mem_cons.mp hentry with heq | hold
    · cases heq
      exact .inr hname
    · exact .inl ⟨_, hold⟩
  refine keeps_get.bind fun b => ?_
  dsimp only
  split
  · split <;> infer_instance
  · infer_instance

/-- What is opened again has the tags of the entries. -/
theorem works_reopen [Admits A] (entries : List (NodeId × Tag))
    (hnames : ∀ entry ∈ entries, entry.2.name ∈ formattingNames) (h : b.Works A b') :
    b.Works A (reopen entries b').2 ∧
      ∀ {id tag}, Formatting.element id tag ∈ (reopen entries b').1 →
        tag.name ∈ formattingNames := by
  induction entries with
  | nil => exact ⟨h, fun hentry => by cases hentry⟩
  | cons entry older ih =>
      obtain ⟨hwork, holder⟩ := ih fun entry hentry => hnames entry (.tail _ hentry)
      have hname := hnames entry List.mem_cons_self
      refine ⟨(keeps_insertFormatting hname).works hwork, fun hentry => ?_⟩
      rcases List.mem_cons.mp hentry with heq | hold
      · cases heq
        exact hname
      · exact holder hold

theorem works_reconstruct [Admits A] (hb : b.Sound A) : b.Works A (reconstruct b).2 := by
  simp only [reconstruct, bind_apply]
  have hnames (p : NodeId × Tag → Bool) :
      ∀ entry ∈ (unmarked b.formatting).takeWhile p, entry.2.name ∈ formattingNames :=
    fun _ hentry => Sound.name_of_mem_unmarked hb ((List.takeWhile_prefix _).subset hentry)
  obtain ⟨hwork, hopened⟩ := works_reopen _ (hnames _) (.refl hb)
  refine works_onFormatting hwork fun hentry => ?_
  rcases List.mem_append.mp hentry with hnew | hold
  · exact .inr (hopened hnew)
  · exact .inl ⟨_, List.mem_of_mem_drop hold⟩

instance keeps_reconstruct [Admits A] : Keeps A reconstruct where
  works_of_sound := fun _ => works_reconstruct

/-! ## Closing -/

instance keeps_closeOrdinary (name : String) : Keeps A (closeOrdinary name) :=
  keeps_bind

/-- An open element may give way to another node, or get one beside it. -/
theorem works_reopenAs (h : b.Works A b') {clone : NodeId} (hclone : b.Mine clone)
    (hok : b'.tree.IsHoldable clone) {f : List NodeId → List NodeId}
    (hf : ∀ ids, ∀ id ∈ f ids, id ∈ ids ∨ id = clone) :
    b.Works A { b' with openElements := f b'.openElements } := by
  refine h.adjust rfl (fun {i} hi => ?_) (fun hentry => .inl ⟨_, hentry⟩) .inl
  rcases hi with hi | hi
  · rcases hf _ i hi with hold | rfl
    · exact .inl (.inl hold)
    · exact .inr ⟨hclone, hok⟩
  · exact .inl (.inr hi)

theorem leads_create [hA : Admits A] (h : b.Works A b') (hname : tag.name ∈ formattingNames) :
    Leads A b (create ⟨.html, tag.name, tag.attributes⟩ b') fun id b'' =>
      b.Mine id ∧ b''.tree.IsHoldable id ∧ b'.tree.nodes.size ≤ b''.tree.nodes.size := by
  refine ⟨works_create h (hA.formatting hname _), h.mine_of_le (Nat.le_refl _),
    isHoldable_create b' (ne_meta_of_mem_formattingNames hname), ?_⟩
  simp

/-- Cloning what is between hangs the node into the clones, of which the outermost is given. -/
theorem leads_cloneBetween [Admits A] (ids : List NodeId) (seen : Nat) (bookmark : Bookmark)
    (h : b.Works A b') (hlast : b.Mine last) (hlt : last < b'.tree.nodes.size) :
    Leads A b (cloneBetween ids seen last bookmark b') fun outer b'' =>
      b.Mine outer.1 ∧ outer.1 < b''.tree.nodes.size := by
  induction ids generalizing b' seen last bookmark with
  | nil => exact ⟨h, hlast, hlt⟩
  | cons id rest ih =>
      simp only [cloneBetween, get_bind_apply]
      generalize hentry : List.findSome? _ b'.formatting = entry
      cases entry with
      | none => exact ih _ _ ((keeps_removeOpen id).works h) hlast hlt
      | some tag =>
          have hname : tag.name ∈ formattingNames := by
            obtain ⟨entry, hmem, hfound⟩ := List.exists_of_findSome?_eq_some hentry
            cases entry with
            | marker => cases hfound
            | element id' tag' =>
                simp only at hfound
                split at hfound
                · cases hfound
                  exact h.sound.formatting hmem
                · cases hfound
          simp only [ite_apply]
          split
          · refine (leads_create h hname).bind fun clone b₁ h₁ ⟨hclone, hok, hsize⟩ => ?_
            refine Leads.bind (P := fun _ b₂ => b₂.tree = b₁.tree) ⟨works_reopenAs h₁ hclone hok
              fun ids i hi => ?_, rfl⟩ fun _ b₂ h₂ htree₂ => ?_
            · obtain ⟨id', hid', rfl⟩ := List.mem_map.mp hi
              split
              · exact .inr rfl
              · exact .inl hid'
            refine Leads.bind (P := fun _ b₃ => b₃.tree = b₂.tree) ⟨works_onFormatting h₂
              fun hnew => ?_, rfl⟩ fun _ b₃ h₃ htree₃ => ?_
            · obtain ⟨entry, hmem, heq⟩ := List.mem_map.mp hnew
              split at heq
              · cases heq
                exact .inr hname
              · exact .inl ⟨_, heq ▸ hmem⟩
            rw [← htree₂, ← htree₃] at hsize hok
            refine Leads.bind (P := fun _ b₄ => clone < b₄.tree.nodes.size) ⟨h₃.change
              (.of_append hlast (Nat.lt_of_lt_of_le hlt hsize) (.inl hclone) hok.1), ?_⟩
              fun _ b₄ h₄ hlt₄ => ih _ _ h₄ hclone hlt₄
            exact Nat.lt_of_lt_of_eq hok.1 (Tree.moves_append b₃.tree clone last).size.symm
          · exact ih _ _ ((keeps_removeOpen id).works ((keeps_dropFormatting id).works h)) hlast hlt

theorem works_adoptBlock [Admits A] (hb : b.Sound A) (hblock : block ∈ b.openElements)
    (hancestor : b.Holds ancestor) (hname : tag.name ∈ formattingNames) (id : NodeId)
    (between : List NodeId) : b.Works A (adoptBlock id tag block between ancestor b).2 := by
  have hmine : b.Mine block := .inl (.of_open hblock)
  suffices h : Leads A b (adoptBlock id tag block between ancestor b) fun _ _ => True from h.1
  refine (leads_cloneBetween between 0 .inPlace (.refl hb) hmine
    (hb.lt (.of_open hblock))).bind fun ⟨last, bookmark⟩ b₁ h₁ ⟨hlast, hlt₁⟩ => ?_
  refine Leads.bind (P := fun _ b₂ => last < b₂.tree.nodes.size) ⟨h₁.change (.moved hlast hlt₁
    (fun p hp => by cases hp) (Tree.moves_detach _ _)), ?_⟩ fun _ b₂ h₂ hlt₂ => ?_
  · exact Nat.lt_of_lt_of_eq hlt₁ (Tree.moves_detach b₁.tree last).size.symm
  refine Leads.bind (P := fun spot b₃ => spot.Fits b b₃ ∧ last < b₃.tree.nodes.size) ?_
    fun spot b₃ h₃ ⟨hspot, hlt₃⟩ => ?_
  · rw [Leads, spotFor_snd]
    exact ⟨h₂, fits_spotFor h₂ (.inl hancestor) (Nat.lt_of_lt_of_le (hb.lt hancestor) h₂.size_le),
      hlt₂⟩
  refine Leads.bind (P := fun _ _ => True) ⟨works_place h₃ hspot hlast hlt₃, trivial⟩
    fun _ b₄ h₄ _ => ?_
  refine (leads_create h₄ hname).bind fun copy b₅ h₅ ⟨hcopy, hok, hsize⟩ => ?_
  have hmoved : Tree.Change A.made b.Mine b₅.tree (b₅.tree.moveChildren block copy) :=
    .movedChildren hmine hcopy hok.1
  refine Leads.bind (P := fun _ b₆ => b₆.tree.IsHoldable copy)
    ⟨h₅.change hmoved, hok.change hmoved⟩ fun _ b₆ h₆ hok₆ => ?_
  have happend : Tree.Change A.made b.Mine b₆.tree (b₆.tree.append block copy) :=
    .of_append hcopy hok₆.1 (.inl hmine)
      (Nat.lt_of_lt_of_le (hb.lt (.of_open hblock)) h₆.size_le)
  refine Leads.bind (P := fun _ b₇ => b₇.tree.IsHoldable copy)
    ⟨h₆.change happend, hok₆.change happend⟩ fun _ b₇ h₇ hok₇ => ?_
  have hclose (b₈ : Builder) (h₈ : b.Works A b₈) (hok₈ : b₈.tree.IsHoldable copy) :
      Leads A b ((do
        removeOpen id
        modify fun b =>
          { b with openElements :=
              b.openElements.flatMap fun id => if id == block then [copy, id] else [id] } :
          Build PUnit) b₈) fun _ _ => True := by
    refine Leads.bind (P := fun _ b₉ => b₉.tree = b₈.tree) ⟨(keeps_removeOpen id).works h₈, rfl⟩
      fun _ b₉ h₉ htree => ⟨works_reopenAs h₉ hcopy (htree ▸ hok₈) fun ids i hi => ?_, trivial⟩
    obtain ⟨y, hy, hi⟩ := List.mem_flatMap.mp hi
    split at hi
    · simp only [List.mem_cons, List.not_mem_nil, or_false] at hi
      rcases hi with rfl | rfl
      · exact .inr rfl
      · exact .inl hy
    · exact .inl (List.mem_singleton.mp hi ▸ hy)
  cases bookmark with
  | inPlace =>
      refine Leads.bind (P := fun _ b₈ => b₈.tree = b₇.tree) ⟨works_onFormatting h₇
        fun hnew => ?_, rfl⟩ fun _ b₈ h₈ htree => hclose b₈ h₈ (htree ▸ hok₇)
      obtain ⟨entry, hmem, heq⟩ := List.mem_map.mp hnew
      split at heq
      · cases heq
        exact .inr hname
      · exact .inl ⟨_, heq ▸ hmem⟩
  | newerThan other =>
      refine Leads.bind (P := fun _ b₈ => b₈.tree = b₇.tree) ⟨works_onFormatting h₇
        fun hnew => ?_, rfl⟩ fun _ b₈ h₈ htree => ?_
      · obtain ⟨entry, hmem, hnew⟩ := List.mem_flatMap.mp hnew
        split at hnew
        · simp only [List.mem_cons, List.not_mem_nil, or_false] at hnew
          rcases hnew with heq | heq
          · cases heq
            exact .inr hname
          · exact .inl ⟨_, heq ▸ hmem⟩
        · exact .inl ⟨_, List.mem_singleton.mp hnew ▸ hmem⟩
      · exact Leads.bind (P := fun _ b₉ => b₉.tree = b₈.tree)
          ⟨(keeps_dropFormatting id).works h₈, rfl⟩ fun _ b₉ h₉ htree₉ =>
            hclose b₉ h₉ (htree₉ ▸ htree ▸ hok₇)

instance keeps_adoptOnce [Admits A] (name : String) : Keeps A (adoptOnce name) := by
  refine keeps_of_get fun b hb => ?_
  have h : b.Works A b := .refl hb
  generalize hentry : List.find? _ (unmarked b.formatting) = entry
  cases entry with
  | none => exact Keeps.works keeps_bind h
  | some entry =>
      obtain ⟨id, tag⟩ := entry
      have hname : tag.name ∈ formattingNames :=
        Sound.name_of_mem_unmarked hb (List.mem_of_find?_eq_some hentry)
      simp only [ite_apply]
      split
      · exact Keeps.works keeps_bind h
      · have hreads : (scopeHolds .default (· == id) b).2 = b := rfl
        rw [bind_apply, hreads, ite_apply]
        split
        · exact h
        · generalize hblock : List.find? (isSpecial b.tree) _ = found
          cases found with
          | none =>
              have hclosed : b.Works A { b with openElements :=
                  (b.openElements.dropWhile (· != id)).drop 1 } :=
                h.keep rfl (fun i hi => (List.dropWhile_suffix _).subset (List.mem_of_mem_drop hi))
                  rfl (fun _ hentry => hentry) .inl
              exact ((keeps_dropFormatting id).bind fun _ => keeps_pure false).works hclosed
          | some block =>
              have hopen : block ∈ b.openElements := (List.takeWhile_prefix _).subset
                (List.mem_reverse.mp (List.mem_of_find?_eq_some hblock))
              refine works_adoptBlock hb hopen (holds_headD fun i hi => ?_) hname id _
              exact .of_open ((List.dropWhile_suffix _).subset (List.mem_of_mem_drop hi))

instance keeps_adoptRounds [Admits A] (name : String) (n : Nat) : Keeps A (adoptRounds name n) := by
  induction n with
  | zero => exact keeps_pure _
  | succ n ih => exact keeps_bind

instance keeps_adopt [Admits A] (name : String) : Keeps A (adopt name) := by
  have : Keeps A current := keeps_of_reads fun _ => rfl
  exact keeps_bind

instance keeps_closeAnchor [Admits A] : Keeps A closeAnchor := by
  refine keeps_get.bind fun b => ?_
  split <;> infer_instance

end LinkPreview.Html.Build
