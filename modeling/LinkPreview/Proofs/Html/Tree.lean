import Mathlib.Logic.Relation
import LinkPreview.Html.Tree

/-!
# What changes of a tree leave alone

Each change of a tree moves one node, makes one, writes into one text or gives attributes to one
element. `Moves` says what the first of these does to the links between all nodes.
-/

namespace LinkPreview.Html.Tree

variable {t t' : Tree} {id p q c s : NodeId} {below : Option NodeId} {f : Node → Node}
  {e : Element} {kind : NodeKind}

/-! ## Nodes -/

/-- What a node is, if it is there. -/
def kind? (t : Tree) (id : NodeId) : Option NodeKind :=
  t.nodes[id]?.map (·.kind)

theorem element?_eq_some_iff : t.element? id = some e ↔ t.kind? id = some (.element e) := by
  simp only [element?, kind?]
  rcases t.nodes[id]? with _ | ⟨_ | _ | _, _, _⟩ <;> simp

theorem element?_congr (h : t'.kind? id = t.kind? id) : t'.element? id = t.element? id := by
  refine Option.ext fun e => ?_
  rw [element?_eq_some_iff, element?_eq_some_iff, h]

theorem lt_size_of_kind? (h : t.kind? id = some kind) : id < t.nodes.size := by
  obtain ⟨node, hnode, -⟩ := Option.map_eq_some_iff.mp h
  exact (Array.getElem?_eq_some_iff.mp hnode).1

theorem kind?_of_le (h : t.nodes.size ≤ id) : t.kind? id = none := by
  simp [kind?, Array.getElem?_eq_none h]

@[simp] theorem size_update (t : Tree) (i : NodeId) (f : Node → Node) :
    (t.update i f).nodes.size = t.nodes.size := by
  simp [update]

theorem getElem?_update (t : Tree) (i : NodeId) (f : Node → Node) (id : NodeId) :
    (t.update i f).nodes[id]? = if i = id then t.nodes[id]?.map f else t.nodes[id]? := by
  simp [update, Array.getElem?_modify]

theorem kind?_update (h : ∀ n, (f n).kind = n.kind) (i id : NodeId) :
    (t.update i f).kind? id = t.kind? id := by
  simp only [kind?, getElem?_update]
  split
  · rw [Option.map_map]
    exact congrArg (Option.map · _) (funext h)
  · rfl

theorem parent?_update (h : ∀ n, (f n).parent = n.parent) (i id : NodeId) :
    (t.update i f).parent? id = t.parent? id := by
  simp only [parent?, getElem?_update]
  split
  · cases t.nodes[id]? with
    | none => rfl
    | some n => exact h n
  · rfl

theorem children_update (h : ∀ n, (f n).children = n.children) (i id : NodeId) :
    (t.update i f).children id = t.children id := by
  simp only [children, getElem?_update]
  split
  · rw [Option.map_map]
    exact congrArg (fun g => Option.getD (Option.map g _) []) (funext h)
  · rfl

/-! ## Moving a node -/

/-- Whether a tree comes of another by moving the node `c` below another, or into no
place. -/
structure Moves (t : Tree) (c : NodeId) (below : Option NodeId) (t' : Tree) : Prop where
  size : t'.nodes.size = t.nodes.size
  kind : ∀ id, t'.kind? id = t.kind? id
  parent : ∀ {id p},
    t'.parent? id = some p → t.parent? id = some p ∨ id = c ∧ below = some p
  child : ∀ {id p}, id ∈ t'.children p → id ∈ t.children p ∨ id = c ∧ below = some p
  rest : ∀ {p}, below ≠ some p → c ∉ t.children p → t'.children p = t.children p

theorem Moves.refl (t : Tree) (c : NodeId) : t.Moves c none t :=
  ⟨rfl, fun _ => rfl, .inl, .inl, fun _ _ => rfl⟩

theorem children_update_filter (t : Tree) (i c id : NodeId) :
    (t.update i fun n => { n with children := n.children.filter (· != c) }).children id =
      if i = id then (t.children id).filter (· != c) else t.children id := by
  simp only [children, getElem?_update]
  split
  · cases t.nodes[id]? <;> rfl
  · rfl

theorem parent?_update_parent (t : Tree) (i : NodeId) (below : Option NodeId) (id : NodeId) :
    (t.update i fun n => { n with parent := below }).parent? id =
      if i = id then t.nodes[id]?.bind fun _ => below else t.parent? id := by
  simp only [parent?, getElem?_update]
  split
  · cases t.nodes[id]? <;> rfl
  · rfl

theorem moves_detach (t : Tree) (c : NodeId) : t.Moves c none (t.detach c) := by
  unfold detach
  cases hparent : t.parent? c with
  | none => exact .refl t c
  | some p =>
      refine ⟨?_, ?_, ?_, ?_, ?_⟩
      · simp
      · intro id
        rw [kind?_update, kind?_update] <;> exact fun _ => rfl
      · intro id q h
        rw [parent?_update_parent] at h
        split at h
        · obtain ⟨-, -, h⟩ := Option.bind_eq_some_iff.mp h
          cases h
        · rw [parent?_update] at h
          · exact .inl h
          · exact fun _ => rfl
      · intro id q h
        rw [children_update, children_update_filter] at h
        · split at h
          · exact .inl (List.mem_filter.mp h).1
          · exact .inl h
        · exact fun _ => rfl
      · intro q _ hc
        rw [children_update, children_update_filter]
        · split
          · refine List.filter_eq_self.mpr fun id hid => ?_
            rw [bne_iff_ne]
            rintro rfl
            exact hc hid
          · rfl
        · exact fun _ => rfl

/-- A node that is in no place may be put below another, among its children. -/
theorem Moves.put (h : t.Moves c none t') (p : NodeId) (g : List NodeId → List NodeId)
    (hg : ∀ ids, ∀ id ∈ g ids, id ∈ ids ∨ id = c) :
    t.Moves c (some p) ((t'.update p fun n => { n with children := g n.children }).update c
      fun n => { n with parent := some p }) := by
  have hchildren (q : NodeId) : ((t'.update p fun n => { n with children := g n.children }).update c
      fun n => { n with parent := some p }).children q =
      if p = q then (t'.nodes[q]?.map fun n => g n.children).getD [] else t'.children q := by
    rw [children_update]
    · simp only [children, getElem?_update]
      split
      · cases t'.nodes[q]? <;> rfl
      · rfl
    · exact fun _ => rfl
  refine ⟨?_, ?_, ?_, ?_, ?_⟩
  · simp [h.size]
  · intro id
    rw [kind?_update, kind?_update, h.kind] <;> exact fun _ => rfl
  · intro id q hq
    rw [parent?_update_parent] at hq
    split at hq
    · rename_i hid
      obtain ⟨-, -, hbelow⟩ := Option.bind_eq_some_iff.mp hq
      exact .inr ⟨hid.symm, hbelow⟩
    · rw [parent?_update] at hq
      · exact .inl ((h.parent hq).resolve_right fun hbelow => by cases hbelow.2)
      · exact fun _ => rfl
  · intro id q hid
    rw [hchildren] at hid
    split at hid
    · rename_i hpq
      subst hpq
      cases hn : t'.nodes[p]? with
      | none => simp [hn] at hid
      | some n =>
          have hmem : id ∈ g (t'.children p) := by simpa [children, hn] using hid
          refine (hg _ _ hmem).imp (fun hid => ?_) fun hid => ⟨hid, rfl⟩
          exact (h.child hid).resolve_right fun hbelow => by cases hbelow.2
    · exact .inl ((h.child hid).resolve_right fun hbelow => by cases hbelow.2)
  · intro q hq hc
    rw [hchildren, if_neg fun hpq => hq (congrArg some hpq), h.rest (by simp) hc]

theorem moves_append (t : Tree) (p c : NodeId) : t.Moves c (some p) (t.append p c) :=
  (t.moves_detach c).put p (c :: ·) fun _ _ hid => (List.mem_cons.mp hid).symm

theorem moves_insertBefore (t : Tree) (s c : NodeId) :
    t.Moves c ((t.detach c).parent? s) (t.insertBefore s c) := by
  unfold insertBefore
  cases hparent : (t.detach c).parent? s with
  | none => simpa only [hparent] using t.moves_detach c
  | some p =>
      simp only [hparent]
      refine (t.moves_detach c).put p (insertBehind c s) fun ids id hid => ?_
      obtain ⟨y, hy, hmem⟩ := List.mem_flatMap.mp hid
      split at hmem
      · rename_i hys
        simp only [List.mem_cons, List.not_mem_nil, or_false] at hmem
        rcases hmem with rfl | rfl
        · exact .inl (eq_of_beq hys ▸ hy)
        · exact .inr rfl
      · exact .inl (List.mem_singleton.mp hmem ▸ hy)

end LinkPreview.Html.Tree
