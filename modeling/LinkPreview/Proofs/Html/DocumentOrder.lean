import LinkPreview.Html.Document

/-!
# The order of a document

`Tree.elements` lists elements in the order in which they were made. This is not always the order
of the document: an element that is out of place in a table is put in front of the table, and so in
front of what was made before it, and an element whose parent was cut off from the document is
listed all the same. Where neither happens, the two orders agree.
-/

namespace LinkPreview.Html.Tree

/-- A node and all nodes below it down to a given depth, each in front of its children. -/
def fromTo (t : Tree) : Nat → NodeId → List NodeId
  | 0, _ => []
  | depth + 1, id => id :: (t.children id).reverse.flatMap (t.fromTo depth)

/-- The elements of a document in its order. No branch is longer than there are nodes. -/
def inDocument (t : Tree) : List (NodeId × Element) :=
  (t.fromTo t.nodes.size root).filterMap fun id => (t.element? id).map (id, ·)

/-- Whether the elements that have a parent are those of the document, and none stands in front of
one that was made before it. -/
structure IsInPlace (t : Tree) : Prop where
  mem_iff : ∀ x, x ∈ t.inDocument ↔ x ∈ t.elements
  inOrder : t.inDocument.Pairwise fun x y => x.1 < y.1

theorem element?_of_mem_elements {t : Tree} {id : NodeId} {e : Element}
    (h : (id, e) ∈ t.elements) : t.element? id = some e := by
  obtain ⟨i, -, hi⟩ := List.mem_filterMap.mp h
  rcases hnode : t.nodes[i]? with _ | ⟨_ | e' | _, _ | parent, children⟩ <;> simp [hnode] at hi
  obtain ⟨rfl, rfl⟩ := hi
  simp [element?, hnode]

theorem pairwise_filterMap_range {f : NodeId → Option (NodeId × Element)}
    (h : ∀ i x, f i = some x → x.1 = i) (n : Nat) :
    ((List.range n).filterMap f).Pairwise fun x y => x.1 < y.1 := by
  refine List.pairwise_lt_range.filterMap _ fun i j hij x hx y hy => ?_
  rw [h i x hx, h j y hy]
  exact hij

theorem pairwise_elements (t : Tree) : t.elements.Pairwise fun x y => x.1 < y.1 := by
  refine pairwise_filterMap_range (fun i x hx => ?_) _
  split at hx
  · split at hx <;> cases hx
    rfl
  · cases hx

/-- All elements are in place exactly if the order in which they were made is that of the
document. -/
theorem isInPlace_iff {t : Tree} : t.IsInPlace ↔ t.elements = t.inDocument := by
  constructor
  · intro h
    have hnodup {l : List (NodeId × Element)} (hl : l.Pairwise fun x y => x.1 < y.1) :
        l.Nodup := by
      refine List.Pairwise.imp (fun {x y} hlt => ?_) hl
      rintro rfl
      exact Nat.lt_irrefl _ hlt
    refine List.Perm.eq_of_pairwise (fun x y _ _ hxy hyx => ?_) t.pairwise_elements h.inOrder ?_
    · exact absurd (Nat.lt_trans hxy hyx) (Nat.lt_irrefl _)
    · rw [List.perm_ext_iff_of_nodup (hnodup t.pairwise_elements) (hnodup h.inOrder)]
      exact fun x => (h.mem_iff x).symm
  · intro h
    exact ⟨fun x => by rw [h], h ▸ t.pairwise_elements⟩

instance (t : Tree) : Decidable t.IsInPlace :=
  decidable_of_iff _ isInPlace_iff.symm

end LinkPreview.Html.Tree
