/-!
# Priority queues

A leftist tree: at each node the top is least, and the right spine is the shorter one, so that
merging two trees walks down two short spines.  `Heap` bundles such a tree with the proof that
every top is least.  What a heap holds is read off `Heap.toList`: inserting adds one element,
`pop?` takes one out, and the one it takes is least.
-/
namespace CoreSteer

/-- A binary tree whose nodes carry the length of their right spine. -/
inductive LeftistTree (α : Type) where
  /-- No elements. -/
  | leaf
  /-- A top element and two subtrees. -/
  | node (rank : Nat) (top : α) (left right : LeftistTree α)

namespace LeftistTree

variable {α : Type}

/-- The length of the right spine. -/
def rank : LeftistTree α → Nat
  | leaf => 0
  | node r _ _ _ => r

/-- The number of elements. -/
def size : LeftistTree α → Nat
  | leaf => 0
  | node _ _ l r => l.size + r.size + 1

/-- The elements, in no particular order. -/
def toList : LeftistTree α → List α
  | leaf => []
  | node _ a l r => a :: (l.toList ++ r.toList)

theorem length_toList (t : LeftistTree α) : t.toList.length = t.size := by
  induction t with
  | leaf => rfl
  | node k a l r ihl ihr => simp [toList, size, ihl, ihr]

/-- A node over two subtrees, the one with the shorter spine on the right. -/
def join (a : α) (s t : LeftistTree α) : LeftistTree α :=
  if t.rank ≤ s.rank then node (t.rank + 1) a s t else node (s.rank + 1) a t s

theorem toList_join (a : α) (s t : LeftistTree α) :
    (join a s t).toList.Perm (a :: (s.toList ++ t.toList)) := by
  unfold join
  split
  · exact .refl _
  · exact .cons a List.perm_append_comm

variable [LE α]

/-- At each node, the top is least. -/
def Ordered : LeftistTree α → Prop
  | leaf => True
  | node _ a l r => (∀ b ∈ l.toList ++ r.toList, a ≤ b) ∧ l.Ordered ∧ r.Ordered

theorem ordered_join {a : α} {s t : LeftistTree α} (hs : s.Ordered) (ht : t.Ordered)
    (h : ∀ b ∈ s.toList ++ t.toList, a ≤ b) : (join a s t).Ordered := by
  unfold join
  split
  · exact ⟨h, hs, ht⟩
  · exact ⟨fun b hb => h b (by simpa [or_comm] using hb), ht, hs⟩

variable [DecidableLE α]

/-- All elements of two trees in one. -/
def merge : LeftistTree α → LeftistTree α → LeftistTree α
  | leaf, t => t
  | s, leaf => s
  | node j a l₁ r₁, node k b l₂ r₂ =>
    if a ≤ b then join a l₁ (merge r₁ (node k b l₂ r₂))
    else join b l₂ (merge (node j a l₁ r₁) r₂)
termination_by s t => s.size + t.size
decreasing_by all_goals simp only [size]; omega

theorem toList_merge (s t : LeftistTree α) :
    (merge s t).toList.Perm (s.toList ++ t.toList) := by
  fun_induction merge s t with
  | case1 t => exact .refl _
  | case2 s _ => simp [toList]
  | case3 j a l₁ r₁ k b l₂ r₂ _ ih =>
    refine (toList_join _ _ _).trans (.cons a ?_)
    have h := ih.append_left l₁.toList
    rwa [← List.append_assoc] at h
  | case4 j a l₁ r₁ k b l₂ r₂ _ ih =>
    refine (toList_join _ _ _).trans ?_
    have h := ih.append_left l₂.toList
    simp only [toList, List.cons_append] at h ⊢
    exact (h.trans List.perm_middle |>.cons b).trans
      ((List.Perm.swap a b _).trans (.cons a (by
        rw [← List.append_assoc]
        exact (@List.perm_middle _ b (l₂.toList ++ (l₁.toList ++ r₁.toList)) r₂.toList).symm.trans
          (by
            rw [List.append_assoc]
            exact (List.perm_append_comm_assoc _ _ _).trans
              (.append_left _ (List.perm_middle))))))

variable [Std.IsLinearPreorder α]

theorem ordered_merge {s t : LeftistTree α} (hs : s.Ordered) (ht : t.Ordered) :
    (merge s t).Ordered := by
  fun_induction merge s t with
  | case1 t => exact ht
  | case2 s _ => exact hs
  | case3 j a l₁ r₁ k b l₂ r₂ hab ih =>
    refine ordered_join hs.2.1 (ih hs.2.2 ht) fun c hc => ?_
    rw [List.mem_append, (toList_merge _ _).mem_iff, List.mem_append] at hc
    rcases hc with hc | hc | hc
    · exact hs.1 c (List.mem_append_left _ hc)
    · exact hs.1 c (List.mem_append_right _ hc)
    · rcases List.mem_cons.1 hc with rfl | hc
      · exact hab
      · exact Std.le_trans hab (ht.1 c hc)
  | case4 j a l₁ r₁ k b l₂ r₂ hab ih =>
    have hba : b ≤ a := (Std.le_total (a := a) (b := b)).resolve_left hab
    refine ordered_join ht.2.1 (ih hs ht.2.2) fun c hc => ?_
    rw [List.mem_append, (toList_merge _ _).mem_iff, List.mem_append] at hc
    rcases hc with hc | hc | hc
    · exact ht.1 c (List.mem_append_left _ hc)
    · rcases List.mem_cons.1 hc with rfl | hc
      · exact hba
      · exact Std.le_trans hba (hs.1 c hc)
    · exact ht.1 c (List.mem_append_right _ hc)

end LeftistTree

/-- A priority queue: a leftist tree in which every top is least. -/
structure Heap (α : Type) [LE α] where
  /-- The tree. -/
  tree : LeftistTree α
  /-- Every top is least. -/
  ordered : tree.Ordered

namespace Heap

variable {α : Type} [LE α]

/-- The heap without elements. -/
def empty : Heap α := ⟨.leaf, trivial⟩

instance : Inhabited (Heap α) := ⟨empty⟩

/-- The elements, in no particular order. -/
def toList (h : Heap α) : List α := h.tree.toList

/-- The number of elements. -/
def size (h : Heap α) : Nat := h.tree.size

variable [DecidableLE α] [Std.IsLinearPreorder α]

/-- Add an element. -/
def insert (h : Heap α) (a : α) : Heap α :=
  ⟨.merge (.node 1 a .leaf .leaf) h.tree,
    LeftistTree.ordered_merge ⟨by simp [LeftistTree.toList], trivial, trivial⟩ h.ordered⟩

/-- A heap of the elements of a list. -/
def ofList (as : List α) : Heap α := as.foldl insert empty

/-- Take out the least element. -/
def pop? (h : Heap α) : Option (α × Heap α) :=
  match h with
  | ⟨.leaf, _⟩ => none
  | ⟨.node _ a l r, o⟩ => some (a, ⟨.merge l r, LeftistTree.ordered_merge o.2.1 o.2.2⟩)

/-- Keep the elements that satisfy `p`. -/
def filter (p : α → Bool) (h : Heap α) : Heap α := ofList (h.toList.filter p)

omit [DecidableLE α] [Std.IsLinearPreorder α] in
@[simp] theorem toList_empty : (empty : Heap α).toList = [] := rfl

omit [DecidableLE α] [Std.IsLinearPreorder α] in
theorem length_toList (h : Heap α) : h.toList.length = h.size := h.tree.length_toList

theorem toList_insert (h : Heap α) (a : α) : (h.insert a).toList.Perm (a :: h.toList) :=
  LeftistTree.toList_merge _ _

theorem toList_foldl_insert (as : List α) (h : Heap α) :
    (as.foldl insert h).toList.Perm (as ++ h.toList) := by
  induction as generalizing h with
  | nil => exact .refl _
  | cons a as ih =>
    exact (ih (h.insert a)).trans
      (((toList_insert h a).append_left as).trans List.perm_middle)

theorem toList_ofList (as : List α) : (ofList as).toList.Perm as := by
  simpa [ofList] using toList_foldl_insert as empty

theorem toList_filter (p : α → Bool) (h : Heap α) :
    (h.filter p).toList.Perm (h.toList.filter p) :=
  toList_ofList _

theorem pop?_eq_none_iff {h : Heap α} : h.pop? = none ↔ h.toList = [] := by
  rcases h with ⟨t, o⟩
  cases t <;> simp [pop?, toList, LeftistTree.toList]

theorem toList_of_pop? {h h' : Heap α} {a : α} (e : h.pop? = some (a, h')) :
    h.toList.Perm (a :: h'.toList) := by
  rcases h with ⟨t, o⟩
  cases t with
  | leaf => simp [pop?] at e
  | node k b l r =>
    simp only [pop?, Option.some.injEq, Prod.mk.injEq] at e
    obtain ⟨rfl, rfl⟩ := e
    exact .cons _ (LeftistTree.toList_merge l r).symm

theorem le_of_pop? {h h' : Heap α} {a : α} (e : h.pop? = some (a, h')) :
    ∀ b ∈ h.toList, a ≤ b := by
  rcases h with ⟨t, o⟩
  cases t with
  | leaf => simp [pop?] at e
  | node k c l r =>
    simp only [pop?, Option.some.injEq, Prod.mk.injEq] at e
    obtain ⟨rfl, rfl⟩ := e
    intro b hb
    rcases List.mem_cons.1 hb with rfl | hb
    · exact Std.le_refl _
    · exact o.1 b hb

theorem size_insert (h : Heap α) (a : α) : (h.insert a).size = h.size + 1 := by
  rw [← length_toList, ← length_toList, (toList_insert h a).length_eq, List.length_cons]

theorem size_of_pop? {h h' : Heap α} {a : α} (e : h.pop? = some (a, h')) :
    h.size = h'.size + 1 := by
  rw [← length_toList, ← length_toList, (toList_of_pop? e).length_eq, List.length_cons]

end Heap

end CoreSteer
