import Gamebook.Proofs.Html.Query
import Mathlib.Data.List.Lex

/-!
# Places in a forest

A node stands at a path: a number for the node of the forest, and one for each child on the way
down. The order in which nodes begin is the lexicographic order of their paths, since a node begins
before everything inside it, and that before its next neighbour.

`positions` lists the paths as `Node.descendantsOf` lists the nodes. So a question that is asked of
all nodes in their order is one for the paths, where an answer says which nodes they are and not
only what they look like.
-/

namespace Gamebook.Html

namespace Node

/-- The nodes directly inside of a node. -/
def children : Node → List Node
  | element _ _ cs => cs
  | text _ => []

theorem descendants_eq (n : Node) : n.descendants = descendantsOf n.children := by
  cases n with
  | element name as cs => rw [descendants, children]
  | text t => rw [descendants, children, descendantsOf]

theorem descendantsOf_cons (n : Node) (ns : List Node) :
    descendantsOf (n :: ns) = n :: (descendantsOf n.children ++ descendantsOf ns) := by
  rw [descendantsOf, descendants_eq, List.cons_append]

/-- What holds of the empty forest and passes from the inside of a node and its neighbours to both
holds of all forests. -/
theorem children_induction {P : List Node → Prop} (nil : P [])
    (cons : ∀ n ns, P n.children → P ns → P (n :: ns)) (ns : List Node) : P ns := by
  induction ns using forest_induction with
  | nil => exact nil
  | text t ns ih => exact cons (.text t) ns nil ih
  | element name as cs ns ihcs ihns => exact cons (.element name as cs) ns ihcs ihns

end Node

/-- The node at a path. -/
def nodeAt? : List Node → List Nat → Option Node
  | _, [] => none
  | ns, i :: p => ns[i]?.bind fun n => if p = [] then some n else nodeAt? n.children p

/-- The path to the next neighbour. -/
def nextPath : List Nat → List Nat
  | [] => []
  | i :: p => (i + 1) :: p

mutual

/-- The paths inside of a node. -/
def Node.positionsIn : Node → List (List Nat)
  | .element _ _ cs => positions cs
  | .text _ => []

/-- The paths of a forest, in order. -/
def positions : List Node → List (List Nat)
  | [] => []
  | n :: ns => [0] :: (n.positionsIn.map (0 :: ·) ++ (positions ns).map nextPath)

end

/-- A node for which `f` holds stands at a path. -/
def Stands (f : Node → Bool) (ns : List Node) (p : List Nat) : Prop :=
  ∃ n, nodeAt? ns p = some n ∧ f n = true

/-- The list of all paths with a property, in order. -/
structure InOrder (P : List Nat → Prop) (ps : List (List Nat)) : Prop where
  sorted : ps.Pairwise (· < ·)
  mem_iff : ∀ p, p ∈ ps ↔ P p

/-- The first path with a property. -/
structure IsFirst (P : List Nat → Prop) (p : List Nat) : Prop where
  holds : P p
  least : ∀ q, P q → p ≤ q

/-- The paths of the nodes for which `f` holds. -/
def placesOf (f : Node → Bool) (ns : List Node) : List (List Nat) :=
  (positions ns).filter fun p => (nodeAt? ns p).any f

variable {f : Node → Bool} {n : Node} {ns : List Node} {p q : List Nat}

/-! ## Paths -/

theorem nodeAt?_nil (ns : List Node) : nodeAt? ns [] = none := by rw [nodeAt?]

theorem nodeAt?_zero (n : Node) (ns : List Node) (p : List Nat) :
    nodeAt? (n :: ns) (0 :: p) = if p = [] then some n else nodeAt? n.children p := by
  rw [nodeAt?]
  rfl

theorem nodeAt?_nextPath (n : Node) (ns : List Node) (p : List Nat) :
    nodeAt? (n :: ns) (nextPath p) = nodeAt? ns p := by
  cases p with
  | nil => rw [nextPath, nodeAt?_nil, nodeAt?_nil]
  | cons i p =>
      rw [nextPath, nodeAt?, nodeAt?]
      rfl

theorem Stands.ne_nil (h : Stands f ns p) : p ≠ [] := by
  rintro rfl
  obtain ⟨n, hn, -⟩ := h
  rw [nodeAt?_nil] at hn
  exact absurd hn (by simp)

/-- A path that goes on from a node goes on inside of it. -/
theorem nodeAt?_append (hp : nodeAt? ns p = some n) (hq : q ≠ []) :
    nodeAt? ns (p ++ q) = nodeAt? n.children q := by
  induction p generalizing ns with
  | nil =>
      rw [nodeAt?_nil] at hp
      exact absurd hp (by simp)
  | cons i p ih =>
      rw [nodeAt?] at hp
      obtain ⟨m, hm, hp⟩ := Option.bind_eq_some_iff.mp hp
      rw [List.cons_append, nodeAt?, hm, Option.bind_some]
      split at hp
      · rename_i hnil
        rw [hnil, List.nil_append, if_neg hq, Option.some.inj hp]
      · rw [if_neg (List.append_ne_nil_of_right_ne_nil p hq), ih hp]

theorem stands_append (hp : nodeAt? ns p = some n) (hq : q ≠ []) :
    Stands f ns (p ++ q) ↔ Stands f n.children q := by
  rw [Stands, nodeAt?_append hp hq, Stands]

theorem positions_cons (n : Node) (ns : List Node) : positions (n :: ns)
    = [0] :: ((positions n.children).map (0 :: ·) ++ (positions ns).map nextPath) := by
  cases n with
  | element name as cs => rw [positions, Node.positionsIn, Node.children]
  | text t => rw [positions, Node.positionsIn, Node.children, positions]

/-- **The paths are all paths to a node.** -/
theorem mem_positions : p ∈ positions ns ↔ (nodeAt? ns p).isSome = true := by
  induction ns using Node.children_induction generalizing p with
  | nil =>
      rw [positions]
      cases p <;> simp [nodeAt?]
  | cons n ns ihcs ihns =>
      rw [positions_cons, List.mem_cons, List.mem_append, List.mem_map, List.mem_map]
      match p with
      | [] =>
          have hnone : [] ∉ positions ns := by rw [ihns, nodeAt?_nil]; decide
          simp only [nodeAt?_nil, Option.isSome_none, Bool.false_eq_true, iff_false]
          rintro (h | ⟨q, _, h⟩ | ⟨q, hq, h⟩)
          · exact absurd h (by simp)
          · exact absurd h (by simp)
          · cases q with
            | nil => exact hnone hq
            | cons i q => exact absurd h (by simp [nextPath])
      | 0 :: p =>
          have hnext (q : List Nat) : nextPath q ≠ 0 :: p := by cases q <;> simp [nextPath]
          simp only [hnext, and_false, exists_false, or_false, List.cons.injEq, true_and,
            exists_eq_right, nodeAt?_zero, ihcs]
          split <;> simp_all
      | (i + 1) :: p =>
          have hnext (q : List Nat) : nextPath q = (i + 1) :: p ↔ q = i :: p := by
            cases q <;> simp [nextPath]
          have hnode := nodeAt?_nextPath n ns (i :: p)
          rw [nextPath] at hnode
          rw [hnode, ← ihns]
          simp [hnext]

theorem ne_nil_of_mem_positions (h : p ∈ positions ns) : p ≠ [] := by
  rintro rfl
  rw [mem_positions, nodeAt?_nil] at h
  exact absurd h (by decide)

theorem cons_lt_cons (i : Nat) (h : p < q) : i :: p < i :: q :=
  List.cons_lt_cons_iff.mpr (.inr ⟨rfl, h⟩)

theorem nextPath_lt (h : p < q) : nextPath p < nextPath q := by
  match p, q with
  | [], [] => exact absurd h (List.lt_irrefl [])
  | [], j :: q => exact List.nil_lt_cons (j + 1) q
  | i :: p, [] => exact absurd h (List.not_lt_nil (i :: p))
  | i :: p, j :: q =>
      rw [List.cons_lt_cons_iff] at h
      rw [nextPath, nextPath, List.cons_lt_cons_iff]
      exact h.imp Nat.succ_lt_succ fun h => ⟨congrArg Nat.succ h.1, h.2⟩

/-- **The paths are in order.** -/
theorem sorted_positions (ns : List Node) : (positions ns).Pairwise (· < ·) := by
  induction ns using Node.children_induction with
  | nil => rw [positions]; exact .nil
  | cons n ns ihcs ihns =>
      have hnext : ∀ p ∈ (positions ns).map nextPath, ∃ i q, p = (i + 1) :: q := by
        intro p hp
        obtain ⟨q, hq, rfl⟩ := List.mem_map.mp hp
        obtain ⟨i, q, rfl⟩ := List.exists_cons_of_ne_nil (ne_nil_of_mem_positions hq)
        exact ⟨i, q, rfl⟩
      rw [positions_cons, List.pairwise_cons, List.pairwise_append]
      refine ⟨fun p hp => ?first, ihcs.map _ fun _ _ => cons_lt_cons 0,
        ihns.map _ fun _ _ => nextPath_lt, fun a ha b hb => ?cross⟩
      case first =>
        rcases List.mem_append.mp hp with hp | hp
        · obtain ⟨q, hq, rfl⟩ := List.mem_map.mp hp
          obtain ⟨i, q, rfl⟩ := List.exists_cons_of_ne_nil (ne_nil_of_mem_positions hq)
          exact cons_lt_cons 0 (List.nil_lt_cons i q)
        · obtain ⟨i, q, rfl⟩ := hnext p hp
          exact List.cons_lt_cons_iff.mpr (.inl (Nat.succ_pos i))
      case cross =>
        obtain ⟨q, hq, rfl⟩ := List.mem_map.mp ha
        obtain ⟨i, r, rfl⟩ := hnext b hb
        exact List.cons_lt_cons_iff.mpr (.inl (Nat.succ_pos i))

/-- **The nodes at the paths are the nodes of the forest**, in the order in which they begin. -/
theorem map_nodeAt?_positions (ns : List Node) :
    (positions ns).map (nodeAt? ns) = (Node.descendantsOf ns).map some := by
  induction ns using Node.children_induction with
  | nil =>
      rw [positions, Node.descendantsOf]
      rfl
  | cons n ns ihcs ihns =>
      have hinside : ((positions n.children).map (0 :: ·)).map (nodeAt? (n :: ns))
          = (positions n.children).map (nodeAt? n.children) := by
        rw [List.map_map]
        refine List.map_congr_left fun p hp => ?_
        exact (nodeAt?_zero n ns p).trans (if_neg (ne_nil_of_mem_positions hp))
      have hnext : ((positions ns).map nextPath).map (nodeAt? (n :: ns))
          = (positions ns).map (nodeAt? ns) := by
        rw [List.map_map]
        exact List.map_congr_left fun p _ => nodeAt?_nextPath n ns p
      have hfirst : nodeAt? (n :: ns) [0] = some n := nodeAt?_zero n ns []
      rw [positions_cons, List.map_cons, List.map_append, hinside, hnext, hfirst, ihcs, ihns,
        Node.descendantsOf_cons, List.map_cons, List.map_append]

/-! ## Nodes with a property -/

theorem inOrder_placesOf (f : Node → Bool) (ns : List Node) :
    InOrder (Stands f ns) (placesOf f ns) := by
  refine ⟨(sorted_positions ns).filter _, fun p => ?_⟩
  rw [placesOf, List.mem_filter, mem_positions, Stands]
  cases nodeAt? ns p <;> simp

theorem map_placesOf (f : Node → Bool) (ns : List Node) :
    (placesOf f ns).map (nodeAt? ns) = ((Node.descendantsOf ns).filter f).map some := by
  calc (placesOf f ns).map (nodeAt? ns)
      = ((positions ns).filter (Option.any f ∘ nodeAt? ns)).map (nodeAt? ns) := rfl
    _ = ((positions ns).map (nodeAt? ns)).filter (Option.any f) := List.filter_map.symm
    _ = ((Node.descendantsOf ns).map some).filter (Option.any f) := by rw [map_nodeAt?_positions]
    _ = ((Node.descendantsOf ns).filter f).map some := List.filter_map

theorem InOrder.congr {P Q : List Nat → Prop} {ps : List (List Nat)} (h : InOrder P ps)
    (hPQ : ∀ p, P p ↔ Q p) : InOrder Q ps :=
  ⟨h.sorted, fun p => (h.mem_iff p).trans (hPQ p)⟩

/-- A list in order begins with the first path. -/
theorem InOrder.isFirst {P : List Nat → Prop} {ps : List (List Nat)} (h : InOrder P (p :: ps)) :
    IsFirst P p := by
  refine ⟨(h.mem_iff p).mp (List.mem_cons_self ..), fun q hq => ?_⟩
  rcases List.mem_cons.mp ((h.mem_iff q).mpr hq) with rfl | hq
  · exact le_rfl
  · exact (List.rel_of_pairwise_cons h.sorted hq).le

/-- The first node for which `f` holds stands at the first path to one. -/
theorem find?_cases (f : Node → Bool) (ns : List Node) :
    (Node.descendantsOf ns).find? f = none ∧ (∀ p, ¬Stands f ns p)
      ∨ ∃ p n, (Node.descendantsOf ns).find? f = some n ∧ nodeAt? ns p = some n
        ∧ IsFirst (Stands f ns) p := by
  have hplaces := inOrder_placesOf f ns
  have hnodes := map_placesOf f ns
  rw [← List.head?_filter]
  generalize placesOf f ns = ps at hplaces hnodes
  generalize (Node.descendantsOf ns).filter f = ms at hnodes
  cases ps with
  | nil =>
      cases ms with
      | nil => exact .inl ⟨rfl, fun p hp => absurd ((hplaces.mem_iff p).mpr hp) (by simp)⟩
      | cons m ms => exact absurd hnodes (by simp)
  | cons p ps =>
      cases ms with
      | nil => exact absurd hnodes (by simp)
      | cons m ms => exact .inr ⟨p, m, rfl, (List.cons.inj hnodes).1, hplaces.isFirst⟩

theorem isSome_find?_iff (f : Node → Bool) (ns : List Node) :
    ((Node.descendantsOf ns).find? f).isSome = true ↔ ∃ p, Stands f ns p := by
  rcases find?_cases f ns with ⟨hnone, hno⟩ | ⟨p, n, hfind, -, hfirst⟩
  · simp [hnone, hno]
  · rw [hfind]
    exact ⟨fun _ => ⟨p, hfirst.holds⟩, fun _ => rfl⟩

end Gamebook.Html
