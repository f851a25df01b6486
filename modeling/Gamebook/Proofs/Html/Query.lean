import Gamebook.Proofs.Html.Forest

/-!
# Looking for elements in a regrouped forest

What is read back of a written forest differs from it in the texts, and after the
highlighting of dice also in the spans around some of them. Neither is seen by a
question about elements of other names: the answer is the answer for the forest as it
was written, with the same done to the contents of each element.
-/

namespace Gamebook.Html

namespace Node

/-- The elements of some names in a forest, in the order in which they begin. -/
def namedIn (names : List Text) (ns : List Node) : List Node :=
  (descendantsOf ns).filter (isNamed names)

/-- A node with other contents. -/
def mapContents (f : List Node → List Node) : Node → Node
  | element name as cs => element name as (f cs)
  | text t => text t

/-- All characters of the texts in a forest. -/
def textOf (ns : List Node) : Text :=
  (descendantsOf ns).flatMap fun
    | text t => t
    | element .. => []

/-! ## Forests part by part -/

theorem descendantsOf_append (ns ms : List Node) :
    descendantsOf (ns ++ ms) = descendantsOf ns ++ descendantsOf ms := by
  induction ns with
  | nil => rw [descendantsOf]; rfl
  | cons n ns ih =>
      rw [List.cons_append, descendantsOf, descendantsOf, ih]
      simp only [List.cons_append, List.append_assoc]

@[simp] theorem namedIn_nil (names : List Text) : namedIn names [] = [] := by
  rw [namedIn, descendantsOf]
  rfl

@[simp] theorem namedIn_append (names : List Text) (ns ms : List Node) :
    namedIn names (ns ++ ms) = namedIn names ns ++ namedIn names ms := by
  rw [namedIn, descendantsOf_append, List.filter_append]
  rfl

@[simp] theorem namedIn_text (names : List Text) (t : Text) (ns : List Node) :
    namedIn names (.text t :: ns) = namedIn names ns := by
  rw [namedIn, descendantsOf, descendants]
  rfl

theorem namedIn_element (names : List Text) (name : Text) (as : List (Text × Text))
    (cs ns : List Node) : namedIn names (.element name as cs :: ns)
      = (if names.contains name then [.element name as cs] else [])
        ++ (namedIn names cs ++ namedIn names ns) := by
  rw [namedIn, descendantsOf, descendants, List.cons_append, List.filter_cons, List.filter_append]
  show (if names.contains name then _ else _) = _
  split <;> rfl

theorem namedIn_element_of_mem {names : List Text} {name : Text} (h : name ∈ names)
    (as : List (Text × Text)) (cs ns : List Node) : namedIn names (.element name as cs :: ns)
      = .element name as cs :: (namedIn names cs ++ namedIn names ns) := by
  rw [namedIn_element, if_pos (by simpa using h)]
  rfl

theorem namedIn_element_of_not_mem {names : List Text} {name : Text} (h : name ∉ names)
    (as : List (Text × Text)) (cs ns : List Node) :
    namedIn names (.element name as cs :: ns) = namedIn names cs ++ namedIn names ns := by
  rw [namedIn_element, if_neg (by simpa using h)]
  rfl

theorem namedIn_flatMap {α : Type} (names : List Text) (f : α → List Node) (xs : List α) :
    namedIn names (xs.flatMap f) = xs.flatMap fun x => namedIn names (f x) := by
  induction xs with
  | nil => exact namedIn_nil names
  | cons x xs ih => rw [List.flatMap_cons, namedIn_append, ih, List.flatMap_cons]

theorem textOf_append (ns ms : List Node) : textOf (ns ++ ms) = textOf ns ++ textOf ms := by
  rw [textOf, descendantsOf_append, List.flatMap_append]
  rfl

theorem textOf_text (t : Text) (ns : List Node) : textOf (.text t :: ns) = t ++ textOf ns := by
  rw [textOf, descendantsOf, descendants]
  rfl

theorem textOf_element (name : Text) (as : List (Text × Text)) (cs ns : List Node) :
    textOf (.element name as cs :: ns) = textOf cs ++ textOf ns := by
  rw [textOf, descendantsOf, descendants, List.cons_append, List.flatMap_cons, List.flatMap_append]
  rfl

/-! ## Questions to one node -/

theorem findAll_element (names : List Text) (name : Text) (as : List (Text × Text))
    (cs : List Node) : (element name as cs).findAll names = namedIn names cs := by
  rw [findAll, descendants]
  rfl

theorem find?_element (names : List Text) (name : Text) (as : List (Text × Text))
    (cs : List Node) : (element name as cs).find? names = (namedIn names cs).head? := by
  rw [find?, descendants, namedIn, List.head?_filter]

theorem attribute?_mapContents (f : List Node → List Node) (name : Text) (n : Node) :
    (n.mapContents f).attribute? name = n.attribute? name := by
  cases n <;> rfl

theorem hasClass_mapContents (f : List Node → List Node) (name : Text) (n : Node) :
    (n.mapContents f).hasClass name = n.hasClass name := by
  rw [hasClass, classes, attribute?_mapContents]
  rfl

/-! ## Folded blanks -/

theorem isBlank_of_isFoldable {c : Char} (h : isFoldable c = true) : Text.isBlank c = true := by
  have hall : ∀ c ∈ [' ', '\n', '\t', '\x0c', '\r'], Text.isBlank c = true :=
    List.all_iff_forall_prop.mp (by decide)
  exact hall c (by simpa [isFoldable] using h)

/-- A text is kept as it is, or it is all blanks and one of them is left. -/
theorem foldBlanks_cases (t : Text) :
    foldBlanks t = t
      ∨ (∀ c ∈ t, Text.isBlank c = true) ∧ ∀ c ∈ foldBlanks t, Text.isBlank c = true := by
  unfold foldBlanks
  split
  · rename_i h
    refine .inr ⟨fun c hc => isBlank_of_isFoldable (List.all_eq_true.mp h.2 c hc), ?_⟩
    split <;> exact List.all_iff_forall_prop.mp (by decide)
  · exact .inl rfl

theorem trim_foldBlanks (t : Text) : Text.trim (foldBlanks t) = Text.trim t := by
  rcases foldBlanks_cases t with h | ⟨ht, hfolded⟩
  · rw [h]
  · have hnone {u : Text} (hu : ∀ c ∈ u, Text.isBlank c = true) : Text.trim u = [] := by
      rw [← List.append_nil u, Text.trim_blanks_append hu]
      rfl
    rw [hnone ht, hnone hfolded]

theorem mem_foldBlanks {c : Char} {t : Text} (hblank : Text.isBlank c = false) (h : c ∈ t) :
    c ∈ foldBlanks t := by
  rcases foldBlanks_cases t with hkept | ⟨ht, -⟩
  · rwa [hkept]
  · rw [ht c h] at hblank
    exact absurd hblank (by decide)

/-! ## Regrouped forests -/

/-- **A question that the written stretches do not answer is answered as before.** -/
theorem namedIn_regroup {names : List Text} {f : Text → List Node}
    (hf : ∀ t, namedIn names (f t) = []) (u : Text) (ns : List Node) :
    namedIn names (regroup f u ns) = (namedIn names ns).map (mapContents (regroup f [])) := by
  induction ns using forest_induction generalizing u with
  | nil =>
      rw [regroup, hf, namedIn_nil]
      rfl
  | text t ns ih => rw [regroup, ih, namedIn_text]
  | element name as cs ns ihcs ihns =>
      -- only the contents of the element are another, and the question is for its name
      rw [regroup, namedIn_append, hf, List.nil_append, namedIn_element, namedIn_element, ihcs,
        ihns, List.map_append, List.map_append]
      split <;> rfl

/-- No character is lost that is not lost of a stretch. -/
theorem mem_textOf_regroup {f : Text → List Node} {c : Char} (hf : ∀ t, c ∈ t → c ∈ textOf (f t))
    {u : Text} {ns : List Node} (hc : c ∈ u ++ textOf ns) : c ∈ textOf (regroup f u ns) := by
  induction ns using forest_induction generalizing u with
  | nil =>
      rw [regroup]
      exact hf u (by simpa [textOf, descendantsOf] using hc)
  | text t ns ih =>
      rw [textOf_text, ← List.append_assoc] at hc
      rw [regroup]
      exact ih hc
  | element name as cs ns ihcs ihns =>
      rw [textOf_element, List.mem_append, List.mem_append] at hc
      rw [regroup, textOf_append, textOf_element, List.mem_append, List.mem_append]
      exact hc.imp (hf u) (Or.imp ihcs ihns)

theorem namedIn_textNodes (names : List Text) (t : Text) : namedIn names (textNodes t) = [] := by
  unfold textNodes
  split
  · exact namedIn_nil names
  · rw [namedIn_text, namedIn_nil]

theorem textOf_textNodes (t : Text) : textOf (textNodes t) = foldBlanks t := by
  unfold textNodes
  split
  · rename_i ht
    rw [ht]
    rfl
  · rw [textOf_text]
    exact List.append_nil _

/-- A forest stays readable, if plain stretches are written out as readable forests. -/
theorem areReadable_regroup {f : Text → List Node}
    (hf : ∀ t, IsPlainText t → AreReadable (f t)) {u : Text} (hu : IsPlainText u) {ns : List Node}
    (h : AreReadable ns) : AreReadable (regroup f u ns) := by
  induction ns using forest_induction generalizing u with
  | nil =>
      rw [regroup]
      exact hf u hu
  | text t ns ih =>
      rw [AreReadable] at h
      rw [regroup]
      exact ih (hu.append h.1) h.2
  | element name as cs ns ihcs ihns =>
      rw [AreReadable] at h
      rw [regroup, areReadable_append, AreReadable]
      have hnone : IsPlainText [] := by simp [IsPlainText]
      exact ⟨hf u hu, h.1, ihcs hnone h.2.1, ihns hnone h.2.2⟩

/-- The elements of a forest stay ordinary, if stretches are written out with ordinary ones. -/
theorem areOrdinary_regroup {f : Text → List Node} (hf : ∀ t, AreOrdinary (f t)) {u : Text}
    {ns : List Node} (h : AreOrdinary ns) : AreOrdinary (regroup f u ns) := by
  induction ns using forest_induction generalizing u with
  | nil =>
      rw [regroup]
      exact hf u
  | text t ns ih =>
      rw [AreOrdinary] at h
      rw [regroup]
      exact ih h
  | element name as cs ns ihcs ihns =>
      rw [AreOrdinary] at h
      rw [regroup, areOrdinary_append, AreOrdinary]
      exact ⟨hf u, h.1, ihcs h.2.1, ihns h.2.2⟩

/-! ## The text of an element -/

/-- A character that is no blank survives the trimming of the texts. -/
theorem mem_trimmedText {name : Text} {as : List (Text × Text)} {cs : List Node} {c : Char}
    (hblank : Text.isBlank c = false) (h : c ∈ textOf cs) :
    c ∈ (element name as cs).trimmedText := by
  obtain ⟨n, hn, hc⟩ := List.mem_flatMap.mp h
  rw [trimmedText, descendants]
  refine List.mem_flatMap.mpr ⟨n, hn, ?_⟩
  cases n with
  | text t => exact Text.mem_trim_of_mem hblank hc
  | element _ _ _ => exact hc

end Node

end Gamebook.Html
