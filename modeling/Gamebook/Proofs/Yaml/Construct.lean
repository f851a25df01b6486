import Gamebook.Proofs.Yaml.Compose
import Gamebook.Proofs.Yaml.Content
import Gamebook.Yaml.Construct

/-!
# The value of a tame block

Merging changes the nodes of a block, but it fills only mappings and gives no tag whose
contents are not checked, so tame nodes stay tame (`Kept`). All that is read from them is
then read, or refused with a contained fault (`construct_yields`).
-/

namespace Gamebook.Yaml.Construct

/-- A node whose contents may be replaced: they are not read by its tag. -/
def Refillable (g : Graph) (id : Nat) : Prop := ∀ n, g[id]? = some n → n.tag ∉ uncheckedTags

/-- What building does to the nodes: they stay tame, and those that may be filled still may be. -/
structure Kept (block : Text) (s s' : Construction) : Prop where
  tame : ∀ n ∈ s'.graph, TameNode block n
  refillable : ∀ id, Refillable s.graph id → Refillable s'.graph id

variable {α : Type} {block : Text} {s s' s'' : Construction} {post : α → Construction → Prop}

theorem Kept.refl (h : ∀ n ∈ s.graph, TameNode block n) : Kept block s s := ⟨h, fun _ hid => hid⟩

theorem Kept.trans (h : Kept block s s') (h' : Kept block s' s'') : Kept block s s'' :=
  ⟨h'.tame, fun id hid => h'.refillable id (h.refillable id hid)⟩

theorem fail_does (context : Option (Text × Mark)) (problem : Text) (mark : Mark) :
    Does s post (fail context problem mark) := rfl

theorem nodeAt_bind {id : Nat} {k : Node → Construct α}
    (h : Does s post (k (s.graph.getD id blankNode))) : Does s post (nodeAt id >>= k) := h

theorem wrongSort_does (sort : String) (n : Node) : Does s post (wrongSort sort n) :=
  fail_does _ _ _

theorem getD_eq_of_getElem? {g : Graph} {id : Nat} {n : Node} (h : g[id]? = some n) :
    g.getD id blankNode = n := by
  rw [Array.getD_eq_getD_getElem?, h]
  rfl

theorem tame_getD (h : ∀ n ∈ s.graph, TameNode block n) (id : Nat) :
    TameNode block (s.graph.getD id blankNode) := by
  cases hget : s.graph[id]? with
  | none =>
      rw [Array.getD_eq_getD_getElem?, hget]
      exact TameNode.of_notMem (by decide)
  | some n =>
      rw [getD_eq_of_getElem? hget]
      exact h n (Array.mem_of_getElem? hget)

/-! ## Scalars -/

/-- A scalar is read as what it holds. -/
theorem scalarCodes_does (fuel : Nat) (n : Node) :
    Does s (fun codes s' => s' = s ∧ (fuel ≠ 0 → ∀ own, n.content = .scalar own → codes = own))
      (scalarCodes fuel n) := by
  induction fuel generalizing n with
  | zero => exact wrongSort_does _ _
  | succ fuel ih =>
      unfold scalarCodes
      cases hcontent : n.content with
      | scalar codes => exact ⟨rfl, fun _ own hown => by injection hown⟩
      | sequence items => exact wrongSort_does _ _
      | mapping entries =>
          refine Does.get_bind ?_
          dsimp only
          split
          · refine nodeAt_bind ?_
            exact (ih _).mono fun _ _ h => ⟨h.1, fun _ own hown => by simp at hown⟩
          · exact wrongSort_does _ _

/-- A reading of the contents, as the value that it gives. -/
theorem content_does {β : Type} {r : Reading β} (h : Yields (fun _ => True) r) (f : β → Value) :
    Does s (fun _ s' => s' = s) (do
      let x ← (liftM r : Construct β)
      pure (f x)) := by
  have hlift : Does s (fun _ s' => s' = s) (liftM r : Construct β) :=
    Does.lift (h.mono fun _ _ => rfl)
  exact hlift.bind fun _ _ hs => hs

theorem scalarValue_does (ht : Tame block) {n : Node} (hn : TameNode block n) :
    Does s (fun _ s' => s' = s) (scalarValue n) := by
  unfold scalarValue
  extract_lets readable
  refine .ite (fun _ => fail_does _ _ _) fun _ => Does.get_bind ?_
  refine (scalarCodes_does (s.graph.size + 1) n).bind ?_
  rintro codes s' ⟨rfl, hown⟩
  extract_lets t
  by_cases hmem : n.tag ∈ uncheckedTags
  · -- the tag is the one of the form of the text, which tells what can be read
    obtain ⟨u, hcontent, htag, htext⟩ := hn hmem
    have hu : t = u := by
      simp only [t]
      rw [hown (by omega) _ hcontent, Compose.textOf_codesOf]
    have hbreak := htext.dropFinalBreak
    rw [hu, htag, hcontent]
    rcases plainTag_cases u with ⟨hcase, hform⟩ | ⟨hcase, hform⟩ | ⟨hcase, hform⟩ |
      ⟨hcase, hform⟩ | hnone
    · rw [hbreak] at hform
      rw [hcase, if_neg (by decide), if_pos (by decide)]
      exact content_does (truthContent_yields hform) Value.bool
    · rw [hbreak] at hform
      have hin : u <:+: block :=
        htext.solid fun c hc => isBlankOrEnd_of_isVisible (allVisible_of_isFloatForm hform c hc)
      rw [hcase, if_neg (by decide), if_neg (by decide), if_neg (by decide), if_pos (by decide)]
      exact content_does (floatContent_yields hform (ht.sixtieths u hin hform)) Value.real
    · rw [hbreak] at hform
      rw [hcase, if_neg (by decide), if_neg (by decide), if_pos (by decide)]
      exact content_does (integerContent_yields hform) Value.int
    · rw [hcase, if_neg (by decide), if_neg (by decide), if_neg (by decide), if_neg (by decide),
        if_pos (by decide)]
      exact Does.lift ((timestampContent_yields hform).mono fun _ _ => rfl)
    · exact absurd (htag ▸ hmem) hnone
  · have hother {name : String} (hname : coreTag name ∈ uncheckedTags) :
        ¬(n.tag == coreTag name) = true := by
      intro h
      exact hmem (eq_of_beq h ▸ hname)
    refine .ite (fun _ => rfl) fun _ => ?_
    rw [if_neg (hother (by decide)), if_neg (hother (by decide)), if_neg (hother (by decide)),
      if_neg (hother (by decide))]
    refine .ite (fun _ => ?_) fun _ => rfl
    split
    · exact rfl
    · exact fail_does _ _ _

theorem build_does (ht : Tame block) (hs : ∀ n ∈ s.graph, TameNode block n) (id : Nat) :
    Does s (fun _ s' => Kept block s s') (build id) := by
  unfold build
  refine Does.get_bind ?_
  split
  · exact .refl hs
  · exact .refl hs
  · refine nodeAt_bind ?_
    split
    · exact ⟨hs, fun _ h => h⟩
    · refine (scalarValue_does ht (tame_getD hs id)).bind ?_
      rintro v s' rfl
      exact ⟨hs, fun _ h => h⟩

/-! ## Merging -/

/-- Nodes may be changed in ways that leave their tags checked. -/
theorem modify_kept {id : Nat} {f : Node → Node} (hs : ∀ n ∈ s.graph, TameNode block n)
    (hf : ∀ n, s.graph[id]? = some n → (f n).tag ∉ uncheckedTags) :
    Kept block s { s with graph := s.graph.modify id f } := by
  constructor
  · intro m hm
    obtain ⟨i, hi⟩ := Array.mem_iff_getElem?.mp hm
    rw [Array.getElem?_modify] at hi
    by_cases hid : id = i
    · subst hid
      rw [if_pos rfl] at hi
      obtain ⟨n, hn, rfl⟩ := Option.map_eq_some_iff.mp hi
      exact .of_notMem (hf n hn)
    · rw [if_neg hid] at hi
      exact hs m (Array.mem_of_getElem? hi)
  · intro i hi m hm
    rw [Array.getElem?_modify] at hm
    by_cases hid : id = i
    · subst hid
      rw [if_pos rfl] at hm
      obtain ⟨n, hn, rfl⟩ := Option.map_eq_some_iff.mp hm
      exact hf n hn
    · rw [if_neg hid] at hm
      exact hi m hm

theorem setEntries_does (hs : ∀ n ∈ s.graph, TameNode block n) {id : Nat}
    (hid : Refillable s.graph id) (entries : List (Nat × Nat)) :
    Does s (fun _ s' => Kept block s s') (setEntries id entries) :=
  modify_kept hs hid

theorem setTag_does (hs : ∀ n ∈ s.graph, TameNode block n) (id : Nat) {tag : Text}
    (htag : tag ∉ uncheckedTags) : Does s (fun _ s' => Kept block s s') (setTag id tag) :=
  modify_kept hs fun _ _ => htag

/-- A node with entries is a mapping, whose tag is not that of a scalar. -/
theorem refillable_of_entries (hs : ∀ n ∈ s.graph, TameNode block n) {id : Nat}
    (h : entriesOf (s.graph.getD id blankNode) ≠ []) : Refillable s.graph id := by
  intro n hn hmem
  obtain ⟨t, hcontent, -⟩ := hs n (Array.mem_of_getElem? hn) hmem
  rw [getD_eq_of_getElem? hn, entriesOf, hcontent] at h
  exact h rfl

theorem mergeFault_does (around : Node) (expected : String) (found : Node) :
    Does s post (mergeFault around expected found) := rfl

theorem nextMerge?_does (index : Nat) (entries : List (Nat × Nat)) {s : Construction}
    (hs : ∀ n ∈ s.graph, TameNode block n) :
    Does s (fun found s' => Kept block s s' ∧ (entries = [] → found = none))
      (nextMerge? index entries) := by
  induction entries generalizing index s with
  | nil => exact ⟨.refl hs, fun _ => rfl⟩
  | cons entry entries ih =>
      obtain ⟨key, value⟩ := entry
      unfold nextMerge?
      refine nodeAt_bind ?_
      dsimp only
      refine .ite (fun _ => ⟨.refl hs, fun h => absurd h (by simp)⟩) fun _ => ?_
      have goesOn {s' : Construction} (h' : Kept block s s') :
          Does s' (fun found s'' => Kept block s s''
              ∧ ((key, value) :: entries = [] → found = none))
            (nextMerge? (index + 1) entries) :=
        (ih (index + 1) h'.tame).mono fun _ _ h'' => ⟨h'.trans h''.1, fun h => absurd h (by simp)⟩
      refine .ite (fun _ => ?_) fun _ => goesOn (.refl hs)
      exact (setTag_does hs key (by decide)).bind fun _ _ h₁ => goesOn h₁

/-- Entries are put in front of those of a node that may be filled. -/
theorem prepend_does (hs : ∀ n ∈ s.graph, TameNode block n) {id : Nat}
    {entries : List (Nat × Nat)} (h : entries = [] ∨ Refillable s.graph id) :
    Does s (fun _ s' => Kept block s s') (prepend id entries) := by
  unfold prepend
  refine .ite (fun hsome => ?_) fun _ => .refl hs
  refine nodeAt_bind ?_
  rcases h with rfl | hid
  · exact absurd hsome (by simp)
  · exact setEntries_does hs hid _

section

variable {flatten : Nat → Construct Unit}

theorem flattenAll_does
    (hflatten : ∀ (id : Nat) (s : Construction), (∀ n ∈ s.graph, TameNode block n) →
      Does s (fun _ s' => Kept block s s') (flatten id))
    (around : Node) (ids : List Nat) {s : Construction} (hs : ∀ n ∈ s.graph, TameNode block n) :
    Does s (fun _ s' => Kept block s s') (flattenAll flatten around ids) := by
  induction ids generalizing s with
  | nil => exact .refl hs
  | cons id ids ih =>
      unfold flattenAll
      refine nodeAt_bind ?_
      split
      · refine (hflatten id s hs).bind fun _ s₁ h₁ => nodeAt_bind ?_
        exact (ih h₁.tame).bind fun _ _ h₂ => h₁.trans h₂
      · exact mergeFault_does _ _ _

/-- What stands under a merge key is a mapping, or several of them. -/
theorem mergedBy_does
    (hflatten : ∀ (id : Nat) (s : Construction), (∀ n ∈ s.graph, TameNode block n) →
      Does s (fun _ s' => Kept block s s') (flatten id))
    (around : Node) (value : Nat) (hs : ∀ n ∈ s.graph, TameNode block n) :
    Does s (fun _ s' => Kept block s s') (mergedBy flatten around value) := by
  unfold mergedBy
  refine nodeAt_bind ?_
  split
  · exact (hflatten value s hs).bind fun _ s₁ h₁ => nodeAt_bind h₁
  · exact (flattenAll_does hflatten around _ hs).bind fun _ _ h₁ => h₁
  · exact mergeFault_does _ _ _

end

/-- Only a mapping has merged entries, and a mapping may be filled. -/
theorem takeMerges_does (fuel id index : Nat) (merged : List (Nat × Nat)) {s : Construction}
    (hs : ∀ n ∈ s.graph, TameNode block n) :
    Does s (fun merged' s' => Kept block s s' ∧ (merged' = merged ∨ Refillable s'.graph id))
      (takeMerges fuel id index merged) := by
  induction fuel generalizing id index merged s with
  | zero => exact ⟨.refl hs, .inl rfl⟩
  | succ fuel ih =>
      unfold takeMerges
      refine nodeAt_bind ?_
      refine (nextMerge?_does index _ hs).bind ?_
      rintro found s₁ ⟨h₁, hfound⟩
      cases found with
      | none => exact ⟨h₁, .inl rfl⟩
      | some next =>
          obtain ⟨next, value⟩ := next
          have hid : Refillable s.graph id := by
            refine refillable_of_entries hs fun hnil => ?_
            exact absurd (hfound (by rw [hnil, List.drop_nil])) (by simp)
          dsimp only
          refine (setEntries_does h₁.tame (h₁.refillable id hid) _).bind fun _ s₂ h₂ => ?_
          have hinner (id : Nat) (s : Construction) (hs : ∀ n ∈ s.graph, TameNode block n) :
              Does s (fun _ s' => Kept block s s') (takeMerges fuel id 0 [] >>= prepend id) := by
            refine (ih id 0 [] hs).bind ?_
            rintro merged s' ⟨h', hmerged⟩
            exact (prepend_does h'.tame hmerged).mono fun _ _ h'' => h'.trans h''
          refine (mergedBy_does hinner _ value h₂.tame).bind fun more s₃ h₃ => ?_
          have h₁₃ := h₁.trans (h₂.trans h₃)
          refine (ih id next (merged ++ more) h₃.tame).mono ?_
          rintro _ s₄ ⟨h₄, -⟩
          exact ⟨h₁₃.trans h₄, .inr ((h₁₃.trans h₄).refillable id hid)⟩

theorem flatten_does (fuel id : Nat) (hs : ∀ n ∈ s.graph, TameNode block n) :
    Does s (fun _ s' => Kept block s s') (flatten fuel id) := by
  unfold Construct.flatten
  refine (takeMerges_does fuel id 0 [] hs).bind ?_
  rintro merged s₁ ⟨h₁, hmerged⟩
  exact (prepend_does h₁.tame hmerged).mono fun _ _ h₂ => h₁.trans h₂

/-! ## Containers -/

theorem buildEntries_does (ht : Tame block) (around : Node) (built : List (Value × Nat))
    (entries : List (Nat × Nat)) {s : Construction} (hs : ∀ n ∈ s.graph, TameNode block n) :
    Does s (fun _ s' => Kept block s s') (buildEntries around built entries) := by
  induction entries generalizing built s with
  | nil => exact .refl hs
  | cons entry entries ih =>
      obtain ⟨key, value⟩ := entry
      unfold buildEntries
      refine (build_does ht hs key).bind fun k s₁ h₁ => ?_
      cases k with
      | none => exact nodeAt_bind (fail_does _ _ _)
      | some k =>
          refine (build_does ht h₁.tame value).bind fun _ s₂ h₂ => ?_
          have h₂' := h₁.trans h₂
          exact (ih _ h₂'.tame).mono fun _ _ h₃ => h₂'.trans h₃

theorem buildPairs_does (ht : Tame block) (what : Text) (around : Node) (ids : List Nat)
    {s : Construction} (hs : ∀ n ∈ s.graph, TameNode block n) :
    Does s (fun _ s' => Kept block s s') (buildPairs what around ids) := by
  induction ids generalizing s with
  | nil => exact .refl hs
  | cons id ids ih =>
      unfold buildPairs
      refine nodeAt_bind ?_
      extract_lets mismatch
      split
      · rename_i key value _
        refine (build_does ht hs key).bind fun _ s₁ h₁ => ?_
        refine (build_does ht h₁.tame value).bind fun _ s₂ h₂ => ?_
        have h₂' := h₁.trans h₂
        exact (ih h₂'.tame).bind fun _ _ h₃ => h₂'.trans h₃
      · exact fail_does _ _ _
      · exact fail_does _ _ _

theorem forEach_does {act : Nat → Construct Unit}
    (hact : ∀ (id : Nat) {s : Construction}, (∀ n ∈ s.graph, TameNode block n) →
      Does s (fun _ s' => Kept block s s') (act id))
    (ids : List Nat) {s : Construction} (hs : ∀ n ∈ s.graph, TameNode block n) :
    Does s (fun _ s' => Kept block s s') (forEach act ids) := by
  induction ids generalizing s with
  | nil => exact .refl hs
  | cons id ids ih =>
      unfold forEach
      refine (hact id hs).bind fun _ s₁ h₁ => ?_
      exact (ih h₁.tame).mono fun _ _ h₂ => h₁.trans h₂

theorem mappingEntries_does (ht : Tame block) (fuel id : Nat)
    (hs : ∀ n ∈ s.graph, TameNode block n) :
    Does s (fun _ s' => Kept block s s') (mappingEntries fuel id) := by
  unfold mappingEntries
  refine nodeAt_bind ?_
  split
  · refine (flatten_does fuel id hs).bind fun _ s₁ h₁ => nodeAt_bind ?_
    exact (buildEntries_does ht _ _ _ h₁.tame).mono fun _ _ h₂ => h₁.trans h₂
  · exact wrongSort_does _ _

theorem pairEntries_does (ht : Tame block) (what : Text) (n : Node)
    (hs : ∀ n ∈ s.graph, TameNode block n) :
    Does s (fun _ s' => Kept block s s') (pairEntries what n) := by
  unfold pairEntries
  split
  · exact buildPairs_does ht _ _ _ hs
  · exact fail_does _ _ _

theorem fill_does (ht : Tame block) (fuel id : Nat) (hs : ∀ n ∈ s.graph, TameNode block n) :
    Does s (fun _ s' => Kept block s s') (fill fuel id) := by
  unfold fill
  refine nodeAt_bind ?_
  extract_lets next
  -- whatever a container is filled with, its node stays as it is
  have hnext (contents : Built) {s' : Construction} (h' : Kept block s s') :
      Does s' (fun _ s'' => Kept block s s'') (next contents) := ⟨h'.tame, h'.refillable⟩
  have hmapped {β : Type} {m : Construct β} (hm : Does s (fun _ s' => Kept block s s') m)
      (f : β → Built) : Does s (fun _ s' => Kept block s s') ((f <$> m) >>= next) := by
    have hmap : Does s (fun _ s' => Kept block s s') (f <$> m) := by
      refine Does.map ?_
      exact hm
    exact hmap.bind fun contents _ h' => hnext contents h'
  clear_value next
  refine .ite (fun _ => ?_) fun _ => ?_
  · split
    · rename_i items _
      have hbuild (id : Nat) {s : Construction} (hs : ∀ n ∈ s.graph, TameNode block n) :
          Does s (fun _ s' => Kept block s s') (do let _ ← build id) :=
        (build_does ht hs id).bind fun _ _ h₁ => h₁
      exact (forEach_does hbuild items hs).bind fun _ _ h₁ => hnext (.list items) h₁
    · exact rfl
  · refine .ite (fun _ => hmapped (mappingEntries_does ht fuel id hs) _) fun _ => ?_
    refine .ite (fun _ => hmapped (mappingEntries_does ht fuel id hs) _) fun _ => ?_
    refine .ite (fun _ => hmapped (pairEntries_does ht _ _ hs) _) fun _ => ?_
    exact hmapped (pairEntries_does ht _ _ hs) _

theorem fillAll_does (ht : Tame block) (fuel rounds : Nat) {s : Construction}
    (hs : ∀ n ∈ s.graph, TameNode block n) :
    Does s (fun _ s' => Kept block s s') (fillAll fuel rounds) := by
  induction rounds generalizing s with
  | zero => exact .refl hs
  | succ rounds ih =>
      unfold fillAll
      refine Does.get_bind (.ite (fun _ => .refl hs) fun _ => ?_)
      refine Does.set_bind ?_
      have h₁ : Kept block s { s with queue := [] } := ⟨hs, fun _ h => h⟩
      have hfilled := forEach_does (fun id _ hs => fill_does ht fuel id hs) s.queue.reverse h₁.tame
      refine hfilled.bind fun _ s₂ h₂ => ?_
      exact (ih h₂.tame).mono fun _ _ h₃ => h₁.trans (h₂.trans h₃)

end Gamebook.Yaml.Construct

namespace Gamebook.Yaml

/-- **The nodes of a tame block are built into a value**, or a contained fault is met. -/
theorem construct_yields {block : Text} (ht : Tame block) {g : Graph}
    (hg : ∀ n ∈ g, TameNode block n) (root : Nat) :
    Yields (fun _ => True) (construct root g) := by
  unfold construct
  extract_lets steps start
  have hdoes : Does start (fun _ _ => True) (do
      let _ ← Construct.build root
      Construct.fillAll steps (g.size + 1)) := by
    refine (Construct.build_does (s := start) ht hg root).bind fun _ s₁ h₁ => ?_
    exact (Construct.fillAll_does ht steps (g.size + 1) h₁.tame).mono fun _ _ _ => trivial
  exact Yields.bind hdoes fun _ _ => trivial

end Gamebook.Yaml
