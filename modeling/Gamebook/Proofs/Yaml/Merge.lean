import Gamebook.Proofs.Yaml.Construct
import Mathlib.Algebra.Order.BigOperators.Group.List
import Mathlib.Algebra.Order.Ring.Nat

/-!
# Merging comes to its end

A mapping may merge others that merge others in turn, and it may merge itself. A step of
`takeMerges` takes one merge key out of the graph and no step puts one in, so as many steps as
there are merge keys, and one more, are enough: a mapping that has been flattened has none left
(`flatten_clears`).

What is merged into a mapping may be the mapping itself, which then changes while its entries are
looked through. What is known of it afterwards is the one thing `Merged` says of every mapping:
it has the entries it had, or it has no merge keys any more.
-/

namespace Gamebook.Yaml.Construct

/-- How many merge keys a mapping has. -/
def mergeKeysAt (g : Graph) (id : Nat) : Nat :=
  (entriesOf (g.getD id blankNode)).countP fun e => isMergeKey g e.1

/-- Entries none of which merges. -/
def Plain (g : Graph) (entries : List (Nat × Nat)) : Prop :=
  ∀ e ∈ entries, isMergeKey g e.1 = false

/-- Two graphs of which the same keys merge. -/
structure SameKeys (g g' : Graph) : Prop where
  size : g'.size = g.size
  keys : ∀ id, isMergeKey g' id = isMergeKey g id

/-- What the search for a merge key does to the nodes: it changes tags only. -/
structure Retagged (g g' : Graph) : Prop extends SameKeys g g' where
  entries : ∀ id, entriesOf (g'.getD id blankNode) = entriesOf (g.getD id blankNode)

/-- What merging does to the nodes: a mapping has the entries it had, or no merge keys. -/
structure Merged (g g' : Graph) : Prop extends SameKeys g g' where
  entries : ∀ id, entriesOf (g'.getD id blankNode) = entriesOf (g.getD id blankNode)
    ∨ mergeKeysAt g' id = 0

variable {s : Construction} {g g' g'' : Graph} {id fuel : Nat} {es fs : List (Nat × Nat)}

theorem mergeKeysAt_eq_zero_iff :
    mergeKeysAt g id = 0 ↔ Plain g (entriesOf (g.getD id blankNode)) := by
  simp [mergeKeysAt, Plain, List.countP_eq_zero]

/-- The merge keys of a graph, mapping by mapping. -/
theorem mergeKeys_eq_sum (g : Graph) :
    mergeKeys g = ((List.range g.size).map (mergeKeysAt g)).sum := by
  have hnodes : g.toList = (List.range g.size).map fun id => g.getD id blankNode := by
    refine List.ext_getElem (by simp) fun id hid _ => ?_
    rw [Array.length_toList] at hid
    simp [hid]
  rw [mergeKeys, hnodes, List.flatMap_map, List.countP_flatMap]
  rfl

theorem Plain.nil (g : Graph) : Plain g [] := List.forall_mem_nil _

theorem Plain.append (h : Plain g es) (h' : Plain g fs) : Plain g (es ++ fs) := by
  intro e he
  rcases List.mem_append.mp he with he | he
  · exact h e he
  · exact h' e he

namespace SameKeys

theorem refl (g : Graph) : SameKeys g g := ⟨rfl, fun _ => rfl⟩

theorem trans (h : SameKeys g g') (h' : SameKeys g' g'') : SameKeys g g'' :=
  ⟨h'.size.trans h.size, fun id => (h'.keys id).trans (h.keys id)⟩

theorem plain_iff (h : SameKeys g g') : Plain g' es ↔ Plain g es := by
  simp only [Plain, h.keys]

/-- The merge keys of a mapping with the entries it had are the ones it had. -/
theorem mergeKeysAt_of_entries (h : SameKeys g g')
    (hid : entriesOf (g'.getD id blankNode) = entriesOf (g.getD id blankNode)) :
    mergeKeysAt g' id = mergeKeysAt g id := by
  simp only [mergeKeysAt, hid, h.keys]

end SameKeys

namespace Retagged

theorem refl (g : Graph) : Retagged g g := ⟨.refl g, fun _ => rfl⟩

theorem trans (h : Retagged g g') (h' : Retagged g' g'') : Retagged g g'' :=
  ⟨h.toSameKeys.trans h'.toSameKeys, fun id => (h'.entries id).trans (h.entries id)⟩

theorem merged (h : Retagged g g') : Merged g g' := ⟨h.toSameKeys, fun id => .inl (h.entries id)⟩

end Retagged

namespace Merged

theorem refl (g : Graph) : Merged g g := (Retagged.refl g).merged

theorem trans (h : Merged g g') (h' : Merged g' g'') : Merged g g'' := by
  refine ⟨h.toSameKeys.trans h'.toSameKeys, fun id => ?_⟩
  rcases h'.entries id with hsame | hclear
  · rcases h.entries id with hfirst | hclear
    · exact .inl (hsame.trans hfirst)
    · exact .inr ((h'.mergeKeysAt_of_entries hsame).trans hclear)
  · exact .inr hclear

theorem mergeKeysAt_le (h : Merged g g') (id : Nat) : mergeKeysAt g' id ≤ mergeKeysAt g id := by
  rcases h.entries id with hsame | hclear
  · exact (h.mergeKeysAt_of_entries hsame).le
  · omega

theorem mergeKeys_le (h : Merged g g') : mergeKeys g' ≤ mergeKeys g := by
  rw [mergeKeys_eq_sum, mergeKeys_eq_sum, h.size]
  exact List.sum_le_sum fun id _ => h.mergeKeysAt_le id

end Merged

/-! ## Changes of one node -/

theorem getD_modify (f : Node → Node) (k : Nat) :
    (g.modify id f).getD k blankNode
      = if id = k ∧ k < g.size then f (g.getD k blankNode) else g.getD k blankNode := by
  rw [Array.getD_eq_getD_getElem?, Array.getD_eq_getD_getElem?, Array.getElem?_modify]
  by_cases hk : k < g.size
  · by_cases hid : id = k <;> simp [hk, hid]
  · simp [hk]

/-- A key that does not merge may get another tag with which it does not merge either. -/
theorem retagged_setTag {tag : Text} (hkey : isMergeKey g id = false) (htag : tag ≠ mergeTag) :
    Retagged g (g.modify id fun n => { n with tag := tag }) where
  size := Array.size_modify
  keys k := by
    rw [isMergeKey, getD_modify]
    split
    · rename_i h
      rw [← h.1, hkey]
      simpa using htag
    · rfl
  entries k := by
    rw [getD_modify]
    split <;> rfl

/-- The graph once a mapping has other entries. -/
def withEntries (g : Graph) (id : Nat) (entries : List (Nat × Nat)) : Graph :=
  g.modify id fun n => { n with content := .mapping entries }

theorem isMergeKey_withEntries (k : Nat) :
    isMergeKey (withEntries g id es) k = isMergeKey g k := by
  rw [isMergeKey, withEntries, getD_modify, isMergeKey]
  split <;> rfl

theorem entriesOf_withEntries (k : Nat) :
    entriesOf ((withEntries g id es).getD k blankNode)
      = if id = k ∧ k < g.size then es else entriesOf (g.getD k blankNode) := by
  rw [withEntries, getD_modify]
  split <;> rfl

theorem mergeKeysAt_withEntries_of_ne {k : Nat} (h : id ≠ k) :
    mergeKeysAt (withEntries g id es) k = mergeKeysAt g k := by
  rw [mergeKeysAt, entriesOf_withEntries, if_neg fun hk => h hk.1]
  simp only [isMergeKey_withEntries, mergeKeysAt]

/-- A mapping with entries is one of the nodes. -/
theorem lt_size_of_entries (h : entriesOf (g.getD id blankNode) ≠ []) : id < g.size := by
  by_contra hid
  rw [Array.getD_eq_getD_getElem?, Array.getElem?_eq_none (by omega)] at h
  exact h rfl

/-- Taking a merge key out leaves one less. -/
theorem mergeKeys_erase_lt {e : Nat × Nat} (hes : entriesOf (g.getD id blankNode) = es ++ e :: fs)
    (he : isMergeKey g e.1 = true) : mergeKeys (withEntries g id (es ++ fs)) < mergeKeys g := by
  have hid : id < g.size := lt_size_of_entries (by rw [hes]; simp)
  have hless : mergeKeysAt (withEntries g id (es ++ fs)) id < mergeKeysAt g id := by
    rw [mergeKeysAt, entriesOf_withEntries, if_pos ⟨rfl, hid⟩, mergeKeysAt, hes]
    simp only [isMergeKey_withEntries, List.countP_append, List.countP_cons, he]
    simp
  rw [mergeKeys_eq_sum, mergeKeys_eq_sum,
    show (withEntries g id (es ++ fs)).size = g.size from Array.size_modify]
  refine List.sum_lt_sum _ _ (fun k _ => ?_) ⟨id, List.mem_range.mpr hid, hless⟩
  by_cases hk : id = k
  · exact hk ▸ hless.le
  · exact (mergeKeysAt_withEntries_of_ne hk).le

theorem sameKeys_withEntries (g : Graph) (id : Nat) (es : List (Nat × Nat)) :
    SameKeys g (withEntries g id es) := ⟨Array.size_modify, isMergeKey_withEntries⟩

/-- What becomes of the entries that a mapping is given does not matter if it has no merge keys in
the end. -/
theorem Merged.of_withEntries (h : Merged (withEntries g id es) g') (hid : mergeKeysAt g' id = 0) :
    Merged g g' := by
  refine ⟨(sameKeys_withEntries g id es).trans h.toSameKeys, fun k => ?_⟩
  by_cases hk : id = k
  · exact .inr (hk ▸ hid)
  · have hsame := h.entries k
    rwa [entriesOf_withEntries, if_neg fun hk' => hk hk'.1] at hsame

/-! ## The steps of merging -/

/-- What a search finds among entries, the first of which has number `index`: the next merge key,
with plain entries before it. -/
def Finds (g : Graph) (index : Nat) (entries : List (Nat × Nat)) : Option (Nat × Nat) → Prop
  | none => Plain g entries
  | some (place, _) => ∃ before e after, entries = before ++ e :: after
      ∧ place = index + before.length ∧ Plain g before ∧ isMergeKey g e.1 = true

theorem nextMerge?_finds (index : Nat) (entries : List (Nat × Nat)) {s : Construction} :
    Does s (fun found s' => Retagged s.graph s'.graph ∧ Finds s.graph index entries found)
      (nextMerge? index entries) := by
  induction entries generalizing index s with
  | nil => exact ⟨.refl _, Plain.nil _⟩
  | cons entry entries ih =>
      obtain ⟨key, value⟩ := entry
      unfold nextMerge?
      refine nodeAt_bind ?_
      dsimp only
      refine .ite (fun hmerges => ?_) fun hplain => ?_
      · exact ⟨.refl _, [], (key, value), entries, rfl, rfl, .nil _, hmerges⟩
      · have hkey : isMergeKey s.graph key = false := by simpa [isMergeKey] using hplain
        have hcons {es : List (Nat × Nat)} (hes : Plain s.graph es) :
            Plain s.graph ((key, value) :: es) := List.forall_mem_cons.mpr ⟨hkey, hes⟩
        have goesOn {s' : Construction} (h' : Retagged s.graph s'.graph) :
            Does s' (fun found s'' => Retagged s.graph s''.graph
              ∧ Finds s.graph index ((key, value) :: entries) found)
              (nextMerge? (index + 1) entries) := by
          refine (ih (index + 1)).mono ?_
          rintro found s'' ⟨h'', hfound⟩
          refine ⟨h'.trans h'', ?_⟩
          rcases found with _ | ⟨place, _⟩
          · exact hcons (h'.plain_iff.mp hfound)
          · obtain ⟨before, e, after, rfl, hplace, hbefore, he⟩ := hfound
            refine ⟨(key, value) :: before, e, after, rfl, ?_, hcons (h'.plain_iff.mp hbefore), ?_⟩
            · rw [hplace, List.length_cons]
              omega
            · rwa [← h'.keys]
        refine .ite (fun _ => ?_) fun _ => goesOn (.refl _)
        have htagged : Does s (fun _ s' => Retagged s.graph s'.graph) (setTag key strTag) :=
          retagged_setTag hkey (by decide)
        exact htagged.bind fun _ _ h₁ => goesOn h₁

theorem prepend_clears (hes : Plain s.graph es) (hid : mergeKeysAt s.graph id = 0) :
    Does s (fun _ s' => Merged s.graph s'.graph ∧ mergeKeysAt s'.graph id = 0) (prepend id es) := by
  unfold prepend
  refine .ite (fun _ => ?_) fun _ => ⟨.refl _, hid⟩
  refine nodeAt_bind ?_
  have hplain := hes.append (mergeKeysAt_eq_zero_iff.mp hid)
  have hclear : mergeKeysAt (withEntries s.graph id
      (es ++ entriesOf (s.graph.getD id blankNode))) id = 0 := by
    rw [mergeKeysAt_eq_zero_iff, entriesOf_withEntries]
    intro e he
    rw [isMergeKey_withEntries]
    split at he
    · exact hplain e he
    · exact mergeKeysAt_eq_zero_iff.mp hid e he
  exact ⟨Merged.of_withEntries (.refl _) hclear, hclear⟩

section

variable {flatten : Nat → Construct Unit}

theorem flattenAll_clears
    (hflatten : ∀ (id : Nat) (s : Construction), mergeKeys s.graph < fuel →
      Does s (fun _ s' => Merged s.graph s'.graph ∧ mergeKeysAt s'.graph id = 0) (flatten id))
    (around : Node) (ids : List Nat) {s : Construction} (hfuel : mergeKeys s.graph < fuel) :
    Does s (fun parts s' => Merged s.graph s'.graph ∧ Plain s'.graph parts.reverse.flatten)
      (flattenAll flatten around ids) := by
  induction ids generalizing s with
  | nil => exact ⟨.refl _, Plain.nil _⟩
  | cons id ids ih =>
      unfold flattenAll
      refine nodeAt_bind ?_
      split
      · refine (hflatten id s hfuel).bind ?_
        rintro _ s₁ ⟨h₁, hid⟩
        refine nodeAt_bind ((ih (h₁.mergeKeys_le.trans_lt hfuel)).bind ?_)
        rintro parts s₂ ⟨h₂, hparts⟩
        refine ⟨h₁.trans h₂, ?_⟩
        rw [List.reverse_cons, List.flatten_append, List.flatten_singleton]
        exact hparts.append (h₂.plain_iff.mpr (mergeKeysAt_eq_zero_iff.mp hid))
      · exact mergeFault_does _ _ _

theorem mergedBy_clears
    (hflatten : ∀ (id : Nat) (s : Construction), mergeKeys s.graph < fuel →
      Does s (fun _ s' => Merged s.graph s'.graph ∧ mergeKeysAt s'.graph id = 0) (flatten id))
    (around : Node) (value : Nat) (hfuel : mergeKeys s.graph < fuel) :
    Does s (fun more s' => Merged s.graph s'.graph ∧ Plain s'.graph more)
      (mergedBy flatten around value) := by
  unfold mergedBy
  refine nodeAt_bind ?_
  split
  · refine (hflatten value s hfuel).bind ?_
    rintro _ s₁ ⟨h₁, hvalue⟩
    exact nodeAt_bind ⟨h₁, mergeKeysAt_eq_zero_iff.mp hvalue⟩
  · exact (flattenAll_clears hflatten around _ hfuel).bind fun _ _ h₁ => h₁
  · exact mergeFault_does _ _ _

end

/-- A merge key that was found, as the entries around it. `front` is all that stands before it. -/
theorem Finds.split {index place value : Nat} {entries : List (Nat × Nat)}
    (h : Finds g index (entries.drop index) (some (place, value)))
    (hbefore : Plain g (entries.take index)) :
    ∃ front e after, entries = front ++ e :: after ∧ entries.eraseIdx place = front ++ after
      ∧ (front ++ after).take place = front ∧ Plain g front ∧ isMergeKey g e.1 = true := by
  obtain ⟨before, e, after, hdrop, hplace, hplain, he⟩ := h
  have hle : index ≤ entries.length := by
    by_contra hlong
    rw [List.drop_eq_nil_of_le (by omega)] at hdrop
    exact absurd hdrop (by simp)
  obtain ⟨front, hsplit, hlength, hfront⟩ :
      ∃ front, entries = front ++ e :: after ∧ place = front.length ∧ Plain g front := by
    refine ⟨entries.take index ++ before, ?_, ?_, hbefore.append hplain⟩
    · rw [List.append_assoc, ← hdrop, List.take_append_drop]
    · rw [hplace, List.length_append, List.length_take, Nat.min_eq_left hle]
  refine ⟨front, e, after, hsplit, ?_, ?_, hfront, he⟩
  · rw [hsplit, hlength, List.eraseIdx_append_of_length_le le_rfl, Nat.sub_self,
      List.eraseIdx_zero, List.tail_cons]
  · rw [hlength, List.take_left]

/-- What is merged into a mapping may be the mapping itself, but then it has no merge keys left. -/
theorem Merged.plain_take {place : Nat} (h : Merged (withEntries g id es) g') (hid : id < g.size)
    (hes : Plain g (es.take place)) :
    Plain g' ((entriesOf (g'.getD id blankNode)).take place) := by
  have hkeys := (sameKeys_withEntries g id es).trans h.toSameKeys
  rcases h.entries id with hsame | hclear
  · rwa [hkeys.plain_iff, hsame, entriesOf_withEntries, if_pos ⟨rfl, hid⟩]
  · intro e he
    exact mergeKeysAt_eq_zero_iff.mp hclear e (List.mem_of_mem_take he)

/-- **All merge keys of a mapping are taken out**, and what they merge has none either. -/
theorem takeMerges_clears (fuel id index : Nat) (merged : List (Nat × Nat)) {s : Construction}
    (hfuel : mergeKeys s.graph < fuel)
    (hbefore : Plain s.graph ((entriesOf (s.graph.getD id blankNode)).take index))
    (hmerged : Plain s.graph merged) :
    Does s (fun merged' s' => Merged s.graph s'.graph ∧ mergeKeysAt s'.graph id = 0
        ∧ Plain s'.graph merged')
      (takeMerges fuel id index merged) := by
  induction fuel generalizing id index merged s with
  | zero => exact absurd hfuel (by omega)
  | succ fuel ih =>
      have hinner (id : Nat) (s : Construction) (hfuel : mergeKeys s.graph < fuel) :
          Does s (fun _ s' => Merged s.graph s'.graph ∧ mergeKeysAt s'.graph id = 0)
            (takeMerges fuel id 0 [] >>= prepend id) := by
        refine (ih id 0 [] hfuel (Plain.nil _) (Plain.nil _)).bind ?_
        rintro merged s' ⟨h', hclear, hplain⟩
        exact (prepend_clears hplain hclear).mono fun _ _ h'' => ⟨h'.trans h''.1, h''.2⟩
      unfold takeMerges
      refine nodeAt_bind ((nextMerge?_finds index _).bind ?_)
      rintro found s₁ ⟨h₁, hfound⟩
      rcases found with _ | ⟨place, value⟩
      · have hplain : mergeKeysAt s.graph id = 0 := by
          rw [mergeKeysAt_eq_zero_iff, ← List.take_append_drop index (entriesOf _)]
          exact hbefore.append hfound
        have hclear := (h₁.mergeKeysAt_of_entries (h₁.entries id)).trans hplain
        exact ⟨h₁.merged, hclear, h₁.plain_iff.mpr hmerged⟩
      · obtain ⟨front, e, after, hsplit, herased, htake, hfront, he⟩ := hfound.split hbefore
        dsimp only
        rw [herased]
        have herase : Does s₁ (fun _ s' => s'.graph = withEntries s₁.graph id (front ++ after))
            (setEntries id (front ++ after)) := rfl
        refine herase.bind fun _ s₂ h₂ => ?_
        have hentries := (h₁.entries id).trans hsplit
        have hid : id < s₁.graph.size := lt_size_of_entries (by rw [hentries]; simp)
        -- the key is taken out, so there is one merge key less
        have hless : mergeKeys s₂.graph < fuel := by
          have hlt := mergeKeys_erase_lt hentries ((h₁.keys e.1).trans he)
          have hle := h₁.merged.mergeKeys_le
          rw [h₂]
          omega
        refine (mergedBy_clears hinner _ value hless).bind ?_
        rintro more s₃ ⟨h₃, hmore⟩
        have hfewer := h₃.mergeKeys_le.trans_lt hless
        rw [h₂] at h₃
        have hkeys := (h₁.toSameKeys.trans (sameKeys_withEntries _ id _)).trans h₃.toSameKeys
        have hfront' := h₃.plain_take hid (by rwa [htake, h₁.plain_iff])
        refine (ih id place (merged ++ more) hfewer hfront'
          ((hkeys.plain_iff.mpr hmerged).append hmore)).mono ?_
        rintro merged' s₄ ⟨h₄, hclear, hplain⟩
        exact ⟨h₁.merged.trans (.of_withEntries (h₃.trans h₄) hclear), hclear, hplain⟩

/-- **A mapping that has been flattened has no merge keys left**, if there are more steps than merge
keys in the graph. The other mappings have the entries they had, or no merge keys either; so there
are no more merge keys than before, and as many steps are enough for the next mapping. -/
theorem flatten_clears (hfuel : mergeKeys s.graph < fuel) (id : Nat) :
    Does s (fun _ s' => Merged s.graph s'.graph ∧ mergeKeysAt s'.graph id = 0
        ∧ mergeKeys s'.graph < fuel)
      (flatten fuel id) := by
  unfold Construct.flatten
  refine (takeMerges_clears fuel id 0 [] hfuel (.nil _) (.nil _)).bind ?_
  rintro merged s₁ ⟨h₁, hclear, hplain⟩
  refine (prepend_clears hplain hclear).mono ?_
  rintro _ s₂ ⟨h₂, hclear'⟩
  have h := h₁.trans h₂
  exact ⟨h, hclear', h.mergeKeys_le.trans_lt hfuel⟩

end Gamebook.Yaml.Construct
