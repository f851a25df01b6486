import Gamebook.Proofs.Html.Fragment

/-!
# A written forest is read back

`parse` undoes the writing of a forest, but for one thing that no reader can know: where
the writer had cut a text in two. So a forest is read back with its texts *regrouped*:
neighbouring texts are one, a text without characters is none, and one of nothing but blanks is
folded into a single blank.

`regroup` does this for any way to write out a stretch of text, with the characters since
the last element carried along as `u`. The highlighting of dice goes over a forest in the
same way, so the two share the induction.
-/

namespace Gamebook.Html

open Text (Piece)

/-- What holds of the empty forest and is kept when a text or an element is put in front holds of
all forests. -/
theorem Node.forest_induction {P : List Node → Prop} (nil : P [])
    (text : ∀ t ns, P ns → P (.text t :: ns))
    (element : ∀ name as cs ns, P cs → P ns → P (.element name as cs :: ns)) (ns : List Node) :
    P ns := by
  -- of one node the recursor is told what it may be put in front of
  refine @Node.rec_1 (fun n => ∀ ns, P ns → P (n :: ns)) P ?_ ?_ nil ?_ ns
  · exact fun name as cs hcs ns hns => element name as cs ns hcs hns
  · exact fun t ns hns => text t ns hns
  · exact fun n ns hn hns => hn ns hns

/-- The pieces of a forest. -/
def piecesOf : List Node → List (Piece Tag)
  | [] => []
  | .text t :: ns => t.map .plain ++ piecesOf ns
  | .element name as cs :: ns =>
    .found (.start name as) :: (piecesOf cs ++ .found (.stop name) :: piecesOf ns)

/-- Whether a forest is read back: its texts are plain and its elements ordinary. -/
def AreReadable : List Node → Prop
  | [] => True
  | .text t :: ns => IsPlainText t ∧ AreReadable ns
  | .element name as cs :: ns => IsOrdinary name as ∧ AreReadable cs ∧ AreReadable ns

/-- Whether all elements of a forest are ordinary. -/
def AreOrdinary : List Node → Prop
  | [] => True
  | .text _ :: ns => AreOrdinary ns
  | .element name as cs :: ns => IsOrdinary name as ∧ AreOrdinary cs ∧ AreOrdinary ns

/-- A forest with each stretch of text, that from `u` on included, written out by `f`. -/
def regroup (f : Text → List Node) (u : Text) : List Node → List Node
  | [] => f u
  | .text t :: ns => regroup f (u ++ t) ns
  | .element name as cs :: ns => f u ++ .element name as (regroup f [] cs) :: regroup f [] ns

/-- The node of a stretch of text; an empty one has none. -/
def textNodes (t : Text) : List Node := if t = [] then [] else [.text (foldBlanks t)]

/-- A forest as it is read back. -/
def merged (ns : List Node) : List Node := regroup textNodes [] ns

/-! ## Putting forests together -/

theorem piecesOf_append (ns ms : List Node) : piecesOf (ns ++ ms) = piecesOf ns ++ piecesOf ms := by
  induction ns using Node.forest_induction with
  | nil => rw [piecesOf]; rfl
  | text t ns ih => rw [List.cons_append, piecesOf, piecesOf, ih, List.append_assoc]
  | element name as cs ns _ ih =>
      rw [List.cons_append, piecesOf, piecesOf, ih]
      simp only [List.cons_append, List.append_assoc]

theorem areReadable_nil : AreReadable [] := by
  rw [AreReadable]
  trivial

theorem areReadable_append (ns ms : List Node) :
    AreReadable (ns ++ ms) ↔ AreReadable ns ∧ AreReadable ms := by
  induction ns using Node.forest_induction with
  | nil => rw [AreReadable, true_and]; rfl
  | text t ns ih => rw [List.cons_append, AreReadable, AreReadable, ih, and_assoc]
  | element name as cs ns _ ih =>
      rw [List.cons_append, AreReadable, AreReadable, ih, and_assoc, and_assoc]

theorem areOrdinary_append (ns ms : List Node) :
    AreOrdinary (ns ++ ms) ↔ AreOrdinary ns ∧ AreOrdinary ms := by
  induction ns using Node.forest_induction with
  | nil => rw [AreOrdinary, true_and]; rfl
  | text t ns ih => rw [List.cons_append, AreOrdinary, AreOrdinary, ih]
  | element name as cs ns _ ih =>
      rw [List.cons_append, AreOrdinary, AreOrdinary, ih, and_assoc, and_assoc]

theorem AreReadable.areOrdinary {ns : List Node} (h : AreReadable ns) : AreOrdinary ns := by
  induction ns using Node.forest_induction with
  | nil =>
      rw [AreOrdinary]
      trivial
  | text t ns ih =>
      rw [AreReadable] at h
      rw [AreOrdinary]
      exact ih h.2
  | element name as cs ns ihcs ihns =>
      rw [AreReadable] at h
      rw [AreOrdinary]
      exact ⟨h.1, ihcs h.2.1, ihns h.2.2⟩

theorem isOrdinary_of_mem_piecesOf {ns : List Node} (h : AreOrdinary ns) {tag : Tag}
    (htag : .found tag ∈ piecesOf ns) : tag.IsOrdinary := by
  induction ns using Node.forest_induction with
  | nil =>
      rw [piecesOf] at htag
      exact absurd htag List.not_mem_nil
  | text t ns ih =>
      rw [AreOrdinary] at h
      rw [piecesOf] at htag
      rcases List.mem_append.mp htag with htag | htag
      · exact absurd htag (by simp)
      · exact ih h htag
  | element name as cs ns ihcs ihns =>
      rw [AreOrdinary] at h
      rw [piecesOf, List.mem_cons, List.mem_append, List.mem_cons] at htag
      rcases htag with htag | htag | htag | htag
      · injection htag with htag
        exact htag ▸ h.1
      · exact ihcs h.2.1 htag
      · injection htag with htag
        exact htag ▸ h.1.named
      · exact ihns h.2.2 htag

theorem isPlain_of_mem_piecesOf {ns : List Node} (h : AreReadable ns) {c : Char}
    (hc : .plain c ∈ piecesOf ns) : isPlain c = true := by
  induction ns using Node.forest_induction with
  | nil =>
      rw [piecesOf] at hc
      exact absurd hc List.not_mem_nil
  | text t ns ih =>
      rw [AreReadable] at h
      rw [piecesOf] at hc
      rcases List.mem_append.mp hc with hc | hc
      · obtain ⟨d, hd, he⟩ := List.mem_map.mp hc
        injection he with he
        exact he ▸ h.1 d hd
      · exact ih h.2 hc
  | element name as cs ns ihcs ihns =>
      rw [AreReadable] at h
      rw [piecesOf, List.mem_cons, List.mem_append, List.mem_cons] at hc
      rcases hc with hc | hc | hc | hc
      · exact absurd hc (by simp)
      · exact ihcs h.2.1 hc
      · exact absurd hc (by simp)
      · exact ihns h.2.2 hc

theorem isReadable_of_mem_piecesOf {ns : List Node} (h : AreReadable ns) :
    ∀ p ∈ piecesOf ns, IsReadable p := by
  intro p hp
  cases p with
  | plain c => exact isPlain_of_mem_piecesOf h hp
  | found tag => exact isOrdinary_of_mem_piecesOf h.areOrdinary hp

theorem areReadable_flatMap {α : Type} {f : α → List Node} {xs : List α}
    (h : ∀ x ∈ xs, AreReadable (f x)) : AreReadable (xs.flatMap f) := by
  induction xs with
  | nil =>
      rw [List.flatMap_nil]
      exact areReadable_nil
  | cons x xs ih =>
      rw [List.flatMap_cons, areReadable_append]
      exact ⟨h x (by simp), ih fun y hy => h y (by simp [hy])⟩

theorem write_text (t : Text) (ns : List Node) :
    write (piecesOf (.text t :: ns)) = t ++ write (piecesOf ns) := by
  rw [piecesOf, write_append]
  exact congrArg (· ++ write (piecesOf ns)) (Piece.render_plain Tag.write t)

theorem write_nil : write (piecesOf []) = [] := by
  rw [piecesOf]
  rfl

theorem write_element (name : Text) (as : List (Text × Text)) (cs ns : List Node) :
    write (piecesOf (.element name as cs :: ns))
      = (Tag.start name as).write ++ (write (piecesOf cs)
        ++ ((Tag.stop name).write ++ write (piecesOf ns))) := by
  rw [piecesOf, write_found, write_append, write_found]

theorem write_flatMap {α : Type} {f : α → List Node} {g : α → Text} {xs : List α}
    (h : ∀ x ∈ xs, write (piecesOf (f x)) = g x) :
    write (piecesOf (xs.flatMap f)) = xs.flatMap g := by
  induction xs with
  | nil => exact write_nil
  | cons x xs ih =>
      rw [List.flatMap_cons, piecesOf_append, write_append, h x (by simp),
        ih fun y hy => h y (by simp [hy]), List.flatMap_cons]

/-! ## Building -/

namespace Builder

/-- Adds nodes to the innermost open element, the first one first. -/
def addAll (ns : List Node) (b : Builder) : Builder := ns.foldl (fun b n => b.add n) b

/-- Whether text is for readers, blanks mean nothing, and every element that was opened waits for
its end. -/
structure IsReady (b : Builder) : Prop where
  heard : b.isSilent = false
  folds : b.isVerbatim = false
  waiting : b.closedAtOnce = []

/-- The builder with an element opened. -/
def opened (name : Text) (attributes : List (Text × Text)) (b : Builder) : Builder :=
  { b with stack := ⟨name, attributes, []⟩ :: b.stack }

theorem isReady_add {b : Builder} (h : b.IsReady) (n : Node) : (b.add n).IsReady := by
  obtain ⟨stack, top, pending, closedAtOnce⟩ := b
  cases stack with
  | nil => exact ⟨h.heard, h.folds, h.waiting⟩
  | cons e rest => exact ⟨h.heard, h.folds, h.waiting⟩

theorem isReady_addAll {b : Builder} (h : b.IsReady) (ns : List Node) : (b.addAll ns).IsReady := by
  induction ns generalizing b with
  | nil => exact h
  | cons n ns ih => exact ih (isReady_add h n)

theorem addAll_append (ns ms : List Node) (b : Builder) :
    b.addAll (ns ++ ms) = (b.addAll ns).addAll ms :=
  List.foldl_append

theorem addAll_cons (n : Node) (ns : List Node) (b : Builder) :
    b.addAll (n :: ns) = (b.add n).addAll ns :=
  rfl

theorem pending_add (n : Node) (b : Builder) : (b.add n).pending = b.pending := by
  rw [add]
  split <;> rfl

theorem pending_addAll (ns : List Node) (b : Builder) : (b.addAll ns).pending = b.pending := by
  induction ns generalizing b with
  | nil => rfl
  | cons n ns ih =>
      rw [addAll_cons, ih, pending_add]

theorem addAll_of_stack_eq_nil {b : Builder} (h : b.stack = []) (ns : List Node) :
    b.addAll ns = { b with top := ns.reverse ++ b.top } := by
  induction ns generalizing b with
  | nil => rfl
  | cons n ns ih =>
      have hadd : b.add n = { b with top := n :: b.top } := by rw [add, h]
      rw [addAll_cons, hadd, @ih { b with top := n :: b.top } h, List.reverse_cons,
        List.append_assoc]
      rfl

theorem cleared_eq_self {b : Builder} (h : b.pending = []) : { b with pending := [] } = b := by
  rw [← h]

theorem closedAtOnce_endText (b : Builder) : b.endText.closedAtOnce = b.closedAtOnce := by
  unfold endText
  split
  · rfl
  · dsimp only
    split
    · rfl
    · rw [add]
      split <;> rfl

theorem addAll_opened (ns : List Node) (name : Text) (as : List (Text × Text)) (b : Builder) :
    (b.opened name as).addAll ns = { b with stack := ⟨name, as, ns.reverse⟩ :: b.stack } := by
  have hmore (cs : List Node) : ({ b with stack := ⟨name, as, cs⟩ :: b.stack } : Builder).addAll ns
      = { b with stack := ⟨name, as, ns.reverse ++ cs⟩ :: b.stack } := by
    induction ns generalizing cs with
    | nil => rfl
    | cons n ns ih =>
        rw [List.reverse_cons, List.append_assoc, ← List.singleton_append.symm, ← ih]
        rfl
  have h := hmore []
  rwa [List.append_nil] at h

/-- Text that waits becomes a node, if there is any. -/
theorem endText_eq {b : Builder} (h : b.IsReady) :
    b.endText = ({ b with pending := [] } : Builder).addAll (textNodes b.pending) := by
  obtain ⟨stack, top, pending, closedAtOnce⟩ := b
  cases pending with
  | nil => rfl
  | cons c t =>
      have hsilent : ({ stack, top, pending := [], closedAtOnce } : Builder).isSilent = false :=
        h.heard
      have hread : ({ stack, top, pending := c :: t, closedAtOnce } : Builder).readText (c :: t)
          = foldBlanks (c :: t) := by
        rw [readText, h.folds]
        rfl
      rw [endText, if_neg (by simp)]
      dsimp only
      rw [hsilent, hread]
      rfl

/-- Attributes with different names are kept as they are. -/
theorem attributesOf_eq_self {as : List (Text × Text)} (h : (as.map Prod.fst).Nodup) :
    attributesOf as = as := by
  have hlast {name value : Text} {seen : List (Text × Text)} (hnew : name ∉ seen.map Prod.fst) :
      setAttribute name value seen = seen ++ [(name, value)] := by
    induction seen with
    | nil => rfl
    | cons a seen ih =>
        rw [List.map_cons, List.mem_cons, not_or] at hnew
        rw [setAttribute, if_neg (by simpa using Ne.symm hnew.1), ih hnew.2]
        rfl
  have hmore (as seen : List (Text × Text)) (h : ((seen ++ as).map Prod.fst).Nodup) :
      as.foldl (fun as a => setAttribute a.1 a.2 as) seen = seen ++ as := by
    induction as generalizing seen with
    | nil => rw [List.append_nil]; rfl
    | cons a as ih =>
        -- a name that was not seen goes to the end
        have hnew : a.1 ∉ seen.map Prod.fst := by
          rw [List.map_append, List.map_cons, List.nodup_append] at h
          exact fun hm => h.2.2 _ hm _ (by simp) rfl
        have hsnoc : seen ++ a :: as = (seen ++ [a]) ++ as := by simp
        rw [hsnoc] at h ⊢
        rw [List.foldl_cons, hlast hnew]
        exact ih (seen ++ [a]) h
  exact hmore as [] h

/-- A start tag opens its element behind the text that waits. -/
theorem take_start {b : Builder} (hb : b.IsReady) {name : Text} {as : List (Text × Text)}
    (h : IsOrdinary name as) :
    b.take (.found (.start name as))
      = (({ b with pending := [] } : Builder).addAll (textNodes b.pending)).opened name as := by
  have hvoid : voidElements.contains name = false := by simpa using h.holds
  rw [← endText_eq hb, take, Tag.event, step]
  dsimp only
  rw [if_neg (by simp), hvoid, if_neg (by simp), push, attributesOf_eq_self h.distinct]
  rfl

/-- An end tag makes a node of the element that was opened last, if it is of that name. -/
theorem take_stop {b outer : Builder} (hb : b.closedAtOnce = []) {name : Text}
    {as : List (Text × Text)} {cs : List Node}
    (h : b.endText = (outer.opened name as).addAll cs) :
    b.take (.found (.stop name)) = outer.add (.element name as cs) := by
  rw [addAll_opened] at h
  rw [take, Tag.event, step, endTag, hb, if_neg (by simp), closeNamed, h]
  dsimp only
  rw [List.findIdx?_cons, if_pos (beq_self_eq_true name)]
  show ({ outer with stack := outer.stack } : Builder).add (.element name as cs.reverse.reverse) = _
  rw [List.reverse_reverse]

/-- **A forest is built as it is, but for its texts.** The first of them goes on the text that
waits, and the last may wait in turn. -/
theorem foldl_take_piecesOf {ns : List Node} (hns : AreOrdinary ns) {b : Builder} (hb : b.IsReady) :
    ((piecesOf ns).foldl take b).endText
      = ({ b with pending := [] } : Builder).addAll (regroup textNodes b.pending ns) := by
  induction ns using Node.forest_induction generalizing b with
  | nil =>
      rw [piecesOf, regroup]
      exact endText_eq hb
  | text t ns ih =>
      rw [AreOrdinary] at hns
      rw [piecesOf, regroup, List.foldl_append, foldl_take_plain]
      exact ih hns ⟨hb.heard, hb.folds, hb.waiting⟩
  | element name as cs ns ihcs ihns =>
      rw [AreOrdinary] at hns
      obtain ⟨hordinary, hcs, hns⟩ := hns
      rw [piecesOf, regroup, List.foldl_cons, take_start hb hordinary, List.foldl_append,
        List.foldl_cons]
      -- `outer` is the builder at the start tag: the text that waited is a node by now
      have hready : ({ b with pending := [] } : Builder).IsReady := ⟨hb.heard, hb.folds, hb.waiting⟩
      have houter := isReady_addAll hready (textNodes b.pending)
      have hpending := pending_addAll (textNodes b.pending) { b with pending := [] }
      rw [addAll_append, addAll_cons]
      generalize ({ b with pending := [] } : Builder).addAll (textNodes b.pending) = outer
        at houter hpending ⊢
      have hinner : (outer.opened name as).IsReady := by
        have hsilent : silentElements.contains name = false := by simpa using hordinary.heard
        have hverbatim : verbatimElements.contains name = false := by simpa using hordinary.folds
        refine ⟨?_, ?_, houter.waiting⟩
        · show (silentElements.contains name || outer.isSilent) = false
          rw [hsilent, houter.heard]
          rfl
        · show (verbatimElements.contains name || outer.isVerbatim) = false
          rw [hverbatim, houter.folds]
          rfl
      have hread := ihcs hcs hinner
      rw [show (outer.opened name as).pending = [] from hpending,
        cleared_eq_self (show (outer.opened name as).pending = [] from hpending)] at hread
      have hwaiting : ((piecesOf cs).foldl take (outer.opened name as)).closedAtOnce = [] := by
        rw [← closedAtOnce_endText, hread]
        exact (isReady_addAll hinner _).waiting
      rw [take_stop hwaiting hread]
      -- behind the element nothing waits, so the rest is read as from the start
      have hrest := ihns hns (isReady_add houter (.element name as (regroup textNodes [] cs)))
      have hnone := (pending_add (.element name as (regroup textNodes [] cs)) outer).trans hpending
      rwa [hnone, cleared_eq_self hnone] at hrest

theorem finish_take_piecesOf {ns : List Node} (h : AreOrdinary ns) :
    ((piecesOf ns).foldl take empty).finish = merged ns := by
  rw [finish, foldl_take_piecesOf h ⟨rfl, rfl, rfl⟩, addAll_of_stack_eq_nil rfl]
  show ((merged ns).reverse ++ []).reverse = _
  rw [List.append_nil, List.reverse_reverse]

end Builder

/-- **A written forest is read back with its texts regrouped.** -/
theorem parse_write_piecesOf {ns : List Node} (h : AreReadable ns) :
    parse (write (piecesOf ns)) = .ok (merged ns) := by
  rw [parse_write (isReadable_of_mem_piecesOf h), Builder.finish_take_piecesOf h.areOrdinary]

end Gamebook.Html
