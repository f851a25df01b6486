import Gamebook.Annotation.Enhance
import Gamebook.Proofs.Annotation.Placeholder
import Gamebook.Proofs.Annotation.TableBlock
import Gamebook.Proofs.Html.Refusal
import Gamebook.Table.Reading

/-!
# From a narrative to its tables

A narrative is content, whatever it holds, and so is the text that is rendered from it. Yet
three of the goes over them read a number: the die in the header of a table, the number of a
placeholder, and the die on the button of a container. A number that is too long to be read
ends the whole go. This file says when that happens: exactly if such a number stands there,
and in no other case, but for what a reader of fragments refuses.
-/

namespace Gamebook

open Text (Piece scan)

/-! ## Placeholders that are too long -/

namespace Reference

theorem linkOf_eq_error_iff {terms : List Text} {ds : Text} {e : NumeralError} :
    linkOf terms ds = .error e ↔ digitLimit < ds.length ∧ e = .tooLongToRead ds.length := by
  rw [← Number.read_eq_error_iff, linkOf]
  refine Fallible.bind_eq_error_iff_of_ok fun n => ?_
  split <;> exact ⟨_, rfl⟩

/-- A narrative without brackets has no reference. -/
theorem protect_eq_self (isKnown : Text → Bool) {narrative : Text} (h : '[' ∉ narrative) :
    protect isKnown narrative = (narrative, []) := by
  have hpieces : pieces narrative = narrative.map .plain := by
    refine Text.scan_eq_map_plain forgets_recognise fun u hne hu => ?_
    cases hfind : recognise none u with
    | none => rfl
    | some r =>
        obtain ⟨-, rest, rfl⟩ := recognise_eq_some hfind
        exact absurd (hu.subset (List.mem_cons_self ..)) h
  have hplain (u : Text) : protectFrom isKnown 0 (u.map .plain) = (u, []) := by
    induction u with
    | nil => rfl
    | cons c u ih => rw [List.map_cons, protectFrom, ih]
  rw [protect, hpieces, hplain]

/-- The digits of the placeholders in a text. -/
def placeholders (t : Text) : List Text := Piece.findings (scan recognisePlaceholder t)

/-- Links are put in if there is one for each placeholder. -/
theorem materialize_eq_map (t : Text) (terms : List Text) :
    materialize t terms
      = ((placeholders t).mapM (linkOf terms)).map
        fun _ => Piece.render (shownOf terms) (scan recognisePlaceholder t) :=
  materializePieces_eq terms (scan recognisePlaceholder t)

theorem materialize_eq_error {t : Text} {terms : List Text} {e : NumeralError}
    (h : materialize t terms = .error e) :
    ∃ ds ∈ placeholders t, digitLimit < ds.length ∧ e = .tooLongToRead ds.length := by
  rw [materialize_eq_map, Fallible.map_eq_error_iff] at h
  obtain ⟨ds, hds, hl⟩ := Fallible.mapM_eq_error h
  exact ⟨ds, hds, linkOf_eq_error_iff.mp hl⟩

/-- **Links are put in exactly if the number of every placeholder can be read.** -/
theorem exists_materialize_iff {t : Text} {terms : List Text} :
    (∃ linked, materialize t terms = .ok linked)
      ↔ ∀ ds ∈ placeholders t, ds.length ≤ digitLimit := by
  rw [materialize_eq_map, Fallible.exists_map_iff, Fallible.exists_mapM_iff]
  refine forall₂_congr fun ds _ => ?_
  -- the one run of digits that a link depends on is that of its placeholder
  have hlink (e : NumeralError) : linkOf terms ds = .error e
      ↔ ∃ run, run = ds ∧ digitLimit < run.length ∧ e = .tooLongToRead run.length := by
    rw [linkOf_eq_error_iff, exists_eq_left]
  rw [Number.exists_ok_iff_short hlink, forall_eq]

end Reference

/-! ## Buttons that are too long -/

namespace Table

open Html (Node)

/-- The button of a container names a die with these digits, and the container has a table. -/
def OffersDie (container : Node) (ds : Text) : Prop :=
  ∃ button wrapper,
    (container.findAll ["button".toList]).find? (Node.hasClass "roll-table-button".toList)
      = some button
    ∧ (container.findAll ["div".toList]).find? (Node.hasClass "rollable-table".toList)
      = some wrapper
    ∧ dieDigits? ((button.attribute? "data-dice".toList).getD []) = some ds

/-- The containers of a fragment. -/
def containersOf (nodes : List Node) : List Node :=
  (Node.descendantsOf nodes).filter fun n =>
    n.isNamed ["div".toList] && n.hasClass "rollable-table-container".toList

theorem rollTable?_eq_error_iff {container : Node} {e : NumeralError} :
    rollTable? container = .error e
      ↔ ∃ ds, OffersDie container ds ∧ digitLimit < ds.length
        ∧ e = .tooLongToRead ds.length := by
  unfold rollTable?
  dsimp only
  constructor
  · intro h
    split at h
    · rename_i button wrapper hbutton hwrapper
      -- once the die is read nothing else can fail
      rcases Fallible.bind_eq_error_iff.mp h with hdie | ⟨die, -, h⟩
      · obtain ⟨ds, hds, hlong⟩ := dieSize?_eq_error_iff.mp hdie
        exact ⟨ds, ⟨button, wrapper, hbutton, hwrapper, hds⟩, hlong⟩
      · split at h <;> exact absurd h (by simp [pure, Except.pure])
    · exact absurd h (by simp [pure, Except.pure])
  · rintro ⟨ds, ⟨button, wrapper, hbutton, hwrapper, hds⟩, hlong⟩
    rw [hbutton, hwrapper]
    exact Fallible.bind_eq_error_iff.mpr (.inl (dieSize?_eq_error_iff.mpr ⟨ds, hds, hlong⟩))

theorem rollTablesIn_eq_mapM (containers : List Node) :
    rollTablesIn containers
      = (containers.mapM rollTable?).map fun found => found.flatMap Option.toList := by
  induction containers with
  | nil => rfl
  | cons c cs ih =>
      rw [rollTablesIn, ih, List.mapM_cons]
      cases rollTable? c with
      | error e => rfl
      | ok found => cases cs.mapM rollTable? <;> rfl

/-- The tables of a fragment are those of its containers. -/
theorem rollTablesOf_eq_bind (fragment : Text) :
    rollTablesOf fragment
      = Html.parse fragment >>= fun nodes =>
        (((containersOf nodes).mapM rollTable?).mapError Html.HtmlError.numeral).map
          fun found => found.flatMap Option.toList := by
  rw [rollTablesOf]
  cases Html.parse fragment with
  | error e => rfl
  | ok nodes =>
      have htables := rollTablesIn_eq_mapM (containersOf nodes)
      dsimp only [bind, Except.bind]
      rw [← containersOf, htables]
      cases (containersOf nodes).mapM rollTable? <;> rfl

theorem rollTablesOf_eq_error {fragment : Text} {e : Html.HtmlError}
    (h : rollTablesOf fragment = .error e) :
    Html.Refuses fragment e ∨ ∃ n, digitLimit < n ∧ e = .numeral (.tooLongToRead n) := by
  rw [rollTablesOf_eq_bind] at h
  rcases Fallible.bind_eq_error_iff.mp h with hparse | ⟨nodes, -, h⟩
  · exact .inl (Html.refuses_of_parse hparse)
  · obtain ⟨e', hfound, rfl⟩ :=
      Fallible.mapError_eq_error_iff.mp (Fallible.map_eq_error_iff.mp h)
    obtain ⟨c, _, herror⟩ := Fallible.mapM_eq_error hfound
    obtain ⟨ds, -, hlong, rfl⟩ := rollTable?_eq_error_iff.mp herror
    exact .inr ⟨ds.length, hlong, rfl⟩

/-- **Tables are collected exactly if the fragment and every die that is offered in it can be
read.** -/
theorem exists_rollTablesOf_iff {fragment : Text} :
    (∃ tables, rollTablesOf fragment = .ok tables)
      ↔ ∃ nodes, Html.parse fragment = .ok nodes
        ∧ ∀ c ∈ containersOf nodes, ∀ ds, OffersDie c ds → ds.length ≤ digitLimit := by
  rw [rollTablesOf_eq_bind, Fallible.exists_bind_iff]
  refine exists_congr fun nodes => and_congr_right fun _ => ?_
  simp only [Fallible.exists_map_iff, Fallible.mapError_eq_ok_iff, Fallible.exists_mapM_iff]
  refine forall₂_congr fun c _ => ?_
  exact Number.exists_ok_iff_short fun e => rollTable?_eq_error_iff

end Table

/-! ## The whole way -/

/-- A rendering that always gives a text. -/
def renderBy (f : Text → Text) : Renderer := fun t => .ok (f t)

namespace MarkedNarrative

theorem ofNarrative_eq_map (isKnown : Text → Bool) (narrative : Text) :
    ofNarrative isKnown narrative
      = (TableBlock.tagTables (Reference.protect isKnown narrative).1).map fun text =>
        ⟨text, (Reference.protect isKnown narrative).2⟩ := by
  unfold ofNarrative
  generalize Reference.protect isKnown narrative = marked
  obtain ⟨text, terms⟩ := marked
  dsimp only
  cases TableBlock.tagTables text <;> rfl

theorem exists_ofNarrative_iff {isKnown : Text → Bool} {narrative : Text} :
    (∃ m, ofNarrative isKnown narrative = .ok m)
      ↔ ∀ ds, TableBlock.NamesDie (Reference.protect isKnown narrative).1 ds →
          ds.length ≤ digitLimit := by
  rw [ofNarrative_eq_map, Fallible.exists_map_iff, TableBlock.exists_tagTables_iff]

theorem materialize_eq_map (rendered idStem : Text) (m : MarkedNarrative) :
    m.materialize rendered idStem
      = (Reference.materialize rendered m.terms).map fun linked =>
        DiceSpan.mark (TableRegion.materialize linked idStem) := by
  unfold materialize
  cases Reference.materialize rendered m.terms <;> rfl

end MarkedNarrative

theorem enhance_eq_bind (f : Text → Text) (isKnown : Text → Bool) (idStem narrative : Text) :
    enhance (renderBy f) isKnown idStem narrative
      = (MarkedNarrative.ofNarrative isKnown narrative).mapError EnhanceError.numeral >>= fun m =>
        (m.materialize (f m.text) idStem).mapError EnhanceError.numeral := rfl

/-- **A narrative is enhanced exactly if the dice of its headers and the numbers of its
placeholders can be read.** -/
theorem exists_enhance_iff {f : Text → Text} {isKnown : Text → Bool} {idStem narrative : Text} :
    (∃ html, enhance (renderBy f) isKnown idStem narrative = .ok html)
      ↔ (∀ ds, TableBlock.NamesDie (Reference.protect isKnown narrative).1 ds →
            ds.length ≤ digitLimit)
        ∧ ∀ m, MarkedNarrative.ofNarrative isKnown narrative = .ok m →
            ∀ ds ∈ Reference.placeholders (f m.text), ds.length ≤ digitLimit := by
  rw [enhance_eq_bind, Fallible.exists_bind_iff, ← MarkedNarrative.exists_ofNarrative_iff]
  simp only [Fallible.mapError_eq_ok_iff, MarkedNarrative.materialize_eq_map,
    Fallible.exists_map_iff, Reference.exists_materialize_iff]
  constructor
  · rintro ⟨m, hm, hplaceholders⟩
    refine ⟨⟨m, hm⟩, fun m' hm' => ?_⟩
    obtain rfl := Except.ok.inj (hm.symm.trans hm')
    exact hplaceholders
  · rintro ⟨⟨m, hm⟩, hplaceholders⟩
    exact ⟨m, hm, hplaceholders m hm⟩

theorem enhance_eq_error {f : Text → Text} {isKnown : Text → Bool} {idStem narrative : Text}
    {e : EnhanceError} (h : enhance (renderBy f) isKnown idStem narrative = .error e) :
    ∃ n, digitLimit < n ∧ e = .numeral (.tooLongToRead n) := by
  rw [enhance_eq_bind] at h
  -- it is the marking that fails, or the putting in of links
  rcases Fallible.bind_eq_error_iff.mp h with h | ⟨m, -, h⟩
  · obtain ⟨e', hmarked, rfl⟩ := Fallible.mapError_eq_error_iff.mp h
    rw [MarkedNarrative.ofNarrative_eq_map, Fallible.map_eq_error_iff] at hmarked
    obtain ⟨ds, -, hlong, rfl⟩ := TableBlock.tagTables_eq_error hmarked
    exact ⟨ds.length, hlong, rfl⟩
  · obtain ⟨e', hlinked, rfl⟩ := Fallible.mapError_eq_error_iff.mp h
    rw [MarkedNarrative.materialize_eq_map, Fallible.map_eq_error_iff] at hlinked
    obtain ⟨ds, -, hlong, rfl⟩ := Reference.materialize_eq_error hlinked
    exact ⟨ds.length, hlong, rfl⟩

/--
**What can fail between a narrative and its tables.**

With a rendering that always gives a text, a narrative is enhanced exactly if the die in the
header of each of its tables and the number of each placeholder in its rendered text can be read,
and the only error is such a number. The tables of any fragment are collected exactly if the
fragment is read and so is the die on each of its buttons; what is refused otherwise is such a
die, or the fragment holds a reference whose number is too long or a marked section that is not
known.
-/
theorem enhance_outcome (f : Text → Text) (isKnown : Text → Bool) (idStem narrative : Text) :
    ((∃ html, enhance (renderBy f) isKnown idStem narrative = .ok html)
      ↔ (∀ ds, TableBlock.NamesDie (Reference.protect isKnown narrative).1 ds →
            ds.length ≤ digitLimit)
        ∧ ∀ m, MarkedNarrative.ofNarrative isKnown narrative = .ok m →
            ∀ ds ∈ Reference.placeholders (f m.text), ds.length ≤ digitLimit)
    ∧ (∀ e, enhance (renderBy f) isKnown idStem narrative = .error e →
        ∃ n, digitLimit < n ∧ e = .numeral (.tooLongToRead n))
    ∧ ∀ fragment,
        ((∃ tables, Table.rollTablesOf fragment = .ok tables)
          ↔ ∃ nodes, Html.parse fragment = .ok nodes
            ∧ ∀ c ∈ Table.containersOf nodes, ∀ ds, Table.OffersDie c ds →
                ds.length ≤ digitLimit)
        ∧ ∀ e, Table.rollTablesOf fragment = .error e →
            Html.Refuses fragment e ∨ ∃ n, digitLimit < n ∧ e = .numeral (.tooLongToRead n) := by
  refine ⟨exists_enhance_iff, fun e he => enhance_eq_error he, fun fragment => ⟨?_, ?_⟩⟩
  · exact Table.exists_rollTablesOf_iff
  · exact fun e he => Table.rollTablesOf_eq_error he

/-- A narrative that is one placeholder, whose number has a figure too many, is not enhanced. -/
theorem not_enhanced_longPlaceholder :
    ¬∃ html, enhance (renderBy id) (fun _ => false) "table".toList
      (Reference.placeholderOf (List.replicate (digitLimit + 1) '1')) = .ok html := by
  have hds : Reference.IsDigits (List.replicate (digitLimit + 1) '1') := by
    refine ⟨by simp [List.replicate_succ], fun c hc => ?_⟩
    rw [List.eq_of_mem_replicate hc]
    decide
  have hlength : (List.replicate (digitLimit + 1) '1').length = digitLimit + 1 :=
    List.length_replicate
  generalize List.replicate (digitLimit + 1) '1' = ds at hds hlength ⊢
  intro henhanced
  -- neither reference nor table stands in the narrative, so it is rendered as it is
  have hprotect : Reference.protect (fun _ => false) (Reference.placeholderOf ds)
      = (Reference.placeholderOf ds, []) :=
    Reference.protect_eq_self _ (Reference.not_mem_placeholderOf hds (by decide) (by decide))
  have hmarked : MarkedNarrative.ofNarrative (fun _ => false) (Reference.placeholderOf ds)
      = .ok ⟨Reference.placeholderOf ds, []⟩ := by
    rw [MarkedNarrative.ofNarrative_eq_map, hprotect, TableBlock.tagTables_eq_self
      (Reference.not_mem_placeholderOf hds (by decide) (by decide))]
    rfl
  have hfound : ds ∈ Reference.placeholders (Reference.placeholderOf ds) := by
    have hscan := (Reference.IsCut.placeholder hds .done).scan
    have hrender : Piece.render Reference.placeholderOf [.found ds]
        = Reference.placeholderOf ds := List.append_nil _
    rw [hrender] at hscan
    rw [Reference.placeholders, hscan]
    exact List.mem_singleton.mpr rfl
  have hshort := (exists_enhance_iff.mp henhanced).2 _ hmarked ds hfound
  omega

end Gamebook
