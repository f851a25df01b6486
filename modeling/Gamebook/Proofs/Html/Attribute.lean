import Gamebook.Html.StartTag
import Gamebook.Proofs.Fallible
import Gamebook.Proofs.Number.Decimal
import Gamebook.Proofs.Text.Words

/-!
# Tags that cannot be read

A start tag is taken in whatever form it has, so there is no broken tag. The one thing
that can go wrong is a reference in the value of an attribute: its number is bounded. This
file follows the reader through a tag. What it takes as a value stands in the tag as it is,
and what it leaves is the end of the text; so a tag that cannot be read holds the ampersand,
the number sign and more figures than a number may have (`StartTag.read_eq_error`).
-/

namespace Gamebook.Html

/-- A reference stands in the text whose number has too many figures; `e` says how many. -/
def HoldsLongNumber (t : Text) (e : NumeralError) : Prop :=
  ∃ ds, (∀ c ∈ ds, Text.isAsciiDigit c = true) ∧ digitLimit < ds.length
    ∧ '&' :: '#' :: ds <:+: t ∧ e = .tooLongToRead ds.length

theorem HoldsLongNumber.mono {s t : Text} {e : NumeralError} (h : HoldsLongNumber s e)
    (hs : s <:+: t) : HoldsLongNumber t e := by
  obtain ⟨ds, hds, hlong, hinfix, he⟩ := h
  exact ⟨ds, hds, hlong, hinfix.trans hs, he⟩

/-! ## References in a value -/

theorem takeNumber?_eq_error {t : Text} {e : NumeralError} {n : Nat}
    (h : takeNumber? t = some (.error e, n)) : HoldsLongNumber ('&' :: t) e := by
  unfold takeNumber? at h
  split at h
  · rename_i x rest
    split at h
    · -- a number to base sixteen has no bound
      dsimp only at h
      split at h <;> exact absurd h (by simp)
    · dsimp only at h
      split at h
      · exact absurd h (by simp)
      · injection h with h
        injection h with hread _
        obtain ⟨hlong, he⟩ := Number.read_eq_error_iff.mp hread
        refine ⟨_, fun c hc => List.mem_takeWhile_imp hc, hlong, ?_, he⟩
        have hprefix := List.takeWhile_prefix Text.isAsciiDigit (l := x :: rest)
        exact (List.cons_prefix_cons.mpr ⟨rfl, List.cons_prefix_cons.mpr ⟨rfl, hprefix⟩⟩).isInfix
  · exact absurd h (by simp)

theorem takeReference?_eq_error {t : Text} {e : NumeralError} (h : takeReference? t = .error e) :
    HoldsLongNumber ('&' :: t) e := by
  unfold takeReference? at h
  split at h
  · rename_i e' n hnumber
    injection h with h
    subst h
    exact takeNumber?_eq_error hnumber
  · exact absurd h (by simp)
  · dsimp only at h
    split at h <;> exact absurd h (by simp)

theorem unescapeFrom_eq_error {skip : Nat} {t : Text} {e : NumeralError}
    (h : unescapeFrom skip t = .error e) : HoldsLongNumber t e := by
  induction t generalizing skip with
  | nil => cases skip <;> exact absurd h (by simp [unescapeFrom])
  | cons c t ih =>
      have later {skip : Nat} (h : unescapeFrom skip t = .error e) : HoldsLongNumber (c :: t) e :=
        (ih h).mono (List.suffix_cons c t).isInfix
      have mapped {f : Text → Text} {skip : Nat} (h : (unescapeFrom skip t).map f = .error e) :
          HoldsLongNumber (c :: t) e :=
        later (Fallible.map_eq_error_iff.mp h)
      cases skip with
      | succ skip => exact later h
      | zero =>
          rw [unescapeFrom] at h
          split at h
          · rename_i hc
            obtain rfl := beq_iff_eq.mp hc
            split at h
            · rename_i hreference
              injection h with h
              subst h
              exact takeReference?_eq_error hreference
            · exact mapped h
            · exact mapped h
          · exact mapped h

theorem readValues_eq_error {as : List (Text × Option Text)} {e : NumeralError}
    (h : readValues as = .error e) : ∃ a ∈ as, HoldsLongNumber (a.2.getD []) e := by
  induction as with
  | nil => exact absurd h (by simp [readValues])
  | cons a as ih =>
      obtain ⟨name, value⟩ := a
      rw [readValues] at h
      rcases Fallible.bind_eq_error_iff.mp h with hvalue | ⟨v, -, h⟩
      · exact ⟨(name, value), by simp, unescapeFrom_eq_error hvalue⟩
      · rcases Fallible.bind_eq_error_iff.mp h with hrest | ⟨vs, -, h⟩
        · obtain ⟨a, ha, hlong⟩ := ih hrest
          exact ⟨a, List.mem_cons_of_mem _ ha, hlong⟩
        · exact absurd h (by simp [pure, Except.pure])

/-! ## What a tag leaves -/

theorem dropGaps_suffix (keepEnd : Bool) (before : Char) (t : Text) :
    (dropGaps keepEnd before t).2 <:+ t := by
  induction t generalizing before with
  | nil => exact List.suffix_rfl
  | cons c t ih =>
      rw [dropGaps]
      split
      · exact (ih c).trans (List.suffix_cons c t)
      · split
        · exact (ih c).trans (List.suffix_cons c t)
        · exact List.suffix_rfl

/-- A value stands in the text as it is, and what is left follows it. -/
theorem takeQuoted?_within {t value after : Text} (h : takeQuoted? t = some (value, after)) :
    value <:+: t ∧ after <:+ t := by
  unfold takeQuoted? at h
  split at h
  · rename_i q rest
    split at h
    · split at h
      · rename_i found c tail hspan
        injection h with h
        injection h with h1 h2
        subst h1 h2
        obtain ⟨rfl, -⟩ := Text.eq_append_of_span hspan
        exact ⟨⟨[q], c :: tail, rfl⟩, ⟨q :: found ++ [c], by simp⟩⟩
      · exact absurd h (by simp)
    · exact absurd h (by simp)
  · exact absurd h (by simp)

theorem takeBare_append (rules : TagRules) (t : Text) :
    (takeBare rules t).1 ++ (takeBare rules t).2 = t :=
  (Text.eq_append_of_span rfl).1.symm

theorem takeBare_within (rules : TagRules) (t : Text) :
    (takeBare rules t).1 <:+: t ∧ (takeBare rules t).2 <:+ t := by
  have happend := takeBare_append rules t
  constructor
  · conv_rhs => rw [← happend]
    exact (List.prefix_append ..).isInfix
  · conv_rhs => rw [← happend]
    exact List.suffix_append ..

theorem takeValue?_within {rules : TagRules} {t value after : Text} {last : Char}
    (h : takeValue? rules t = some (value, last, after)) : value <:+: t ∧ after <:+ t := by
  unfold takeValue? at h
  split at h
  · exact absurd h (by simp)
  · rename_i signs rest hne hspan
    obtain ⟨hsigns, hequals⟩ := Text.eq_append_of_span hspan
    have hafterSigns : signs ++ rest <:+ t := by
      rw [← hsigns]
      exact List.dropWhile_suffix Text.isBlank
    have hrest : rest <:+ t := (List.suffix_append signs rest).trans hafterSigns
    have hhere : rest.dropWhile Text.isBlank <:+ t := (List.dropWhile_suffix _).trans hrest
    have hbare {start : Text} (hstart : start <:+ t) (hvalue : (takeBare rules start).1 = value)
        (hafter : (takeBare rules start).2 = after) : value <:+: t ∧ after <:+ t := by
      obtain ⟨h1, h2⟩ := takeBare_within rules start
      rw [← hvalue, ← hafter]
      exact ⟨h1.trans hstart.isInfix, h2.trans hstart⟩
    dsimp only at h
    split at h
    · rename_i v rest' hquoted
      simp only [Option.some.injEq, Prod.mk.injEq] at h
      obtain ⟨rfl, -, rfl⟩ := h
      obtain ⟨hvalue, hafter⟩ := takeQuoted?_within hquoted
      exact ⟨hvalue.trans hhere.isInfix, hafter.trans hhere⟩
    · split at h
      · split at h
        · simp only [Option.some.injEq, Prod.mk.injEq] at h
          obtain ⟨rfl, -, rfl⟩ := h
          exact ⟨List.nil_infix, (List.drop_suffix _ _).trans hrest⟩
        · rename_i hblanks
          split at h
          · -- the value begins with the last of the signs, and no blank stands behind that
            simp only [Option.some.injEq, Prod.mk.injEq] at h
            refine hbare (List.IsSuffix.trans ?_ hafterSigns) h.1 h.2.2
            have hnone : rest.takeWhile Text.isBlank = [] := by simpa using hblanks
            have hsame : rest.dropWhile Text.isBlank = rest := by
              have happend := @List.takeWhile_append_dropWhile _ Text.isBlank rest
              rwa [hnone, List.nil_append] at happend
            obtain ⟨before, c, rfl⟩ : ∃ before c, signs = before ++ [c] :=
              ⟨_, _, (List.dropLast_append_getLast hne).symm⟩
            obtain rfl := beq_iff_eq.mp (hequals c (by simp))
            rw [hsame, List.append_assoc]
            exact List.suffix_append before ('=' :: rest)
          · exact absurd h (by simp)
      · simp only [Option.some.injEq, Prod.mk.injEq] at h
        exact hbare hhere h.1 h.2.2

/-- Every value stands in the text as it is, and what is left follows the attributes. -/
theorem takeAttributes_within (rules : TagRules) (fuel : Nat) (before : Char) (t : Text) :
    (∀ a ∈ (takeAttributes rules false fuel before t).1, a.2.getD [] <:+: t)
      ∧ (takeAttributes rules false fuel before t).2 <:+ t := by
  induction fuel generalizing before t with
  | zero => exact ⟨by simp [takeAttributes], List.suffix_rfl⟩
  | succ fuel ih =>
      unfold takeAttributes
      split
      · exact ⟨by simp, List.suffix_rfl⟩
      · rename_i c rest
        split
        · exact ⟨by simp, List.suffix_rfl⟩
        · have next (more : Text) {value : Option Text} (last : Char) {after : Text}
              (hvalue : value.getD [] <:+: c :: rest) (hafter : after <:+ c :: rest) :
              let r := takeAttributes rules false fuel (dropGaps true last after).1
                (dropGaps true last after).2
              (∀ a ∈ (c :: more, value) :: r.1, a.2.getD [] <:+: c :: rest)
                ∧ r.2 <:+ c :: rest := by
            have hgap := (dropGaps_suffix true last after).trans hafter
            obtain ⟨hvalues, hleft⟩ := ih (dropGaps true last after).1 (dropGaps true last after).2
            refine ⟨fun a ha => ?_, hleft.trans hgap⟩
            rcases List.mem_cons.mp ha with rfl | ha
            · exact hvalue
            · exact (hvalues a ha).trans hgap.isInfix
          generalize hspan : rest.span _ = parts
          obtain ⟨more, afterName⟩ := parts
          have hafterName : afterName <:+ c :: rest := by
            rw [(Text.eq_append_of_span hspan).1]
            exact (List.suffix_append more afterName).trans (List.suffix_cons c _)
          dsimp only
          cases hvalue : takeValue? rules afterName with
          | none => exact next more (lastOr c more) List.nil_infix hafterName
          | some r =>
              obtain ⟨v, last, after⟩ := r
              obtain ⟨hv, hafter⟩ := takeValue?_within hvalue
              exact next more last (hv.trans hafterName.isInfix) (hafter.trans hafterName)

/-- What is left of the text after a reading that came to an end. -/
def TagReading.rest? : TagReading → Option Text
  | .tag _ rest => some rest
  | .junk rest => some rest
  | .incomplete => none

/-- A reading came to a place in the text, or it met a reference whose number is too long. -/
def ReadWithin (t : Text) : Except NumeralError TagReading → Prop
  | .error e => HoldsLongNumber t e
  | .ok r => ∀ rest ∈ r.rest?, rest <:+ t

/-- The end of a tag, where the values of its attributes are read. -/
theorem readWithin_closed {t name mark rest : Text} {attributes : List (Text × Option Text)}
    (hvalues : ∀ a ∈ attributes, a.2.getD [] <:+: t) (hrest : rest <:+ t) :
    ReadWithin t (if mark == ['>'] || mark == "/>".toList then do
        let values ← readValues attributes
        return .tag ⟨Text.lower name, values, mark == "/>".toList⟩ rest
      else return .junk rest) := by
  have hleft {r : TagReading} (hr : r.rest? = some rest) : ReadWithin t (.ok r) := by
    intro left hmem
    rw [hr] at hmem
    exact Option.some.inj hmem ▸ hrest
  split
  · cases hread : readValues attributes with
    | error e =>
        obtain ⟨a, ha, hlong⟩ := readValues_eq_error hread
        exact hlong.mono (hvalues a ha)
    | ok values => exact hleft rfl
  · exact hleft rfl

/-- **A start tag that cannot be read holds a reference whose number is too long.** -/
theorem StartTag.read_within (rules : TagRules) (t : Text) :
    ReadWithin t (StartTag.read rules false t) := by
  unfold StartTag.read
  generalize hspan : t.span _ = parts
  obtain ⟨name, afterName⟩ := parts
  have hafterName : afterName <:+ t := by
    rw [(Text.eq_append_of_span hspan).1]
    exact List.suffix_append name afterName
  dsimp only
  generalize hgaps : dropGaps true (lastOr '<' name) afterName = gaps
  obtain ⟨last, gapEnd⟩ := gaps
  have hgapEnd : gapEnd <:+ t := by
    have hsuffix := dropGaps_suffix true (lastOr '<' name) afterName
    rw [hgaps] at hsuffix
    exact hsuffix.trans hafterName
  dsimp only
  generalize hattributes : takeAttributes rules false t.length last gapEnd = taken
  obtain ⟨attributes, afterAttributes⟩ := taken
  have hwithin := takeAttributes_within rules t.length last gapEnd
  rw [hattributes] at hwithin
  obtain ⟨hvalues, hafterAttributes⟩ := hwithin
  have hvalues : ∀ a ∈ attributes, a.2.getD [] <:+: t :=
    fun a ha => (hvalues a ha).trans hgapEnd.isInfix
  -- wherever the end of the tag is looked for, it is looked for in the text
  have hending : (if attributes.isEmpty then (dropGaps false last gapEnd).2
      else afterAttributes.dropWhile Text.isBlank) <:+ t := by
    split
    · exact (dropGaps_suffix false last gapEnd).trans hgapEnd
    · exact (List.dropWhile_suffix _).trans (hafterAttributes.trans hgapEnd)
  dsimp only
  generalize (if attributes.isEmpty then (dropGaps false last gapEnd).2
      else afterAttributes.dropWhile Text.isBlank) = ending at hending ⊢
  split
  · exact fun rest hrest => absurd hrest (by simp [TagReading.rest?])
  · rename_i rest
    exact readWithin_closed hvalues ((List.suffix_cons '>' rest).trans hending)
  · rename_i rest
    exact readWithin_closed hvalues ((List.suffix_append ['/', '>'] rest).trans hending)
  · split
    · exact fun rest hrest => absurd hrest (by simp [TagReading.rest?])
    · exact fun rest hrest => Option.some.inj hrest ▸ hending

end Gamebook.Html
