import Gamebook.Proofs.Annotation.Reference

/-!
# References that are left

The references of a narrative are looked for once, from the left. A reference to an unknown term
loses its brackets, and nothing looks at the text that is put together by this. `protect_again` says
for which terms that is harmless: those that are not empty and have no two opening brackets side by
side, counting one behind them. If the unknown terms of a narrative are like that, then no reference
is left, to whatever term. For every other term there is a narrative in which it is the only unknown
one, and the text has a reference to a known term in the end.

The proof follows the pieces of the narrative. Two opening brackets of the text are then two
characters of the narrative that stood side by side and were passed over. Between them and the next
end of a reference in the text lies another end in the narrative
(`exists_closing_of_protectFrom`), so a reference would have begun there.
-/

namespace Gamebook.Reference

open Text (Piece scan)

/-- The terms of the references that are not known, in order. -/
def unknownTerms (isKnown : Text → Bool) (ps : List (Piece Text)) : List Text :=
  ((Piece.findings ps).map Text.trim).filter fun x => !isKnown x

/-- Without its brackets a term does not begin a reference: there is something of it, and no two
opening brackets stand side by side in it or at its end. -/
structure BeginsNone (x : Text) : Prop where
  ne_nil : x ≠ []
  noBrackets : ¬['[', '['] <:+: x ++ ['[']

variable {isKnown : Text → Bool} {t x content rest : Text} {ps : List (Piece Text)} {next : Nat}

theorem unknownTerms_found (isKnown : Text → Bool) (content : Text) (ps : List (Piece Text)) :
    unknownTerms isKnown (.found content :: ps)
      = if isKnown (Text.trim content) then unknownTerms isKnown ps
        else Text.trim content :: unknownTerms isKnown ps := by
  show List.filter _ (Text.trim content :: (Piece.findings ps).map Text.trim) = _
  rw [List.filter_cons]
  cases isKnown (Text.trim content) <;> rfl

/-! ## What is written for a reference -/

/-- What is written for a reference: the placeholder of its term, or the term. -/
def replacement (isKnown : Text → Bool) (next : Nat) (content : Text) : Text :=
  if isKnown (Text.trim content) then placeholder next else Text.trim content

/-- The text for a narrative begins with what is written for its first reference. -/
theorem protectFrom_found (isKnown : Text → Bool) (next : Nat) (content : Text)
    (ps : List (Piece Text)) :
    ∃ later, (protectFrom isKnown next (.found content :: ps)).1
      = replacement isKnown next content ++ (protectFrom isKnown later ps).1 := by
  rw [protectFrom, replacement]
  cases isKnown (Text.trim content) with
  | true => exact ⟨next + 1, rfl⟩
  | false => exact ⟨next, rfl⟩

theorem not_mem_placeholder {c : Char} (hdigit : Text.isDigit c = false)
    (hfixed : c ∉ opening ++ closing) (n : Nat) : c ∉ placeholder n := by
  have hnumber : c ∉ Number.writeNat n := fun hm => by
    rw [Number.isDigit_of_mem_writeNat hm] at hdigit
    exact absurd hdigit (by decide)
  simp only [placeholder, List.mem_append, not_or] at hfixed ⊢
  exact ⟨⟨hfixed.1, hnumber⟩, hfixed.2⟩

theorem not_mem_replacement (h : IsContent content) : ']' ∉ replacement isKnown next content := by
  rw [replacement]
  split
  · exact not_mem_placeholder (by decide) (by decide) next
  · exact fun hm => h.2 (Text.mem_of_mem_trim hm)

theorem replacement_ne_nil (h : ¬isKnown (Text.trim content) → Text.trim content ≠ []) :
    replacement isKnown next content ≠ [] := by
  rw [replacement]
  split
  · exact placeholder_ne_nil next
  · rename_i hk
    exact h hk

theorem of_mem_unknownTerms_found {P : Text → Prop}
    (h : ∀ x ∈ unknownTerms isKnown (.found content :: ps), P x) :
    (¬isKnown (Text.trim content) → P (Text.trim content))
      ∧ ∀ x ∈ unknownTerms isKnown ps, P x := by
  rw [unknownTerms_found] at h
  split at h
  · rename_i hk
    exact ⟨fun hno => absurd hk hno, h⟩
  · exact ⟨fun _ => h _ (List.mem_cons_self ..), fun x hx => h x (List.mem_cons_of_mem _ hx)⟩

/-! ## Brackets of the text in the narrative -/

/-- If a text has the end of a reference, then the narrative has one as well, and no farther behind
than the next reference. -/
theorem exists_closing_of_protectFrom (hcut : Cut t ps)
    (hterms : ∀ x ∈ unknownTerms isKnown ps, x ≠ []) (hno : ']' ∉ content)
    (h : (protectFrom isKnown next ps).1 = content ++ ']' :: ']' :: rest) :
    ∃ content' rest', t = content' ++ ']' :: ']' :: rest' ∧ ']' ∉ content'
      ∧ (content ≠ [] → content' ≠ []) := by
  induction hcut generalizing content next with
  | done => exact absurd h.symm (by simp [protectFrom])
  | @reference c₀ t ps hc₀ _ _ =>
      refine ⟨'[' :: '[' :: c₀, t, by simp [written], fun hm => ?_, fun _ => by simp⟩
      simp only [List.mem_cons] at hm
      rcases hm with hm | hm | hm
      · exact absurd hm (by decide)
      · exact absurd hm (by decide)
      · exact hc₀.2 hm
  | @passed c t ps _ hcut ih =>
      cases content with
      | cons d content =>
          obtain ⟨rfl, hlater⟩ := List.cons.inj h
          obtain ⟨content', rest', ht, hno', -⟩ :=
            ih hterms (fun hm => hno (List.mem_cons_of_mem _ hm)) hlater
          refine ⟨c :: content', rest', by rw [ht]; rfl, fun hm => ?_, fun _ => by simp⟩
          rcases List.mem_cons.mp hm with rfl | hm
          · exact hno (List.mem_cons_self ..)
          · exact hno' hm
      | nil =>
          obtain ⟨rfl, hlater⟩ := List.cons.inj h
          -- what is written for a reference does not begin with a closing bracket
          cases hcut with
          | done => exact absurd hlater.symm (by simp [protectFrom])
          | @reference c₀ t ps hc₀ _ =>
              obtain ⟨later, hout⟩ := protectFrom_found isKnown next c₀ ps
              have hne : replacement isKnown next c₀ ≠ [] :=
                replacement_ne_nil (of_mem_unknownTerms_found hterms).1
              have hno : ']' ∉ replacement isKnown next c₀ := not_mem_replacement hc₀
              obtain ⟨d, r, hr⟩ := List.exists_cons_of_ne_nil hne
              change (protectFrom isKnown next (.found c₀ :: ps)).1 = _ at hlater
              rw [hout, hr] at hlater
              exact absurd (List.cons.inj hlater).1 fun hd => hno (by simp [hr, hd])
          | @passed d t ps _ _ =>
              obtain ⟨rfl, -⟩ := List.cons.inj hlater
              exact ⟨[], t, rfl, by simp, fun hnil => absurd rfl hnil⟩

theorem recognise_eq_none_of_ne {c : Char} (h : c ≠ '[') (t : Text) :
    recognise none (c :: t) = none := by
  refine Option.eq_none_iff_forall_ne_some.mpr fun ⟨content, n⟩ hf => ?_
  obtain ⟨-, rest, ht⟩ := recognise_eq_some hf
  exact h (List.cons.inj ht).1

/-- In what is written for a reference none begins. -/
theorem recognise_replacement (hc : ¬isKnown (Text.trim content) → BeginsNone (Text.trim content))
    {v : Text} (hne : v ≠ []) (hv : v <:+ replacement isKnown next content) (t : Text) :
    recognise none (v ++ t) = none := by
  obtain ⟨c, v, rfl⟩ := List.exists_cons_of_ne_nil hne
  rw [replacement] at hv
  split at hv
  · refine recognise_eq_none_of_ne (fun hbracket => ?_) (v ++ t)
    exact not_mem_placeholder (c := '[') (by decide) (by decide) next
      (hv.subset (by simp [hbracket]))
  · rename_i hk
    refine Option.eq_none_iff_forall_ne_some.mpr fun ⟨content', n⟩ hf => ?_
    obtain ⟨-, rest, ht⟩ := recognise_eq_some hf
    obtain ⟨rfl, htail⟩ := List.cons.inj ht
    obtain ⟨w, hw⟩ := hv
    refine (hc hk).noBrackets ?_
    rw [← hw]
    cases v with
    | nil => exact ⟨w, [], by simp⟩
    | cons d v =>
        obtain ⟨rfl, -⟩ := List.cons.inj htail
        exact ⟨w, v ++ ['['], by simp⟩

/-- **No reference begins in the text** for a narrative whose unknown terms begin none. -/
theorem recognise_protectFrom (hcut : Cut t ps)
    (hterms : ∀ x ∈ unknownTerms isKnown ps, BeginsNone x) {u : Text} (hne : u ≠ [])
    (hu : u <:+ (protectFrom isKnown next ps).1) : recognise none u = none := by
  induction hcut generalizing next with
  | done => exact absurd (List.suffix_nil.mp hu) hne
  | @reference c₀ t ps _ _ ih =>
      obtain ⟨hc, hps⟩ := of_mem_unknownTerms_found hterms
      obtain ⟨later, hout⟩ := protectFrom_found isKnown next c₀ ps
      rw [hout] at hu
      obtain ⟨w, hw⟩ := hu
      rcases List.append_eq_append_iff.mp hw with ⟨v, hr, rfl⟩ | ⟨v, -, hv⟩
      · cases v with
        | nil => exact ih hps ⟨[], rfl⟩
        | cons c v => exact recognise_replacement hc (by simp) ⟨w, hr.symm⟩ _
      · exact ih hps ⟨v, hv.symm⟩
  | @passed c t ps hnone hcut ih =>
      rcases List.suffix_cons_iff.mp hu with rfl | hu
      · refine Option.eq_none_iff_forall_ne_some.mpr fun ⟨content, n⟩ hf => ?_
        obtain ⟨hcontent, rest, hout⟩ := recognise_eq_some hf
        obtain ⟨rfl, htail⟩ := List.cons.inj hout
        cases hcut with
        | done => exact absurd htail.symm (List.cons_ne_nil _ _)
        | @reference c₀ t ps hc₀ _ =>
            -- a reference behind an opening bracket would have begun with that bracket
            refine hnone ('[' :: c₀) t ⟨by simp, fun hm => ?_⟩ rfl
            rcases List.mem_cons.mp hm with hm | hm
            · exact absurd hm (by decide)
            · exact hc₀.2 hm
        | @passed d t ps _ hcut =>
            obtain ⟨rfl, hbehind⟩ := List.cons.inj htail
            have hlater : (protectFrom isKnown next ps).1 = content ++ ']' :: ']' :: rest := by
              refine hbehind.trans ?_
              simp
            obtain ⟨content', rest', rfl, hno, hnil⟩ := exists_closing_of_protectFrom hcut
              (fun x hx => (hterms x hx).ne_nil) hcontent.2 hlater
            exact hnone content' rest' ⟨hnil hcontent.1, hno⟩ (by simp [written])
      · exact ih hterms hu

/-! ## A second time -/

theorem protectFrom_plain (isKnown : Text → Bool) (next : Nat) (u : Text) :
    protectFrom isKnown next (u.map .plain) = (u, []) := by
  induction u with
  | nil => rfl
  | cons c u ih => rw [List.map_cons, protectFrom, ih]

theorem protect_protect {narrative : Text}
    (hterms : ∀ x ∈ unknownTerms isKnown (pieces narrative), BeginsNone x)
    (isKnown' : Text → Bool) :
    protect isKnown' (protect isKnown narrative).1 = ((protect isKnown narrative).1, []) := by
  have hscan : pieces (protect isKnown narrative).1 = (protect isKnown narrative).1.map .plain :=
    Text.scan_eq_map_plain forgets_recognise fun _ hne hu =>
      recognise_protectFrom (cut_iff.mpr rfl) hterms hne hu
  rw [protect, hscan, protectFrom_plain]

/-- A term whose reference is found in a text is collected if it is known. -/
theorem mem_terms_of_found {isKnown : Text → Bool} (h : .found content ∈ pieces t)
    (hknown : isKnown (Text.trim content) = true) :
    Text.trim content ∈ (protect isKnown t).2 := by
  rw [protect, protectFrom_terms]
  exact List.mem_filter.mpr ⟨List.mem_map_of_mem (Piece.mem_findings.mpr h), hknown⟩

/-- An unknown term and the end of a reference behind it, one opening bracket and one character of
a name before that end. -/
def reopened (x : Text) : Text := written x ++ "[A]]".toList

theorem pieces_reopened (h : IsContent x) :
    pieces (reopened x) = .found x :: "[A]]".toList.map .plain := by
  have hend : pieces "[A]]".toList = "[A]]".toList.map .plain := rfl
  rw [reopened, pieces_written h, hend]

theorem protect_reopened (h : IsContent x) (htrim : Text.trim x = x)
    (hunknown : isKnown x = false) :
    protect isKnown (reopened x) = (x ++ "[A]]".toList, []) := by
  rw [protect, pieces_reopened h, protectFrom, htrim, hunknown, protectFrom_plain]
  rfl

/-- If a term begins a reference without its brackets, there is a text in which it does, and the
reference is to another term. -/
theorem exists_found_reopened (hno : ']' ∉ x) (hbrackets : ['[', '['] <:+: x ++ ['[']) :
    ∃ content, .found content ∈ pieces (x ++ "[A]]".toList) ∧ Text.trim content ≠ x := by
  obtain ⟨u, w, huw⟩ := hbrackets
  have hcontent : IsContent (w ++ ['A']) := by
    refine ⟨by simp, fun hm => hno ?_⟩
    have hw : ']' ∈ w := by simpa using hm
    have hx : ']' ∈ x ++ ['['] := by
      rw [← huw]
      simp [hw]
    simpa using hx
  have hshape : x ++ "[A]]".toList = u ++ (written (w ++ ['A']) ++ []) := by
    have hcut : x ++ "[A]]".toList = (x ++ ['[']) ++ "A]]".toList := by simp
    rw [hcut, ← huw]
    simp [written]
  obtain ⟨content, hfound⟩ := Text.exists_found (u := u) forgets_recognise
    (t := written (w ++ ['A']) ++ []) (by simp [written])
    (by rw [recognise_written hcontent]; rfl)
  rw [← hshape] at hfound
  refine ⟨content, hfound, fun htrim => ?_⟩
  -- a reference to the term itself would be as long as the text, but it has one letter less
  obtain ⟨_, v, n, ⟨p, hv⟩, hread⟩ := Text.find_of_mem_scanFrom hfound
  obtain ⟨-, rest, rfl⟩ := recognise_eq_some hread
  have htrimmed := (Text.isInfix_trim content).sublist
  rw [htrim] at htrimmed
  have hlength := congrArg List.length hv
  simp only [List.length_append, length_written] at hlength
  have hx := htrimmed.length_le
  have hfour : "[A]]".toList.length = 4 := rfl
  obtain rfl : x = content := htrimmed.eq_of_length (by omega)
  have hcount := congrArg (List.count 'A') hv
  have hp : p = [] := List.eq_nil_of_length_eq_zero (by omega)
  have hrest : rest = [] := List.eq_nil_of_length_eq_zero (by omega)
  rw [hp, hrest] at hcount
  simp [written] at hcount

theorem exists_left (htrim : Text.trim x = x) (hno : ']' ∉ x) (h : ¬BeginsNone x) :
    ∃ narrative key, unknownTerms (· == key) (pieces narrative) = [x]
      ∧ key ∈ (protect (· == key) (protect (· == key) narrative).1).2 := by
  by_cases hne : x = []
  · subst hne
    exact ⟨"[[A][[ ]]]".toList, "A".toList, by decide, by decide⟩
  · have hcontent : IsContent x := ⟨hne, hno⟩
    obtain ⟨content, hfound, hother⟩ := exists_found_reopened hno (by
      by_contra hbrackets
      exact h ⟨hne, hbrackets⟩)
    have hunknown : (x == Text.trim content) = false := beq_false_of_ne (Ne.symm hother)
    refine ⟨reopened x, Text.trim content, ?_, ?_⟩
    · rw [pieces_reopened hcontent, unknownTerms_found, htrim, hunknown]
      rfl
    · rw [protect_reopened hcontent htrim hunknown]
      exact mem_terms_of_found hfound (beq_self_eq_true _)

/--
**When no reference is left.**

If the unknown terms of a narrative begin no reference without their brackets, then no reference is
left in its text, to whatever term, and a second time nothing happens, with whatever
glossary. Every term that does begin one is the only unknown term of some narrative whose text has a
reference to a known term.
-/
theorem protect_again (isKnown : Text → Bool) (narrative : Text) :
    ((∀ x ∈ unknownTerms isKnown (pieces narrative), BeginsNone x) →
        (∀ content, IsContent content → ¬written content <:+: (protect isKnown narrative).1)
        ∧ ∀ isKnown',
          protect isKnown' (protect isKnown narrative).1 = ((protect isKnown narrative).1, []))
      ∧ ∀ x, Text.trim x = x → ']' ∉ x → ¬BeginsNone x →
        ∃ narrative key, unknownTerms (· == key) (pieces narrative) = [x]
          ∧ key ∈ (protect (· == key) (protect (· == key) narrative).1).2 := by
  refine ⟨fun hterms => ⟨fun content hcontent hin => ?_, protect_protect hterms⟩,
    fun x => exists_left⟩
  obtain ⟨u, v, huv⟩ := hin
  have hnone := recognise_protectFrom (u := written content ++ v) (cut_iff.mpr rfl) hterms
    (by simp [written]) ⟨u, by rw [← List.append_assoc]; exact huv⟩
  rw [recognise_written hcontent] at hnone
  exact absurd hnone (by simp)

/-- A known term in blanks, an unknown one with an opening bracket, and an end without a
beginning. -/
theorem protect_again_orcAndMap :
    (∀ x ∈ unknownTerms (· == "Orc".toList) (pieces "[[ Orc ]] has [[a [map]] [b]].".toList),
        BeginsNone x)
      ∧ (protect (· == "Orc".toList) "[[ Orc ]] has [[a [map]] [b]].".toList).1
        = "\x7b\x7bWIKILINK::0\x7d\x7d has a [map [b]].".toList
      ∧ protect (· == "b".toList) "\x7b\x7bWIKILINK::0\x7d\x7d has a [map [b]].".toList
        = ("\x7b\x7bWIKILINK::0\x7d\x7d has a [map [b]].".toList, [])
      ∧ ¬BeginsNone "a[".toList
      ∧ ∃ narrative key, unknownTerms (· == key) (pieces narrative) = ["a[".toList]
        ∧ key ∈ (protect (· == key) (protect (· == key) narrative).1).2 := by
  have hunknown : unknownTerms (· == "Orc".toList) (pieces "[[ Orc ]] has [[a [map]] [b]].".toList)
      = ["a [map".toList] := by decide
  have hterms : ∀ x ∈ unknownTerms (· == "Orc".toList)
      (pieces "[[ Orc ]] has [[a [map]] [b]].".toList), BeginsNone x := by
    rw [hunknown]
    refine List.forall_mem_singleton.mpr ⟨by decide, by decide⟩
  have hbegins : ¬BeginsNone "a[".toList := fun h => h.noBrackets ⟨['a'], [], rfl⟩
  have htext : (protect (· == "Orc".toList) "[[ Orc ]] has [[a [map]] [b]].".toList).1
      = "\x7b\x7bWIKILINK::0\x7d\x7d has a [map [b]].".toList := by decide
  obtain ⟨hnone, hleft⟩ := protect_again (· == "Orc".toList)
    "[[ Orc ]] has [[a [map]] [b]].".toList
  have hagain := (hnone hterms).2 (· == "b".toList)
  rw [htext] at hagain
  exact ⟨hterms, htext, hagain, hbegins, hleft _ (by decide) (by decide) hbegins⟩

/-- **A known reference is left** where an unknown term begins with two more brackets. -/
theorem left_in_doubleBrackets :
    protect (· == "A".toList) "[[[[A]]]]".toList = ("[[A]]".toList, [])
      ∧ protect (· == "A".toList) "[[A]]".toList
        = ("\x7b\x7bWIKILINK::0\x7d\x7d".toList, ["A".toList])
      ∧ ¬∀ isKnown narrative, (protect isKnown (protect isKnown narrative).1).2 = [] := by
  have hfirst : protect (· == "A".toList) "[[[[A]]]]".toList = ("[[A]]".toList, []) := by decide
  have hsecond : protect (· == "A".toList) "[[A]]".toList
      = ("\x7b\x7bWIKILINK::0\x7d\x7d".toList, ["A".toList]) := by decide
  refine ⟨hfirst, hsecond, fun h => ?_⟩
  have hnone := h (· == "A".toList) "[[[[A]]]]".toList
  rw [hfirst, hsecond] at hnone
  exact absurd hnone (by simp)

end Gamebook.Reference
