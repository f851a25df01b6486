import Gamebook.Annotation.Reference
import Gamebook.Proofs.Number.Decimal
import Gamebook.Proofs.Text.Scan
import Gamebook.Proofs.Text.Words

/-!
# From a reference to its link

References are written in two goes that never meet: one puts numbered placeholders
into the narrative and keeps a list of terms, the other looks for placeholders in the
rendered text and takes the terms off the list. This file shows that together they do
what one pass over the references would do.

The narrative's own references are said without the scan. `Cut t ps` holds when `ps`
are the characters and references of `t` read from the left, each reference as early
as it can begin; `cut_iff` says that the scan finds exactly this.

The proof then follows the pieces. What the first go writes for them is again known
piece by piece (`markedPieces`), because a placeholder reads back as its own number
and nothing else in the text holds an opening brace.
-/

namespace Gamebook.Reference

open Text (Piece scan)

/-! ## Where the references of a narrative are -/

/-- A reference as it is written. -/
def written (content : Text) : Text := '[' :: '[' :: (content ++ [']', ']'])

/-- What may stand between the brackets. -/
def IsContent (content : Text) : Prop := content ≠ [] ∧ ']' ∉ content

/-- The leftmost references of a text that do not overlap, and the characters outside of them. -/
inductive Cut : Text → List (Piece Text) → Prop where
  | done : Cut [] []
  | reference {content t : Text} {ps : List (Piece Text)} :
      IsContent content → Cut t ps → Cut (written content ++ t) (.found content :: ps)
  | passed {c : Char} {t : Text} {ps : List (Piece Text)} :
      (∀ content rest, IsContent content → c :: t ≠ written content ++ rest) →
      Cut t ps → Cut (c :: t) (.plain c :: ps)

theorem forgets_recognise : Text.Forgets recognise := fun _ _ => rfl

theorem length_written (content : Text) : (written content).length = content.length + 4 := by
  simp [written]

theorem recognise_written {content : Text} (h : IsContent content) (rest : Text) :
    recognise none (written content ++ rest) = some (content, (written content).length) := by
  have hspan : (content ++ ']' :: ']' :: rest).span isNoCloser
      = (content, ']' :: ']' :: rest) := by
    refine Text.span_append (fun c hc => ?_) (fun c hc => ?_)
    · exact bne_iff_ne.mpr fun he => h.2 (he ▸ hc)
    · injection hc with hc
      subst hc
      rfl
  have hshape : written content ++ rest = '[' :: '[' :: (content ++ ']' :: ']' :: rest) := by
    simp [written]
  rw [hshape, length_written]
  cases content with
  | nil => exact absurd rfl h.1
  | cons c content =>
      unfold recognise
      simp only [hspan]

theorem recognise_eq_some {t content : Text} {n : Nat} (h : recognise none t = some (content, n)) :
    IsContent content ∧ ∃ rest, t = written content ++ rest := by
  unfold recognise at h
  split at h
  · rename_i rest
    have hparts := List.span_eq_takeWhile_dropWhile isNoCloser rest
    split at h
    · exact absurd h (by simp)
    · rename_i found after hne hspan
      injection h with h
      injection h with h _
      subst h
      rw [hspan] at hparts
      injection hparts with htake hdrop
      refine ⟨⟨hne, fun hm => ?_⟩, after, ?_⟩
      · rw [htake] at hm
        exact absurd (List.mem_takeWhile_imp hm) (by decide)
      · rw [← List.takeWhile_append_dropWhile (p := isNoCloser) (l := rest), ← htake, ← hdrop]
        simp [written]
    · exact absurd h (by simp)
  · exact absurd h (by simp)

theorem pieces_written {content : Text} (h : IsContent content) (t : Text) :
    pieces (written content ++ t) = .found content :: pieces t :=
  Text.scan_found forgets_recognise (by simp [written]) (recognise_written h t)

theorem pieces_passed {c : Char} {t : Text}
    (h : ∀ content rest, IsContent content → c :: t ≠ written content ++ rest) :
    pieces (c :: t) = .plain c :: pieces t := by
  refine Text.scan_passed forgets_recognise (Option.eq_none_iff_forall_ne_some.mpr ?_)
  rintro ⟨content, n⟩ hf
  obtain ⟨hcontent, rest, ht⟩ := recognise_eq_some hf
  exact h content rest hcontent ht

/-- **The scan finds the leftmost references**, and there is only one way to find them. -/
theorem cut_iff {t : Text} {ps : List (Piece Text)} : Cut t ps ↔ ps = pieces t := by
  constructor
  · intro h
    induction h with
    | done => rfl
    | reference hcontent _ ih => rw [ih, pieces_written hcontent]
    | passed hnone _ ih => rw [ih, pieces_passed hnone]
  · rintro rfl
    -- on the length, since a reference takes many characters at once
    induction hn : t.length using Nat.strongRecOn generalizing t with
    | ind n ih =>
      subst hn
      cases t with
      | nil => exact .done
      | cons c t =>
          by_cases h : ∃ content rest, IsContent content ∧ c :: t = written content ++ rest
          · obtain ⟨content, rest, hcontent, ht⟩ := h
            rw [ht, pieces_written hcontent]
            refine .reference hcontent (ih rest.length ?_ rfl)
            rw [ht, List.length_append, length_written]
            omega
          · have hnone : ∀ content rest, IsContent content → c :: t ≠ written content ++ rest :=
              fun content rest hcontent ht => h ⟨content, rest, hcontent, ht⟩
            rw [pieces_passed hnone]
            exact .passed hnone (ih t.length (by simp) rfl)

/-! ## What the first go writes -/

/-- The terms of the references that are known, in order. -/
def knownTerms (isKnown : Text → Bool) (ps : List (Piece Text)) : List Text :=
  ((Piece.findings ps).map Text.trim).filter isKnown

/-- The pieces of the narrative with placeholders, the first of which has the number `next`. -/
def markedPieces (isKnown : Text → Bool) (next : Nat) : List (Piece Text) → List (Piece Text)
  | [] => []
  | .plain c :: ps => .plain c :: markedPieces isKnown next ps
  | .found content :: ps =>
    if isKnown (Text.trim content) then
      .found (Number.writeNat next) :: markedPieces isKnown (next + 1) ps
    else (Text.trim content).map .plain ++ markedPieces isKnown next ps

theorem knownTerms_found (isKnown : Text → Bool) (content : Text) (ps : List (Piece Text)) :
    knownTerms isKnown (.found content :: ps)
      = if isKnown (Text.trim content) then Text.trim content :: knownTerms isKnown ps
        else knownTerms isKnown ps := by
  show List.filter isKnown (Text.trim content :: (Piece.findings ps).map Text.trim) = _
  rw [List.filter_cons]
  rfl

theorem protectFrom_terms (isKnown : Text → Bool) (next : Nat) (ps : List (Piece Text)) :
    (protectFrom isKnown next ps).2 = knownTerms isKnown ps := by
  induction ps generalizing next with
  | nil => rfl
  | cons p ps ih =>
      cases p with
      | plain c => exact ih next
      | found content =>
          rw [protectFrom, knownTerms_found]
          by_cases hk : isKnown (Text.trim content)
          · simp only [hk, if_true, ih]
          · simp only [hk, if_false, ih, Bool.false_eq_true]

theorem forgets_recognisePlaceholder : Text.Forgets recognisePlaceholder := fun _ _ => rfl

/-- A placeholder begins with a brace. -/
theorem recognisePlaceholder_eq_none {c : Char} (h : c ≠ '\x7b') (t : Text) :
    recognisePlaceholder none (c :: t) = none := by
  have : Text.after? opening (c :: t) = none := Text.after?_cons_of_ne (Ne.symm h) _ t
  rw [recognisePlaceholder, this]

/-- A run of digits of any script. -/
structure IsDigits (ds : Text) : Prop where
  ne_nil : ds ≠ []
  isDigit : ∀ c ∈ ds, Text.isDigit c = true

theorem isDigits_writeNat (n : Nat) : IsDigits (Number.writeNat n) :=
  ⟨Number.writeNat_ne_nil n, fun _ hc => Number.isDigit_of_mem_writeNat hc⟩

/-- A placeholder with its digits as they stand there. -/
def placeholderOf (ds : Text) : Text := opening ++ ds ++ closing

theorem recognisePlaceholder_eq_some {b : Option Char} {t ds : Text} {n : Nat} :
    recognisePlaceholder b t = some (ds, n)
      ↔ IsDigits ds ∧ n = (placeholderOf ds).length ∧ ∃ rest, t = placeholderOf ds ++ rest := by
  constructor
  · intro h
    unfold recognisePlaceholder at h
    split at h
    · exact absurd h (by simp)
    · rename_i afterOpening hopening
      split at h
      · exact absurd h (by simp)
      · rename_i found after htake
        split at h
        · rename_i hclosing
          injection h with h
          injection h with h1 h2
          subst h1
          obtain ⟨rest, hrest⟩ := Option.isSome_iff_exists.mp hclosing
          obtain ⟨hafter, hne, hdigits, _⟩ := Text.takeDigits?_eq_some htake
          refine ⟨⟨hne, hdigits⟩, by simp [← h2, placeholderOf, Nat.add_assoc], rest, ?_⟩
          rw [Text.after?_eq_some.mp hopening, hafter, Text.after?_eq_some.mp hrest]
          simp [placeholderOf]
        · exact absurd h (by simp)
  · rintro ⟨hds, rfl, rest, rfl⟩
    have hshape : placeholderOf ds ++ rest = opening ++ (ds ++ (closing ++ rest)) := by
      simp [placeholderOf]
    have hdigits : Text.takeDigits? (ds ++ (closing ++ rest)) = some (ds, closing ++ rest) :=
      Text.takeDigits?_append_cons hds.ne_nil hds.isDigit (c := '\x7d') (by decide)
        ('\x7d' :: rest)
    rw [hshape, recognisePlaceholder, Text.after?_append]
    dsimp only
    rw [hdigits]
    dsimp only
    rw [if_pos (Text.startsWith_append closing rest)]
    simp [placeholderOf, Nat.add_assoc]

theorem placeholderOf_ne_nil (ds : Text) : placeholderOf ds ≠ [] :=
  List.cons_ne_nil '\x7b' (opening.tail ++ ds ++ closing)

theorem placeholder_ne_nil (n : Nat) : placeholder n ≠ [] :=
  placeholderOf_ne_nil (Number.writeNat n)

/-- **A placeholder is found as the digits of its own number.** -/
theorem recognisePlaceholder_placeholder (n : Nat) (t : Text) :
    recognisePlaceholder none (placeholder n ++ t)
      = some (Number.writeNat n, (placeholder n).length) :=
  recognisePlaceholder_eq_some.mpr ⟨isDigits_writeNat n, rfl, t, rfl⟩

/-- What is found in the marked narrative is known piece by piece. -/
theorem scan_protectFrom (isKnown : Text → Bool) {t : Text} {ps : List (Piece Text)}
    (h : Cut t ps) (hbrace : '\x7b' ∉ t) (next : Nat) :
    scan recognisePlaceholder (protectFrom isKnown next ps).1 = markedPieces isKnown next ps := by
  induction h generalizing next with
  | done => rfl
  | @passed c t ps _ _ ih =>
      have hc : c ≠ '\x7b' := fun he => hbrace (by simp [he])
      show scan recognisePlaceholder (c :: (protectFrom isKnown next ps).1) = _
      rw [Text.scan_passed forgets_recognisePlaceholder (recognisePlaceholder_eq_none hc _),
        ih fun hm => hbrace (by simp [hm])]
      rfl
  | @reference content t ps _ _ ih =>
      have ih := ih fun hm => hbrace (by simp [hm])
      rw [protectFrom, markedPieces]
      by_cases hk : isKnown (Text.trim content)
      · simp only [hk, if_true]
        rw [Text.scan_found forgets_recognisePlaceholder (placeholder_ne_nil next)
          (recognisePlaceholder_placeholder next _), ih]
      · -- the text of an unknown term holds no brace, so nothing can begin in it
        have hterm : ∀ c ∈ Text.trim content, ∀ u, recognisePlaceholder none (c :: u) = none := by
          intro c hc u
          refine recognisePlaceholder_eq_none (fun he => hbrace ?_) u
          have hm : '\x7b' ∈ content := by
            rw [← he]
            exact Text.mem_of_mem_trim hc
          simp [written, hm]
        simp only [hk, if_false, Bool.false_eq_true]
        rw [Text.scan_passed_all forgets_recognisePlaceholder _ hterm, ih]

theorem findings_markedPieces (isKnown : Text → Bool) (next : Nat) (ps : List (Piece Text)) :
    Piece.findings (markedPieces isKnown next ps)
      = (List.range' next (knownTerms isKnown ps).length).map Number.writeNat := by
  induction ps generalizing next with
  | nil => rfl
  | cons p ps ih =>
      cases p with
      | plain c => exact ih next
      | found content =>
          rw [markedPieces, knownTerms_found]
          by_cases hk : isKnown (Text.trim content)
          · rw [if_pos hk, if_pos hk, List.length_cons, List.range'_succ, List.map_cons]
            show Number.writeNat next :: Piece.findings (markedPieces isKnown (next + 1) ps) = _
            rw [ih]
          · rw [if_neg hk, if_neg hk, Piece.findings_append, Piece.findings_plain, ih]
            rfl

/-! ## What the second go makes of it -/

/-- What becomes of a reference in the end: a link if its term is known, its bare text if not. -/
def shown (isKnown : Text → Bool) (content : Text) : Text :=
  if isKnown (Text.trim content) then link (Text.trim content) else Text.trim content

theorem linkOf_writeNat {terms : List Text} {n : Nat} {term : Text}
    (hn : n < 10 ^ digitLimit) (h : terms[n]? = some term) :
    linkOf terms (Number.writeNat n) = .ok (link term) := by
  rw [linkOf, Number.read_writeNat ((Number.length_writeNat_le_iff n).mpr hn)]
  simp only [bind, Except.bind, h]
  rfl

theorem materializePieces_plain (terms : List Text) (u : Text) (ps : List (Piece Text)) :
    materializePieces terms (u.map .plain ++ ps)
      = (materializePieces terms ps).map (u ++ ·) := by
  induction u with
  | nil =>
      show materializePieces terms ps = _
      cases materializePieces terms ps <;> rfl
  | cons c u ih =>
      show (materializePieces terms (u.map .plain ++ ps)).map (c :: ·) = _
      rw [ih]
      cases materializePieces terms ps <;> rfl

theorem materializePieces_found {terms : List Text} {ds l : Text} (ps : List (Piece Text))
    (h : linkOf terms ds = .ok l) :
    materializePieces terms (.found ds :: ps) = (materializePieces terms ps).map (l ++ ·) := by
  rw [materializePieces, h]
  cases materializePieces terms ps <;> rfl

/-- The term with the number of a placeholder is the one the placeholder was written for. -/
theorem getElem?_of_drop {terms rest : List Text} {next : Nat} {term : Text}
    (h : terms.drop next = term :: rest) :
    terms[next]? = some term ∧ terms.drop (next + 1) = rest := by
  constructor
  · rw [← List.head?_drop, h]
    rfl
  · rw [← List.tail_drop, h]
    rfl

/-- While there are no more terms than can be numbered, every placeholder gets its link. -/
theorem materializePieces_marked {isKnown : Text → Bool} {terms : List Text}
    (hlimit : terms.length ≤ 10 ^ digitLimit) (ps : List (Piece Text)) (next : Nat)
    (hterms : terms.drop next = knownTerms isKnown ps) :
    materializePieces terms (markedPieces isKnown next ps)
      = .ok (Piece.render (shown isKnown) ps) := by
  -- from `next` on, the list holds the terms of the references that are still to come
  induction ps generalizing next with
  | nil => rfl
  | cons p ps ih =>
      cases p with
      | plain c =>
          show (materializePieces terms (markedPieces isKnown next ps)).map (c :: ·) = _
          rw [ih next hterms]
          rfl
      | found content =>
          rw [knownTerms_found] at hterms
          have hshown : Piece.render (shown isKnown) (.found content :: ps)
              = shown isKnown content ++ Piece.render (shown isKnown) ps := rfl
          rw [markedPieces, hshown, shown]
          by_cases hk : isKnown (Text.trim content)
          · rw [if_pos hk] at hterms
            obtain ⟨hterm, hrest⟩ := getElem?_of_drop hterms
            have hn : next < terms.length := (List.getElem?_eq_some_iff.mp hterm).1
            rw [if_pos hk, if_pos hk, materializePieces_found _ (linkOf_writeNat (by omega) hterm),
              ih (next + 1) hrest]
            rfl
          · rw [if_neg hk] at hterms
            rw [if_neg hk, if_neg hk, materializePieces_plain, ih next hterms]
            rfl

/-- The first number that is too long to be read stops the second go. -/
theorem materializePieces_tooLong {isKnown : Text → Bool} {terms : List Text}
    (hlimit : 10 ^ digitLimit < terms.length) (ps : List (Piece Text)) (next : Nat)
    (hnext : next ≤ 10 ^ digitLimit) (hterms : terms.drop next = knownTerms isKnown ps) :
    materializePieces terms (markedPieces isKnown next ps)
      = .error (.tooLongToRead (digitLimit + 1)) := by
  induction ps generalizing next with
  | nil =>
      have : terms.length ≤ next := List.drop_eq_nil_iff.mp hterms
      omega
  | cons p ps ih =>
      cases p with
      | plain c =>
          show (materializePieces terms (markedPieces isKnown next ps)).map (c :: ·) = _
          rw [ih next hnext hterms]
          rfl
      | found content =>
          rw [knownTerms_found] at hterms
          rw [markedPieces]
          by_cases hk : isKnown (Text.trim content)
          · rw [if_pos hk] at hterms ⊢
            obtain ⟨hterm, hrest⟩ := getElem?_of_drop hterms
            rcases Nat.lt_or_eq_of_le hnext with hlt | heq
            · rw [materializePieces_found _ (linkOf_writeNat hlt hterm), ih (next + 1) hlt hrest]
              rfl
            · -- the number is the first one with a digit too many
              have hread : Number.read (Number.writeNat next)
                  = .error (.tooLongToRead (digitLimit + 1)) := by
                rw [Number.read, Number.length_writeNat_of_eq heq, if_neg (by omega)]
              rw [materializePieces, linkOf, hread]
              rfl
          · rw [if_neg hk] at hterms ⊢
            rw [materializePieces_plain, ih next hnext hterms]
            rfl

/--
**References make the round trip.**

Take the references of a narrative without braces, from the left. The placeholders
are numbered 0, 1, 2 and so on, each has a term on the list, and the k-th term is the
k-th known reference. Putting the links in then writes every reference in its place
and leaves all other characters where they are. Only more references than there are
numbers of readable length would be too many.
-/
theorem materialize_protect (isKnown : Text → Bool) {narrative : Text}
    (hbrace : '\x7b' ∉ narrative) :
    ∃ ps, Cut narrative ps
      ∧ (protect isKnown narrative).2 = ((Piece.findings ps).map Text.trim).filter isKnown
      ∧ Piece.findings (scan recognisePlaceholder (protect isKnown narrative).1)
          = (List.range (protect isKnown narrative).2.length).map Number.writeNat
      ∧ materialize (protect isKnown narrative).1 (protect isKnown narrative).2
          = if (protect isKnown narrative).2.length ≤ 10 ^ digitLimit then
              .ok (Piece.render (shown isKnown) ps)
            else .error (.tooLongToRead (digitLimit + 1)) := by
  have hcut : Cut narrative (pieces narrative) := cut_iff.mpr rfl
  have hterms : (protect isKnown narrative).2 = knownTerms isKnown (pieces narrative) :=
    protectFrom_terms isKnown 0 (pieces narrative)
  have hscan : scan recognisePlaceholder (protect isKnown narrative).1
      = markedPieces isKnown 0 (pieces narrative) := scan_protectFrom isKnown hcut hbrace 0
  refine ⟨pieces narrative, hcut, hterms, ?_, ?_⟩
  · rw [hscan, hterms, findings_markedPieces, List.range_eq_range']
  · have hdrop : (protect isKnown narrative).2.drop 0 = knownTerms isKnown (pieces narrative) := by
      rw [List.drop_zero, hterms]
    rw [materialize, hscan]
    split
    · rename_i hlimit
      exact materializePieces_marked hlimit _ 0 hdrop
    · rename_i hlimit
      exact materializePieces_tooLong (by omega) _ 0 (Nat.zero_le _) hdrop

/-- A narrative with a known reference in blanks and an unknown one. -/
theorem materialize_protect_map :
    '\x7b' ∉ "See [[ Old Map ]] or [[Nobody]].".toList
      ∧ ∃ ps, Cut "See [[ Old Map ]] or [[Nobody]].".toList ps
        ∧ (protect (· == "Old Map".toList) "See [[ Old Map ]] or [[Nobody]].".toList).2
          = ["Old Map".toList]
        ∧ materialize (protect (· == "Old Map".toList) "See [[ Old Map ]] or [[Nobody]].".toList).1
            ["Old Map".toList]
          = .ok (Piece.render (shown (· == "Old Map".toList)) ps) := by
  have hbrace : '\x7b' ∉ "See [[ Old Map ]] or [[Nobody]].".toList := by decide
  have hterms : (protect (· == "Old Map".toList) "See [[ Old Map ]] or [[Nobody]].".toList).2
      = ["Old Map".toList] := by decide
  have hone : ["Old Map".toList].length ≤ 10 ^ digitLimit := Nat.one_le_pow _ _ (by decide)
  obtain ⟨ps, hcut, _, _, hok⟩ := materialize_protect (· == "Old Map".toList) hbrace
  rw [hterms, if_pos hone] at hok
  exact ⟨hbrace, ps, hcut, hterms, hok⟩

end Gamebook.Reference
