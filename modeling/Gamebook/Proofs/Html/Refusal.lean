import Gamebook.Html.Tree
import Gamebook.Proofs.Html.Attribute

/-!
# Fragments that cannot be read

Whatever is no markup is text, so a reader of fragments hardly ever fails. This file
finds the places where it does. Every step either leaves an end of the text that it was
given or fails for a reason that stands in that text (`StepWithin`), and so a failure of the
whole reading has its reason in the fragment (`refuses_of_parse`): a reference whose number
has too many figures, or a marked section without a name that is known.
-/

namespace Gamebook.Html

/-- Why a fragment cannot be read. -/
inductive Refuses (t : Text) : HtmlError → Prop where
  | number {e : NumeralError} : HoldsLongNumber t e → Refuses t (.numeral e)
  | markedSection {rest : Text} {e : HtmlError} :
      '<' :: '!' :: '[' :: rest <:+ t → markedSection rest = .error e → Refuses t e

theorem Refuses.of_suffix {s t : Text} {e : HtmlError} (h : Refuses s e) (hs : s <:+ t) :
    Refuses t e := by
  cases h with
  | number h => exact .number (h.mono hs.isInfix)
  | markedSection hrest h => exact .markedSection (hrest.trans hs) h

/-- Where a step leaves the reader. -/
def Step.rest? : Step → Option Text
  | .events _ rest => some rest
  | .unfinished => none
  | .stop _ rest => some rest

/-- A step leaves an end of the text, or it fails for a reason that stands in the text. -/
def StepWithin (t : Text) : Except HtmlError Step → Prop
  | .error e => Refuses t e
  | .ok s => ∀ rest ∈ s.rest?, rest <:+ t

theorem stepWithin_events {t rest : Text} (es : List Event) (h : rest <:+ t) :
    StepWithin t (.ok (.events es rest)) := fun _ hmem => Option.some.inj hmem ▸ h

theorem stepWithin_stop {t rest : Text} (es : List Event) (h : rest <:+ t) :
    StepWithin t (.ok (.stop es rest)) := fun _ hmem => Option.some.inj hmem ▸ h

theorem stepWithin_unfinished (t : Text) : StepWithin t (.ok .unfinished) :=
  fun _ hmem => absurd hmem (by simp [Step.rest?])

theorem StepWithin.of_suffix {s t : Text} {x : Except HtmlError Step} (h : StepWithin s x)
    (hs : s <:+ t) : StepWithin t x := by
  cases x with
  | error e => exact Refuses.of_suffix h hs
  | ok step => exact fun rest hrest => (h rest hrest).trans hs

/-! ## Comments, declarations and marked sections -/

theorem afterFirst?_suffix {c : Char} {t rest : Text} (h : afterFirst? c t = some rest) :
    rest <:+ t := by
  unfold afterFirst? at h
  split at h
  · rename_i d after hdrop
    injection h with h
    subst h
    have hsuffix := @List.dropWhile_suffix _ t (· != c)
    rw [hdrop] at hsuffix
    exact (List.suffix_cons d after).trans hsuffix
  · exact absurd h (by simp)

theorem afterComment?_suffix {t rest : Text} (h : afterComment? t = some rest) : rest <:+ t := by
  induction t with
  | nil => exact absurd h (by simp [afterComment?])
  | cons c t ih =>
      unfold afterComment? at h
      split at h
      · rename_i more
        split at h
        · rename_i after hdrop
          injection h with h
          subst h
          have hsuffix := @List.dropWhile_suffix _ more Text.isBlank
          rw [hdrop] at hsuffix
          exact (List.suffix_cons '>' after).trans
            (hsuffix.trans (List.suffix_append ['-', '-'] more))
        · exact (ih h).trans (List.suffix_cons _ _)
      · exact (ih h).trans (List.suffix_cons c t)

/-- What follows a closing stands at the end of the text in which the closing is looked for. -/
theorem takeUntil?_suffix {first : Char} {closes? : Text → Option Text}
    (hcloses : ∀ {t rest : Text}, closes? t = some rest → rest <:+ t) {t content rest : Text}
    (h : takeUntil? first closes? t = some (content, rest)) : rest <:+ t := by
  induction t generalizing content with
  | nil => exact absurd h (by simp [takeUntil?])
  | cons c t ih =>
      rw [takeUntil?] at h
      split at h
      · rename_i after hclosed
        injection h with h
        injection h with _ h
        subst h
        split at hclosed
        · exact (hcloses hclosed).trans (List.suffix_cons c t)
        · exact absurd hclosed (by simp)
      · obtain ⟨⟨content', rest'⟩, hlater, heq⟩ := Option.map_eq_some_iff.mp h
        injection heq with _ h
        subst h
        exact (ih hlater).trans (List.suffix_cons c t)

theorem closesSection?_suffix {double : Bool} {t rest : Text}
    (h : closesSection? double t = some rest) : rest <:+ t := by
  have hblanks : t.dropWhile Text.isBlank <:+ t := List.dropWhile_suffix _
  unfold closesSection? at h
  dsimp only at h
  split at h
  · rename_i after hend
    injection h with h
    subst h
    refine (List.suffix_cons '>' after).trans ?_
    -- the bracket stands behind the blanks, or behind another bracket and more blanks
    split at hend
    · split at hend
      · rename_i more hdrop
        rw [hdrop] at hblanks
        rw [← hend]
        exact (List.dropWhile_suffix _).trans ((List.suffix_cons ']' more).trans hblanks)
      · exact absurd hend (by simp)
    · rw [← hend]
      exact hblanks
  · exact absurd h (by simp)

theorem markedSection_within (t : Text) :
    StepWithin ('<' :: '!' :: '[' :: t) (markedSection t) := by
  cases hsection : markedSection t with
  | error e => exact .markedSection List.suffix_rfl hsection
  | ok step =>
      unfold markedSection at hsection
      split at hsection
      · injection hsection with hstep
        exact hstep ▸ stepWithin_unfinished _
      · split at hsection
        · exact absurd hsection (by simp)
        · injection hsection with hstep
          exact hstep ▸ stepWithin_unfinished _
        · dsimp only at hsection
          split at hsection
          · exact absurd hsection (by simp)
          · split at hsection
            · injection hsection with hstep
              exact hstep ▸ stepWithin_unfinished _
            · rename_i content rest htake
              injection hsection with hstep
              have hrest : rest <:+ '<' :: '!' :: '[' :: t :=
                (takeUntil?_suffix closesSection?_suffix htake).trans
                  (List.suffix_append ['<', '!', '['] t)
              exact hstep ▸ stepWithin_events _ hrest

theorem declaration_within (t : Text) : StepWithin ('<' :: '!' :: t) (declaration t) := by
  have finished {rest : Text} (h : rest <:+ t) :
      StepWithin ('<' :: '!' :: t) (.ok (.events [.gap] rest)) :=
    stepWithin_events _ (h.trans (List.suffix_append ['<', '!'] t))
  unfold declaration
  dsimp only
  split
  · rename_i more
    cases hrest : afterComment? more with
    | none => exact stepWithin_unfinished _
    | some rest =>
        exact finished ((afterComment?_suffix hrest).trans (List.suffix_append ['-', '-'] more))
  · rename_i more
    exact markedSection_within more
  · split
    · cases hrest : afterFirst? '>' (t.drop 7) with
      | none => exact stepWithin_unfinished _
      | some rest => exact finished ((afterFirst?_suffix hrest).trans (List.drop_suffix 7 t))
    · cases hrest : afterFirst? '>' t with
      | none => exact stepWithin_unfinished _
      | some rest => exact finished (afterFirst?_suffix hrest)

/-! ## End tags -/

theorem plainEndTag?_suffix {t name rest : Text} (h : plainEndTag? t = some (name, rest)) :
    rest <:+ t := by
  have hblanks : t.dropWhile Text.isBlank <:+ t := List.dropWhile_suffix _
  unfold plainEndTag? at h
  split at h
  · rename_i c more hdrop
    rw [hdrop] at hblanks
    split at h
    · generalize hspan : more.span _ = parts at h
      obtain ⟨letters, after⟩ := parts
      have hafter : after <:+ t := by
        refine List.IsSuffix.trans ?_ hblanks
        rw [(Text.eq_append_of_span hspan).1]
        exact (List.suffix_append letters after).trans (List.suffix_cons c _)
      dsimp only at h
      split at h
      · rename_i behind hend
        injection h with h
        injection h with _ h
        subst h
        have hsuffix := @List.dropWhile_suffix _ after Text.isBlank
        rw [hend] at hsuffix
        exact (List.suffix_cons '>' behind).trans (hsuffix.trans hafter)
      · exact absurd h (by simp)
    · exact absurd h (by simp)
  · exact absurd h (by simp)

theorem endTag_within (t : Text) : StepWithin t (.ok (endTag t)) := by
  unfold endTag
  split
  · exact stepWithin_unfinished t
  · rename_i afterEnd hend
    split
    · rename_i name rest hplain
      exact stepWithin_events _ (plainEndTag?_suffix hplain)
    · split
      · rename_i rest _
        exact stepWithin_events _ (List.suffix_cons '>' rest)
      · rename_i c more _ _
        split
        · generalize hspan : (c :: more).span _ = parts
          obtain ⟨name, after⟩ := parts
          have hafter : after <:+ c :: more := by
            rw [(Text.eq_append_of_span hspan).1]
            exact List.suffix_append name after
          have hgaps := (dropGaps_suffix true c after).trans hafter
          dsimp only
          refine stepWithin_events _ ?_
          cases hfirst : afterFirst? '>' (dropGaps true c after).2 with
          | none => exact List.nil_suffix
          | some rest => exact (afterFirst?_suffix hfirst).trans hgaps
        · exact stepWithin_events _ (afterFirst?_suffix hend)
      · exact stepWithin_unfinished []

/-! ## References -/

/-- The figures of a number, read to the base, and what follows them. -/
theorem numberReference_body {t digits : Text} {base : Nat} (hdigits : digits <:+ t)
    (hten : base ≠ 16 → digits = t) :
    let ds := digits.takeWhile fun c =>
      if base == 16 then Text.isHexDigit c else Text.isAsciiDigit c
    StepWithin ('&' :: '#' :: t)
      (match digits.drop ds.length with
      | next :: _ =>
        if ds.isEmpty || Text.isHexDigit next then numberReference.bail t
        else
          let value := if base == 16 then .ok (Number.figuresValue 16 ds) else Number.read ds
          match value with
          | .error e => .error (.numeral e)
          | .ok n =>
            let rest := digits.drop ds.length
            .ok (.events [.text [numberedChar n]] (if next == ';' then rest.tail else rest))
      | [] => numberReference.bail t) := by
  intro ds
  have bailed : StepWithin ('&' :: '#' :: t) (numberReference.bail t) := by
    unfold numberReference.bail
    split
    · exact stepWithin_stop _ (List.suffix_append ['&', '#'] t)
    · exact stepWithin_stop _ List.suffix_rfl
  have hrest : digits.drop ds.length <:+ '&' :: '#' :: t :=
    (List.drop_suffix _ _).trans (hdigits.trans (List.suffix_append ['&', '#'] t))
  split
  · split
    · exact bailed
    · dsimp only
      split
      · rename_i e hvalue
        split at hvalue
        · exact absurd hvalue (by simp)
        · rename_i hbase
          -- only a number to base ten has a bound
          have hbase : base ≠ 16 := by simpa using hbase
          obtain ⟨hlong, he⟩ := Number.read_eq_error_iff.mp hvalue
          have hfigures : ds = t.takeWhile Text.isAsciiDigit := by
            show digits.takeWhile _ = _
            rw [hten hbase]
            simp only [beq_eq_false_iff_ne.mpr hbase, Bool.false_eq_true, if_false]
          refine .number ⟨ds, fun c hc => ?_, hlong, ?_, he⟩
          · rw [hfigures] at hc
            exact List.mem_takeWhile_imp hc
          · have hprefix := List.takeWhile_prefix Text.isAsciiDigit (l := t)
            rw [← hfigures] at hprefix
            exact (List.cons_prefix_cons.mpr
              ⟨rfl, List.cons_prefix_cons.mpr ⟨rfl, hprefix⟩⟩).isInfix
      · refine stepWithin_events _ ?_
        split
        · exact (List.tail_suffix _).trans hrest
        · exact hrest
  · exact bailed

theorem numberReference_within (t : Text) : StepWithin ('&' :: '#' :: t) (numberReference t) := by
  cases t with
  | nil => exact @numberReference_body [] [] 10 List.suffix_rfl fun _ => rfl
  | cons x rest =>
      unfold numberReference
      by_cases hx : (x == 'x' || x == 'X') = true
      · simp only [hx, if_true]
        exact @numberReference_body (x :: rest) rest 16 (List.suffix_cons x rest)
          fun h => absurd rfl h
      · simp only [hx, if_false, Bool.false_eq_true]
        exact @numberReference_body (x :: rest) (x :: rest) 10 List.suffix_rfl fun _ => rfl

theorem nameReference_within (final : Bool) (t : Text) :
    StepWithin ('&' :: t) (.ok (nameReference final t)) := by
  have hcut : StepWithin ('&' :: t) (.ok (nameReference.cutOff final t)) := by
    unfold nameReference.cutOff
    split
    · exact stepWithin_stop _ (List.suffix_cons '&' t)
    · exact stepWithin_stop _ List.suffix_rfl
  unfold nameReference
  split
  · exact stepWithin_stop _ List.suffix_rfl
  · rename_i c more
    split
    · generalize hspan : (c :: more).span _ = parts
      obtain ⟨name, after⟩ := parts
      have hafter : after <:+ '&' :: c :: more := by
        rw [(Text.eq_append_of_span hspan).1]
        exact (List.suffix_append name after).trans (List.suffix_cons '&' _)
      dsimp only
      split
      · rename_i next behind
        refine stepWithin_events _ ?_
        split
        · exact (List.suffix_cons next behind).trans hafter
        · exact hafter
      · split
        · rename_i short _
          split
          · exact hcut
          · exact stepWithin_events _ ((List.drop_suffix _ _).trans (List.suffix_cons '&' _))
        · exact hcut
    · exact stepWithin_events _ (List.suffix_cons '&' _)

/-! ## Markup -/

/-- Whatever stands after an opening angle bracket. -/
theorem markup_within (t : Text) : StepWithin ('<' :: t) (markup t) := by
  unfold markup
  split
  · rename_i rest
    exact (endTag_within rest).of_suffix (List.suffix_append ['<', '/'] rest)
  · rename_i rest
    exact declaration_within rest
  · rename_i rest
    split
    · rename_i after hafter
      exact stepWithin_events _
        ((afterFirst?_suffix hafter).trans (List.suffix_append ['<', '?'] rest))
    · exact stepWithin_unfinished _
  · rename_i c rest _ _ _
    split
    · have hread := StartTag.read_within plainRules (c :: rest)
      have hbody : c :: rest <:+ '<' :: c :: rest := List.suffix_cons '<' _
      split
      · rename_i e he
        rw [he] at hread
        exact .number (HoldsLongNumber.mono hread hbody.isInfix)
      · rename_i tag after htag
        rw [htag] at hread
        exact stepWithin_events _ ((hread after rfl).trans hbody)
      · rename_i after hjunk
        rw [hjunk] at hread
        exact stepWithin_events _ ((hread after rfl).trans hbody)
      · exact stepWithin_unfinished _
    · exact stepWithin_events _ (List.suffix_cons '<' _)
  · exact stepWithin_stop _ List.suffix_rfl

/-! ## The whole fragment -/

/-- Unfinished markup is taken as text up to a place behind its angle bracket. -/
theorem asText_suffix (t : Text) : (asText t).2 <:+ t := by
  unfold asText
  generalize hspan : t.span _ = parts
  obtain ⟨before, after⟩ := parts
  have happend := (Text.eq_append_of_span hspan).1
  cases after with
  | cons c rest =>
      dsimp only
      rw [happend]
      exact (List.suffix_cons c rest).trans (List.suffix_append before _)
  | nil =>
      dsimp only
      generalize hspan : t.span _ = parts
      obtain ⟨before, after⟩ := parts
      have happend := (Text.eq_append_of_span hspan).1
      cases after with
      | cons c rest =>
          dsimp only
          rw [happend]
          exact List.suffix_append before _
      | nil => exact List.suffix_rfl

theorem closesRaw?_suffix {name t rest : Text} (h : closesRaw? name t = some rest) :
    rest <:+ t := by
  unfold closesRaw? at h
  split at h
  · rename_i more
    split at h
    · rename_i found after hplain
      split at h
      · injection h with h
        subst h
        exact (plainEndTag?_suffix hplain).trans (List.suffix_cons '/' more)
      · exact absurd h (by simp)
    · exact absurd h (by simp)
  · exact absurd h (by simp)

theorem takeRaw?_suffix {name t content rest : Text} (h : takeRaw? name t = some (content, rest)) :
    rest <:+ t := takeUntil?_suffix closesRaw?_suffix h

/-- The step at a character. -/
def stepAt (final : Bool) (c : Char) (rest : Text) : Except HtmlError Step :=
  if c == '<' then markup rest
  else if c == '&' then
    match rest with
    | '#' :: more => numberReference more
    | _ => pure (nameReference final rest)
  else
    let (text, after) := (c :: rest).span fun x => x != '<' && x != '&'
    pure (.events [.text text] after)

/-- How the reading goes on after a step. -/
def goOn (final : Bool) (fuel : Nat) (c : Char) (rest : Text) : Step → Except HtmlError (List Event)
  | .events es after =>
    match opensRaw? es with
    | none => return es ++ (← eventsFrom final fuel after)
    | some name =>
      match takeRaw? name after with
      | some (content, after) =>
        return es ++ [.text content, .endTag name] ++ (← eventsFrom final fuel after)
      | none => return es
  | .unfinished =>
    if final then
      let (text, after) := asText rest
      return .text text :: (← eventsFrom final fuel after)
    else eventsFrom true fuel (c :: rest)
  | .stop es after =>
    if final then return es ++ [.text after]
    else return es ++ (← eventsFrom true fuel after)

theorem eventsFrom_cons (final : Bool) (fuel : Nat) (c : Char) (rest : Text) :
    eventsFrom final (fuel + 1) (c :: rest)
      = (stepAt final c rest).bind (goOn final fuel c rest) := by
  conv_lhs => unfold eventsFrom
  dsimp only
  split
  · rename_i hangle
    unfold stepAt
    rw [if_pos hangle]
    rfl
  · rename_i hangle
    split
    · rename_i hamp
      split
      · unfold stepAt
        rw [if_neg hangle, if_pos hamp]
        rfl
      · rename_i hnumber
        have hname : stepAt final c rest = .ok (nameReference final rest) := by
          rw [stepAt, if_neg hangle, if_pos hamp]
          · rfl
          · exact hnumber
        rw [hname]
        rfl
    · rename_i hamp
      unfold stepAt
      rw [if_neg hangle, if_neg hamp]
      rfl

theorem stepAt_within (final : Bool) (c : Char) (rest : Text) :
    StepWithin (c :: rest) (stepAt final c rest) := by
  unfold stepAt
  split
  · rename_i hc
    obtain rfl := beq_iff_eq.mp hc
    exact markup_within rest
  · split
    · rename_i hc
      obtain rfl := beq_iff_eq.mp hc
      split
      · exact numberReference_within _
      · exact nameReference_within final rest
    · generalize hspan : (c :: rest).span _ = parts
      obtain ⟨text, after⟩ := parts
      refine stepWithin_events _ ?_
      rw [(Text.eq_append_of_span hspan).1]
      exact List.suffix_append text after

/-- A failure that comes later has its reason in what is left. -/
theorem goOn_eq_error {final : Bool} {fuel : Nat} {c : Char} {rest : Text} {step : Step}
    {e : HtmlError} (hstep : ∀ after ∈ step.rest?, after <:+ c :: rest)
    (h : goOn final fuel c rest step = .error e) :
    ∃ final t, t <:+ c :: rest ∧ eventsFrom final fuel t = .error e := by
  have later {final : Bool} {t : Text} {f : List Event → List Event} (ht : t <:+ c :: rest)
      (h : (eventsFrom final fuel t).bind (fun es => .ok (f es)) = .error e) :
      ∃ final t, t <:+ c :: rest ∧ eventsFrom final fuel t = .error e := by
    refine ⟨final, t, ht, ?_⟩
    rcases Fallible.bind_eq_error_iff.mp h with h | ⟨es, -, h⟩
    · exact h
    · exact absurd h (by simp)
  cases step with
  | events es after =>
      have hafter : after <:+ c :: rest := hstep after rfl
      unfold goOn at h
      dsimp only at h
      split at h
      · exact later hafter h
      · split at h
        · rename_i content behind hraw
          exact later ((takeRaw?_suffix hraw).trans hafter) h
        · exact absurd h (by simp [pure, Except.pure])
  | unfinished =>
      unfold goOn at h
      dsimp only at h
      split at h
      · exact later ((asText_suffix rest).trans (List.suffix_cons c rest)) h
      · exact ⟨true, c :: rest, List.suffix_rfl, h⟩
  | stop es after =>
      unfold goOn at h
      dsimp only at h
      split at h
      · exact absurd h (by simp [pure, Except.pure])
      · exact later (hstep after rfl) h

theorem refuses_of_eventsFrom {final : Bool} {fuel : Nat} {t : Text} {e : HtmlError}
    (h : eventsFrom final fuel t = .error e) : Refuses t e := by
  -- on the fuel, since a step that stops goes on at the same place
  induction fuel generalizing final t with
  | zero => exact absurd h (by simp [eventsFrom])
  | succ fuel ih =>
      cases t with
      | nil => exact absurd h (by simp [eventsFrom])
      | cons c rest =>
          rw [eventsFrom_cons] at h
          have hwithin := stepAt_within final c rest
          cases hstep : stepAt final c rest with
          | error e' =>
              rw [hstep] at h hwithin
              injection h with h
              exact h ▸ hwithin
          | ok step =>
              rw [hstep] at h hwithin
              obtain ⟨final, t, ht, hlater⟩ := goOn_eq_error hwithin h
              exact (ih hlater).of_suffix ht

/-- **A fragment that cannot be read has the reason in it.** -/
theorem refuses_of_parse {fragment : Text} {e : HtmlError} (h : parse fragment = .error e) :
    Refuses fragment e := by
  unfold parse events at h
  exact refuses_of_eventsFrom (Fallible.map_eq_error_iff.mp h)

end Gamebook.Html
