import Gamebook.Proofs.Annotation.Inert
import Gamebook.Proofs.Annotation.Placeholder
import Gamebook.Proofs.Html.Escape
import Mathlib.Data.List.Infix

/-!
# Marks inside of terms

What is written for a placeholder is a link, and a link shows its term. Escaping a term
changes ampersands, angle brackets and quotes and leaves everything else, so the word of a
mark that stands in a term stands in its link as well (`infix_escape_iff`). A link whose
term holds no such word is inert, and so is a placeholder that stays what it was.
-/

namespace Gamebook.TableRegion

open Reference (IsDigits placeholderOf link)

/-- An opening mark or the word of a closing one stands in the text. -/
def HoldsMark (t : Text) : Prop :=
  closing <:+: t ∨ ∃ ds, IsDigits ds ∧ opening ++ ds ++ openingEnd <:+: t

/-! ## Escaped words -/

/-- A character that is not written as itself is written as an ampersand and the rest of a
reference, which holds no brace. -/
theorem escapeChar_eq (c : Char) :
    Html.escapeChar c = [c]
      ∨ ∃ u, Html.escapeChar c = '&' :: u ∧ '\x7b' ∉ '&' :: u := by
  unfold Html.escapeChar
  split
  · exact .inr ⟨_, rfl, by decide⟩
  · exact .inr ⟨_, rfl, by decide⟩
  · exact .inr ⟨_, rfl, by decide⟩
  · exact .inr ⟨_, rfl, by decide⟩
  · exact .inr ⟨_, rfl, by decide⟩
  · exact .inl rfl

theorem prefix_of_prefix_escape {u t : Text} (hu : ∀ c ∈ u, Html.escapeChar c = [c])
    (h : u <+: Html.escape t) : u <+: t := by
  induction u generalizing t with
  | nil => exact List.nil_prefix
  | cons c u ih =>
      cases t with
      | nil => exact h
      | cons d t =>
          have hescape : Html.escape (d :: t) = Html.escapeChar d ++ Html.escape t := rfl
          rw [hescape] at h
          rcases escapeChar_eq d with hd | ⟨v, hd, -⟩
          · rw [hd] at h
            obtain ⟨hcd, hrest⟩ := List.cons_prefix_cons.mp h
            exact List.cons_prefix_cons.mpr ⟨hcd, ih (fun x hx => hu x (by simp [hx])) hrest⟩
          · -- an ampersand is never written as itself
            rw [hd] at h
            have hc := hu c (by simp)
            rw [(List.cons_prefix_cons.mp h).1] at hc
            exact absurd hc (by decide)

/-- A word that begins with a brace and is not changed by escaping stands in an escaped text if
it stands in the text. -/
theorem infix_escape_iff {u t : Text} (hu : ∀ c ∈ u, Html.escapeChar c = [c]) :
    '\x7b' :: u <:+: Html.escape t ↔ '\x7b' :: u <:+: t := by
  have hword : ∀ c ∈ '\x7b' :: u, Html.escapeChar c = [c] := by
    intro c hc
    rcases List.mem_cons.mp hc with rfl | hc
    · rfl
    · exact hu c hc
  constructor
  · intro h
    induction t with
    | nil => exact h
    | cons d t ih =>
        have hescape : Html.escape (d :: t) = Html.escapeChar d ++ Html.escape t := rfl
        have hlater (h : '\x7b' :: u <:+: Html.escape t) : '\x7b' :: u <:+: d :: t :=
          (ih h).trans (List.suffix_cons d t).isInfix
        rcases escapeChar_eq d with hd | ⟨v, hd, hbrace⟩
        · rw [hescape, hd] at h
          rcases List.infix_cons_iff.mp h with hstart | h
          · refine (prefix_of_prefix_escape hword ?_).isInfix
            rw [hescape, hd]
            exact hstart
          · exact hlater h
        · rw [hescape, hd] at h
          exact hlater (Text.infix_of_infix_append hbrace h)
  · rintro ⟨s, rest, rfl⟩
    rw [Html.escape_append, Html.escape_append, Html.escape_eq_self hword]
    exact ⟨Html.escape s, Html.escape rest, rfl⟩

/-- A text and its escaped form hold the same marks. -/
theorem holdsMark_escape_iff {t : Text} : HoldsMark (Html.escape t) ↔ HoldsMark t := by
  have hfixed : ∀ c ∈ opening.tail ++ openingEnd ++ closing.tail, Html.escapeChar c = [c] :=
    List.all_iff_forall_prop.mp (by decide)
  have hclosing : closing <:+: Html.escape t ↔ closing <:+: t :=
    @infix_escape_iff closing.tail t fun c hc => hfixed c (by simp [hc])
  have hopening {ds : Text} (hds : IsDigits ds) :
      opening ++ ds ++ openingEnd <:+: Html.escape t ↔ opening ++ ds ++ openingEnd <:+: t := by
    refine @infix_escape_iff (opening.tail ++ ds ++ openingEnd) t fun c hc => ?_
    simp only [List.mem_append] at hc hfixed
    rcases hc with (hc | hc) | hc
    · exact hfixed c (.inl (.inl hc))
    · exact Html.escapeChar_eq_self (by decide) (hds.isDigit c hc)
    · exact hfixed c (.inl (.inr hc))
  unfold HoldsMark
  rw [hclosing]
  exact or_congr_right (exists_congr fun ds => and_congr_right hopening)

/-! ## Quiet words -/

theorem Quiet.append {x y : Text} (hx : Quiet x) (hy : Quiet y) : Quiet (x ++ y) := by
  rintro u hne ⟨s, hs⟩ t
  rcases List.append_eq_append_iff.mp hs with ⟨more, hmore, rfl⟩ | ⟨more, -, rfl⟩
  · cases more with
    | nil => exact hy _ (by simpa using hne) (by simp) t
    | cons c more =>
        rw [List.append_assoc]
        exact hx _ (by simp) ⟨s, hmore.symm⟩ (y ++ t)
  · exact hy u hne (List.suffix_append more u) t

/-- Nothing begins in a word whose ends differ from the words that a region or a closing mark
can begin with. -/
theorem quiet_of_tails {x : Text}
    (h : ∀ u ∈ x.tails, u ≠ [] → ∀ word ∈ [paragraph, opening, closing],
      ¬word <+: u ∧ ¬u <+: word) : Quiet x := by
  intro u hne hu t
  have hnone {word : Text} (hword : word ∈ [paragraph, opening, closing]) :
      Text.after? word (u ++ t) = none := by
    obtain ⟨hle, hge⟩ := h u ((List.mem_tails u x).mpr hu) hne word hword
    exact Text.after?_eq_none_of_start List.prefix_rfl hle hge t
  refine ⟨?_, hnone (by simp)⟩
  rw [take?, dropOptional, hnone (by simp), Option.getD_none, hnone (by simp)]
  rfl

/-- An escaped text without marks is quiet before a quote or an angle bracket, which stands in no
mark. -/
theorem quiet_escape {t x : Text} {c : Char} (ht : ¬HoldsMark t) (hc : c = '"' ∨ c = '<')
    (hx : Quiet (c :: x)) : Quiet (Html.escape t ++ c :: x) := by
  have hmark : ¬HoldsMark (Html.escape t) := fun h => ht (holdsMark_escape_iff.mp h)
  have hfixed : c ∉ opening ++ openingEnd ++ closing := by
    rcases hc with rfl | rfl <;> decide
  have hdigit : Text.isDigit c = false := by
    rcases hc with rfl | rfl <;> decide
  -- a mark that begins in the text ends in it
  have hinside {u word rest behind : Text} (hu : u <:+ Html.escape t) (hword : c ∉ word)
      (h : u ++ (c :: x ++ rest) = word ++ behind) : word <:+: Html.escape t := by
    obtain ⟨more, rfl, -⟩ := Text.eq_append_of_stop h fun d hd => by
      obtain rfl := Option.some.inj hd
      exact hword
    exact (List.prefix_append word more).isInfix.trans hu.isInfix
  rintro u hne ⟨s, hs⟩ rest
  rcases List.append_eq_append_iff.mp hs with ⟨u, hu, rfl⟩ | ⟨beyond, -, hbeyond⟩
  case inr => exact hx u hne ⟨beyond, hbeyond.symm⟩ rest
  have hsuffix : u <:+ Html.escape t := ⟨s, hu.symm⟩
  cases u with
  | nil => exact hx _ (by simp) List.suffix_rfl rest
  | cons d u =>
      rw [List.append_assoc]
      constructor
      · refine Option.eq_none_iff_forall_ne_some.mpr fun ⟨r, behind⟩ htake => hmark (.inr ?_)
        obtain ⟨ds, more, hds, hdigits, hopen, -⟩ := marks_of_take? htake
        have hangle : '<' ≠ d := by
          rintro rfl
          exact @Html.not_mem_escape '<' (by simp) t (hsuffix.subset (List.mem_cons_self ..))
        have hdrop : dropOptional paragraph (d :: u ++ (c :: x ++ rest))
            = d :: u ++ (c :: x ++ rest) := dropOptional_of_ne hangle _ (u ++ (c :: x ++ rest))
        rw [hdrop] at hopen
        refine ⟨ds, ⟨hds, hdigits⟩, hinside hsuffix ?_ hopen⟩
        simp only [List.mem_append, not_or] at hfixed ⊢
        refine ⟨⟨hfixed.1.1, fun hm => ?_⟩, hfixed.1.2⟩
        rw [hdigits c hm] at hdigit
        exact absurd hdigit (by decide)
      · refine Option.eq_none_iff_forall_ne_some.mpr fun behind hafter => hmark (.inl ?_)
        refine hinside hsuffix ?_ (Text.after?_eq_some.mp hafter)
        exact fun hm => hfixed (List.mem_append_right _ hm)

/-! ## Inert words -/

theorem not_suffix_of_end {q last x : Text} (hlast : last <:+ x) (h : ¬q <:+ last)
    (h' : ¬last <:+ q) (t : Text) : ¬q <:+ t ++ x := fun hq =>
  (List.suffix_or_suffix_of_suffix hq (hlast.trans (List.suffix_append t x))).elim h h'

/-- A quiet word is inert if its first and its last characters tell it from the words of marks. -/
theorem Inert.of_ends {x start last : Text} (hquiet : Quiet x) (hstart : start <+: x)
    (hlast : last <:+ x)
    (hfirst : ∃ c ∈ start.head?, Text.isDigit c = false ∧ Text.isBlank c = false)
    (hend : ∃ c ∈ last.getLast?, Text.isBlank c = false)
    (hstops : ∀ q ∈ markWords.flatMap List.tails, q ≠ [] → ¬q <+: start ∧ ¬start <+: q)
    (hends : ∀ q ∈ paragraph.inits, q ≠ [] → ¬q <:+ last ∧ ¬last <:+ q) : Inert x := by
  obtain ⟨c, hc, hcx⟩ := hfirst
  obtain ⟨d, hd, hdx⟩ := hend
  have hhead : x.head? = some c := by
    obtain ⟨rest, rfl⟩ := hstart
    rw [List.head?_append, Option.mem_def.mp hc]
    rfl
  have htail : x.getLast? = some d := by
    obtain ⟨rest, rfl⟩ := hlast
    rw [List.getLast?_append, Option.mem_def.mp hd]
    rfl
  refine ⟨fun hnil => absurd hhead (by simp [hnil]), ?_, ?_, hquiet, ?_, ?_⟩
  · intro b hb
    rw [hhead] at hb
    obtain rfl := Option.some.inj hb
    exact hcx
  · intro b hb
    rw [htail] at hb
    obtain rfl := Option.some.inj hb
    exact hdx
  · intro word hword q hne hq t
    have hmem : q ∈ markWords.flatMap List.tails :=
      List.mem_flatMap.mpr ⟨word, hword, (List.mem_tails q word).mpr hq⟩
    exact Text.after?_eq_none_of_start hstart (hstops q hmem hne).1 (hstops q hmem hne).2 t
  · intro q hne hq t
    have hmem : q ∈ paragraph.inits := (List.mem_inits q paragraph).mpr hq
    exact not_suffix_of_end hlast (hends q hmem hne).1 (hends q hmem hne).2 t

theorem escape_infix_link (term : Text) : Html.escape term <:+: link term := by
  unfold link
  exact (List.suffix_append ..).isInfix.trans (List.prefix_append ..).isInfix

/-- **A link is inert if its term holds no mark.** -/
theorem inert_link {term : Text} (h : ¬HoldsMark term) : Inert (link term) := by
  have hopen : Quiet "<span class=\"wiki-link\" data-term=\"".toList :=
    quiet_of_tails (by decide +kernel)
  have hquote : "\">".toList = ['"', '>'] := by decide
  have hend : "</span>".toList = '<' :: "/span>".toList := by decide
  have hbetween : Quiet ['"', '>'] := quiet_of_tails (by decide +kernel)
  have hclose : Quiet ('<' :: "/span>".toList) := quiet_of_tails (by decide +kernel)
  have hquiet : Quiet (link term) := by
    have hvalue := quiet_escape h (.inl rfl) hbetween
    have hshown := quiet_escape h (.inr rfl) hclose
    unfold link
    rw [hquote, hend, List.append_assoc, List.append_assoc, List.append_assoc,
      ← List.append_assoc (Html.escape term)]
    exact hopen.append (hvalue.append hshown)
  have hstart : "<s".toList <+: link term := by
    have hword : "<s".toList <+: "<span class=\"wiki-link\" data-term=\"".toList := by decide
    unfold link
    rw [List.append_assoc, List.append_assoc, List.append_assoc]
    exact hword.trans (List.prefix_append ..)
  have hlast : "n>".toList <:+ link term := by
    have hword : "n>".toList <:+ "</span>".toList := by decide
    exact hword.trans (List.suffix_append ..)
  exact Inert.of_ends hquiet hstart hlast ⟨'<', by decide, by decide⟩ ⟨'>', by decide, by decide⟩
    (by decide +kernel) (by decide +kernel)

/-- A placeholder is inert. -/
theorem inert_placeholderOf {ds : Text} (h : IsDigits ds) : Inert (placeholderOf ds) := by
  have hstart : "\x7b\x7bW".toList <+: placeholderOf ds := by
    have hword : "\x7b\x7bW".toList <+: Reference.opening := by decide
    rw [placeholderOf, List.append_assoc]
    exact hword.trans (List.prefix_append ..)
  have hlast : "\x7d".toList <:+ placeholderOf ds := by
    have hword : "\x7d".toList <:+ Reference.closing := by decide
    exact hword.trans (List.suffix_append ..)
  have hquiet : Quiet (placeholderOf ds) := by
    have hdigits : Quiet ds := by
      refine quiet_of_tails fun u hu hne word hword => ?_
      have hfirst : ∀ word ∈ [paragraph, opening, closing],
          word.head?.map Text.isDigit = some false := by decide
      obtain ⟨c, hc, hno⟩ := Option.map_eq_some_iff.mp (hfirst word hword)
      obtain ⟨word, rfl⟩ := List.head?_eq_some_iff.mp hc
      obtain ⟨d, u, rfl⟩ := List.exists_cons_of_ne_nil hne
      have hsuffix := (List.mem_tails (d :: u) ds).mp hu
      have hd : Text.isDigit d = true := h.isDigit d (hsuffix.subset (by simp))
      have hcd : c ≠ d := by
        rintro rfl
        rw [hno] at hd
        exact absurd hd (by decide)
      exact ⟨fun hp => hcd (List.cons_prefix_cons.mp hp).1,
        fun hp => hcd (List.cons_prefix_cons.mp hp).1.symm⟩
    have hopen : Quiet Reference.opening := quiet_of_tails (by decide +kernel)
    have hend : Quiet Reference.closing := quiet_of_tails (by decide +kernel)
    exact (hopen.append hdigits).append hend
  exact Inert.of_ends hquiet hstart hlast ⟨'\x7b', by decide, by decide⟩
    ⟨'\x7d', by decide, by decide⟩ (by decide +kernel) (by decide +kernel)

end Gamebook.TableRegion
