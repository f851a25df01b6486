import Gamebook.Proofs.Outline.Heading
import Gamebook.Proofs.Text.Line

/-!
# The outline of a narrative

`HeadingsOf` takes from a list of lines one heading for each line that is one. The outline of a
narrative is what it takes from the lines of the narrative (`ofNarrative_exact`).

A line without a character is no heading, so it does not matter how many boundaries stand
between two lines, nor which of them make a pair. This is why outlines are put
together like the narratives they are of, whatever meets at the seam
(`ofNarrative_append_boundary`).
-/

namespace Gamebook.Outline

open Text (LinesOf IsInLine)

variable {line : Text} {h : Heading}

/-- The headings among lines, in order: one for each line that is a heading, and none for any
other. -/
inductive HeadingsOf : List Text → List Heading → Prop where
  | nil : HeadingsOf [] []
  | heading {line : Text} {h : Heading} {ls : List Text} {hs : List Heading} :
      IsHeading line h → HeadingsOf ls hs → HeadingsOf (line :: ls) (h :: hs)
  | other {line : Text} {ls : List Text} {hs : List Heading} :
      (∀ h, ¬IsHeading line h) → HeadingsOf ls hs → HeadingsOf (line :: ls) hs

/-- **The headings among lines are those that are read.** -/
theorem headingsOf_iff {ls : List Text} {hs : List Heading} :
    HeadingsOf ls hs ↔ hs = ls.filterMap heading? := by
  constructor
  · intro hcut
    induction hcut with
    | nil => rfl
    | heading hh _ ih => rw [List.filterMap_cons_some (heading?_eq_some_iff.mpr hh), ih]
    | other hnone _ ih =>
        rw [List.filterMap_cons_none, ih]
        exact Option.eq_none_iff_forall_ne_some.mpr fun h hh =>
          hnone h (heading?_eq_some_iff.mp hh)
  · rintro rfl
    induction ls with
    | nil => exact .nil
    | cons line ls ih =>
        cases hread : heading? line with
        | some h =>
            rw [List.filterMap_cons_some hread]
            exact .heading (heading?_eq_some_iff.mp hread) ih
        | none =>
            rw [List.filterMap_cons_none hread]
            refine .other (fun h hh => ?_) ih
            rw [heading?_eq_some_iff.mpr hh] at hread
            exact absurd hread (by simp)

/--
**The outline of a narrative is the list of its headings.**

Cut the narrative into lines and take from them, in order, one heading for each line that is
one by the rule and none for any other: this can be done in one way, and it gives the outline.
Each heading stands in a line and has its level from all the number signs there; it has a text,
and no blank at the ends of it. Going by the pattern of a heading comes to the same.
-/
theorem ofNarrative_exact (narrative : Text) :
    (∀ hs, (∃ ls, LinesOf narrative ls ∧ HeadingsOf ls hs) ↔ hs = ofNarrative narrative)
      ∧ (∀ h ∈ ofNarrative narrative, ∃ line ∈ Text.lines narrative, IsHeading line h
        ∧ h.level = (line.takeWhile (· == '#')).length
        ∧ h.text ≠ [] ∧ (∀ c ∈ h.text.head?, Text.isBlank c = false)
        ∧ ∀ c ∈ h.text.getLast?, Text.isBlank c = false)
      ∧ ofNarrative narrative = (Text.lines narrative).filterMap matched? := by
  refine ⟨fun hs => ?_, fun h hh => ?_, ?_⟩
  · constructor
    · rintro ⟨ls, hls, hhs⟩
      rw [headingsOf_iff.mp hhs, Text.linesOf_iff.mp hls]
      rfl
    · rintro rfl
      exact ⟨Text.lines narrative, Text.linesOf_lines narrative, headingsOf_iff.mpr rfl⟩
  · obtain ⟨line, hline, hread⟩ := List.mem_filterMap.mp hh
    have hheading := heading?_eq_some_iff.mp hread
    exact ⟨line, hline, hheading, hheading.level_eq, hheading.text_trimmed⟩
  · refine List.filterMap_congr fun line hline => (matched?_eq_heading? fun hfeed => ?_).symm
    exact absurd (Text.isInLine_of_mem_lines hline '\n' hfeed) (by decide)

/-- Lines of all kinds: a heading, one with too many signs, one without a blank, one without a
text. -/
def hallAndCellar : Text :=
  "# Hall \r\n#### Attic\r##\t Ölkeller!\n#tag\x0b#  \x0c\n\n### # \u2028 # no".toList

theorem ofNarrative_exact_hallAndCellar :
    LinesOf hallAndCellar (Text.lines hallAndCellar)
      ∧ HeadingsOf (Text.lines hallAndCellar)
        [⟨1, "Hall".toList, "hall".toList⟩, ⟨2, "Ölkeller!".toList, "-lkeller-".toList⟩,
          ⟨3, "#".toList, "-".toList⟩]
      ∧ ⟨3, "#".toList, "-".toList⟩ ∈ ofNarrative hallAndCellar
      ∧ ∃ line ∈ Text.lines hallAndCellar, IsHeading line ⟨3, "#".toList, "-".toList⟩ := by
  have hoffered : [⟨1, "Hall".toList, "hall".toList⟩, ⟨2, "Ölkeller!".toList, "-lkeller-".toList⟩,
      ⟨3, "#".toList, "-".toList⟩] = ofNarrative hallAndCellar := by decide +kernel
  obtain ⟨hexact, hstands, -⟩ := ofNarrative_exact hallAndCellar
  obtain ⟨ls, hls, hhs⟩ := (hexact _).mpr hoffered
  obtain rfl := Text.linesOf_iff.mp hls
  have hmem : ⟨3, "#".toList, "-".toList⟩ ∈ ofNarrative hallAndCellar := by
    rw [← hoffered]
    simp
  obtain ⟨line, hline, hheading, -⟩ := hstands _ hmem
  exact ⟨hls, hhs, hmem, line, hline, hheading⟩

/-! ## Narratives put together -/

/-- One or more characters that end lines. -/
def IsBoundary (e : Text) : Prop := e ≠ [] ∧ ∀ c ∈ e, Text.isLineBreak c = true

/-- Decided by a look at each character. -/
instance (e : Text) : Decidable (IsBoundary e) :=
  decidable_of_iff (e ≠ [] ∧ e.all Text.isLineBreak = true) (and_congr_right' List.all_eq_true)

/-- The outline is read off the narrative cut at every single boundary. -/
theorem ofNarrative_eq_pieces (narrative : Text) :
    ofNarrative narrative = (Text.splitBy Text.isLineBreak narrative).filterMap heading? :=
  Text.filterMap_lines rfl narrative

theorem ofNarrative_append_cons {c : Char} (hc : Text.isLineBreak c = true) (a b : Text) :
    ofNarrative (a ++ c :: b) = ofNarrative a ++ ofNarrative b := by
  rw [ofNarrative_eq_pieces, Text.splitBy_append_cons hc, List.filterMap_append,
    ← ofNarrative_eq_pieces, ← ofNarrative_eq_pieces]

/-- Boundaries at the start of a narrative do nothing. -/
theorem ofNarrative_boundaries_append {e : Text} (he : ∀ c ∈ e, Text.isLineBreak c = true)
    (b : Text) : ofNarrative (e ++ b) = ofNarrative b := by
  induction e with
  | nil => rfl
  | cons c e ih =>
      obtain ⟨hc, he⟩ := List.forall_mem_cons.mp he
      exact (ofNarrative_append_cons hc [] (e ++ b)).trans (ih he)

theorem ofNarrative_join {e : Text} (he : IsBoundary e) (a b : Text) :
    ofNarrative (a ++ (e ++ b)) = ofNarrative a ++ ofNarrative b := by
  obtain ⟨hne, hbreaks⟩ := he
  obtain ⟨c, e, rfl⟩ := List.exists_cons_of_ne_nil hne
  obtain ⟨hc, hbreaks⟩ := List.forall_mem_cons.mp hbreaks
  rw [List.cons_append, ofNarrative_append_cons hc, ofNarrative_boundaries_append hbreaks]

/-- A narrative of one line has its heading, if it is one. -/
theorem ofNarrative_inLine (hline : IsInLine line) :
    ofNarrative line = (heading? line).toList := by
  rw [ofNarrative_eq_pieces, Text.splitBy_eq_singleton hline]
  cases hread : heading? line with
  | none => exact List.filterMap_cons_none hread
  | some h => exact List.filterMap_cons_some hread

/--
**The outline of two narratives put together is their outlines put together.**

Between the two stands a line feed, a carriage return, the two as a pair, or any other run of
boundaries, and it does not matter whether some of it becomes a pair with what the first
narrative ends with or the second begins with. So a line adds the heading that it is, between
the headings of the lines before it and those of the lines behind it, whatever these are.
-/
theorem ofNarrative_append_boundary {e : Text} (he : IsBoundary e) (a b : Text) :
    ofNarrative (a ++ (e ++ b)) = ofNarrative a ++ ofNarrative b
      ∧ ∀ e' line, IsBoundary e' → IsInLine line →
        ofNarrative (a ++ (e ++ (line ++ (e' ++ b))))
          = ofNarrative a ++ ((heading? line).toList ++ ofNarrative b) := by
  refine ⟨ofNarrative_join he a b, fun e' line he' hline => ?_⟩
  rw [ofNarrative_join he, ofNarrative_join he', ofNarrative_inLine hline]

/-- The ends of lines that are in use, where they become pairs with what stands around them. -/
theorem ofNarrative_append_boundary_newlines :
    IsBoundary ['\n'] ∧ IsBoundary ['\r'] ∧ IsBoundary ['\r', '\n'] ∧ IsInLine "## B".toList
      ∧ ofNarrative ("# A\r".toList ++ (['\n'] ++ "\n## B".toList))
        = ofNarrative "# A\r".toList ++ ofNarrative "\n## B".toList
      ∧ ofNarrative ("# A".toList ++ (['\r'] ++ "\n## B".toList))
        = ofNarrative "# A".toList ++ ofNarrative "\n## B".toList
      ∧ ofNarrative ("# A\r".toList ++ (['\r', '\n'] ++ ("## B".toList ++ (['\r'] ++ []))))
        = [⟨1, ['A'], ['a']⟩, ⟨2, ['B'], ['b']⟩] := by
  have hfeed : IsBoundary ['\n'] := by decide
  have hreturn : IsBoundary ['\r'] := by decide
  have hpair : IsBoundary ['\r', '\n'] := by decide
  have hline : IsInLine "## B".toList := by decide
  refine ⟨hfeed, hreturn, hpair, hline, (ofNarrative_append_boundary hfeed _ _).1,
    (ofNarrative_append_boundary hreturn _ _).1, ?_⟩
  exact ((ofNarrative_append_boundary hpair "# A\r".toList []).2 _ _ hreturn hline).trans
    (by decide +kernel)

end Gamebook.Outline
