import Gamebook.Proofs.Fallible
import Gamebook.Proofs.Html.Forest
import Gamebook.Proofs.Html.Source

/-!
# Escaped texts are read back

A forest whose texts hold brackets, ampersands or quotes is written with these characters escaped. A
reader takes each of the five references for the character that it stands for, so the forest is read
back as if it had been written plainly (`parse_escaped`). Its texts may hold any characters.

Text can be cut into events in many ways, and escaped text is: each reference is an event of its
own. `Builds` says of a text what its events do to the tree, however it is cut.
-/

namespace Gamebook.Html

open Text (Piece)

/-- A reader that has come to a text does `f` to the tree that it builds. -/
def Builds (t : Text) (f : Builder → Builder) : Prop :=
  Meets (fun es => ∀ b, es.foldl Builder.step b = f b) t

variable {c : Char} {t u rest after : Text} {es : List Event} {f : Builder → Builder}

theorem Builds.parse (h : Builds t f) : parse t = .ok (f .empty).finish := by
  obtain ⟨es, hes, hbuilt⟩ := Meets.events h
  rw [Html.parse, hes, Except.map, hbuilt]

theorem builds_nil : Builds [] id := Meets.nil fun _ => rfl

/-- A step that leaves a text does what its events do before the text does its own. -/
theorem Builds.step (hstep : stepAt false c rest = .ok (.events es after))
    (hraw : opensRaw? es = none) (hafter : after <:+ rest) (h : Builds after f) :
    Builds (c :: rest) fun b => f (es.foldl Builder.step b) := by
  refine Meets.step hstep hraw hafter h fun es' hbuilt b => ?_
  rw [List.foldl_append, hbuilt]

theorem Builds.tag {tag : Tag} (htag : tag.IsOrdinary) (h : Builds rest f) :
    Builds (tag.write ++ rest) fun b => f (b.take (.found tag)) :=
  Meets.tag htag h fun _ hbuilt b => hbuilt (b.step tag.event)

/-- Whether a character begins neither a tag nor a reference. -/
def isRunningChar (c : Char) : Bool := c != '<' && c != '&'

/-- Text is taken up to the next tag or reference. -/
theorem stepAt_run (hc : isRunningChar c = true) (rest : Text) :
    stepAt false c rest
      = .ok (.events [.text (c :: rest.takeWhile isRunningChar)]
          (rest.dropWhile isRunningChar)) := by
  obtain ⟨hangle, hamp⟩ : c ≠ '<' ∧ c ≠ '&' := by simpa [isRunningChar] using hc
  have hspan : (c :: rest).span isRunningChar
      = (c :: rest.takeWhile isRunningChar, rest.dropWhile isRunningChar) := by
    rw [List.span_eq_takeWhile_dropWhile, List.takeWhile_cons_of_pos hc,
      List.dropWhile_cons_of_pos hc]
  have hstep : stepAt false c rest = .ok (.events [.text ((c :: rest).span isRunningChar).1]
      ((c :: rest).span isRunningChar).2) := stepAt_text hangle hamp
  rwa [hspan] at hstep

/-- A character of running text waits for the next tag. With the text behind it, it makes one event,
which does what the two would do. -/
theorem Builds.text (hc : isRunningChar c = true) (h : Builds rest f) :
    Builds (c :: rest) fun b => f (b.take (.plain c)) := by
  have hstep := stepAt_run hc rest
  cases rest with
  | nil => exact h.step hstep rfl List.suffix_rfl
  | cons d t =>
      cases hd : isRunningChar d with
      | false =>
          rw [List.takeWhile_cons_of_neg (by simp [hd]),
            List.dropWhile_cons_of_neg (by simp [hd])] at hstep
          exact h.step hstep rfl List.suffix_rfl
      | true =>
          rw [List.takeWhile_cons_of_pos hd, List.dropWhile_cons_of_pos hd] at hstep
          intro fuel hfuel
          obtain ⟨fuel, rfl⟩ : ∃ n, fuel = n + 1 := Nat.exists_eq_succ_of_ne_zero (by omega)
          obtain ⟨es, hes, hbuilt⟩ := h (fuel + 1) (by rw [List.length_cons] at hfuel; omega)
          rw [eventsFrom_events (stepAt_run hd t) rfl] at hes
          obtain ⟨es', hes', rfl⟩ := Fallible.map_eq_ok_iff.mp hes
          refine ⟨_, by rw [eventsFrom_events hstep rfl, hes']; rfl, fun b => ?_⟩
          refine Eq.trans ?_ (hbuilt (b.take (.plain c)))
          generalize t.takeWhile isRunningChar = u
          show es'.foldl Builder.step { b with pending := b.pending ++ ([c] ++ d :: u) }
            = es'.foldl Builder.step { b with pending := b.pending ++ [c] ++ d :: u }
          rw [List.append_assoc]

/-- A character that is written in escaped text is read as that character. -/
theorem Builds.escapeChar (c : Char) (h : Builds rest f) :
    Builds (escapeChar c ++ rest) fun b => f (b.take (.plain c)) := by
  have reference {u : Text}
      (hstep : stepAt false '&' (u ++ rest) = .ok (.events [.text [c]] rest)) :
      Builds ('&' :: (u ++ rest)) fun b => f (b.take (.plain c)) :=
    h.step hstep rfl (List.suffix_append u rest)
  have named {u : Text} (hu : ∀ more, u ++ rest ≠ '#' :: more)
      (hread : nameReference false (u ++ rest) = .events [.text [c]] rest) :
      Builds ('&' :: (u ++ rest)) fun b => f (b.take (.plain c)) :=
    reference (by rw [stepAt_name hu, hread])
  unfold Html.escapeChar
  split
  · exact named (u := "amp;".toList) (by simp) rfl
  · exact named (u := "lt;".toList) (by simp) rfl
  · exact named (u := "gt;".toList) (by simp) rfl
  · exact named (u := "quot;".toList) (by simp) rfl
  · refine reference (u := "#x27;".toList) ?_
    exact (stepAt_number _).trans
      (@numberReference_hex 'x' "27".toList (by simp) (by simp)
        (List.all_iff_forall_prop.mp (by decide)) rest)
  · rename_i hamp hangle _ _ _
    exact h.text (by simpa [isRunningChar] using ⟨hangle, hamp⟩)

/-! ## Pieces -/

theorem builds_escaped {ps : List (Piece Tag)}
    (hps : ∀ tag, .found tag ∈ ps → tag.IsOrdinary) :
    Builds (writeBy Html.escapeChar ps) fun b => ps.foldl Builder.take b := by
  induction ps with
  | nil => exact builds_nil
  | cons p ps ih =>
      have hlater := ih fun tag htag => hps tag (List.mem_cons_of_mem p htag)
      cases p with
      | plain c => exact hlater.escapeChar c
      | found tag => exact hlater.tag (hps tag (List.mem_cons_self ..))

/-- **A forest that is written with its texts escaped is read back.** -/
theorem parse_escaped {ns : List Node} (h : AreOrdinary ns) :
    parse (writeBy escapeChar (piecesOf ns)) = .ok (merged ns) := by
  have htags : ∀ tag, .found tag ∈ piecesOf ns → tag.IsOrdinary :=
    fun _ htag => isOrdinary_of_mem_piecesOf h htag
  rw [(builds_escaped htags).parse, Builder.finish_take_piecesOf h]

end Gamebook.Html
