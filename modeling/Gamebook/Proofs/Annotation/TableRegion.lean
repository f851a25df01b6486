import Gamebook.Annotation.TableRegion
import Gamebook.Proofs.Text.Scan
import Gamebook.Proofs.Text.Words

/-!
# The regions of a rendered text

What `TableRegion.take?` reads at a place depends on optional words at four corners:
a paragraph may open before either mark and close behind it. `take?_eq` is the one
account of a region; a text that is written with marks only has to show what its own
corners are. Where no brace follows, no region begins.
-/

namespace Gamebook.TableRegion

open Text (Piece scan)

/-! ## Optional words -/

theorem dropOptional_append (word t : Text) : dropOptional word (word ++ t) = t := by
  rw [dropOptional, Text.after?_append]
  rfl

theorem dropOptional_of_ne {w c : Char} (h : w ≠ c) (word t : Text) :
    dropOptional (w :: word) (c :: t) = c :: t := by
  rw [dropOptional, Text.after?_cons_of_ne h]
  rfl

theorem dropOptional_suffix (word t : Text) : dropOptional word t <:+ t := by
  unfold dropOptional
  cases hafter : Text.after? word t with
  | none => exact List.suffix_rfl
  | some rest => exact ⟨word, (Text.after?_eq_some.mp hafter).symm⟩

theorem dropOptionalEnd_append (word t : Text) : dropOptionalEnd word (t ++ word) = t := by
  have hlength : (t ++ word).length - word.length = t.length := by
    rw [List.length_append, Nat.add_sub_cancel]
  rw [dropOptionalEnd, hlength, if_pos (List.drop_left ..), List.take_left]

/-- A word is not dropped from the end of a text that ends with another character. -/
theorem dropOptionalEnd_of_ne {c d : Char} (h : c ≠ d) (word t : Text) :
    dropOptionalEnd (word ++ [c]) (t ++ [d]) = t ++ [d] := by
  rw [dropOptionalEnd, if_neg]
  intro he
  have hlast := congrArg List.getLast? he
  rw [List.getLast?_drop] at hlast
  split at hlast
  · simp at hlast
  · simp only [List.getLast?_append, List.getLast?_singleton, Option.some_or,
      Option.some.injEq] at hlast
    exact h hlast.symm

/-! ## A region at the start of a text -/

theorem forgets_recognise : Text.Forgets recognise := fun _ _ => rfl

theorem takeDigits?_openingEnd {ds : Text} (hne : ds ≠ []) (hds : ∀ c ∈ ds, Text.isDigit c = true)
    (t : Text) : Text.takeDigits? (ds ++ (openingEnd ++ t)) = some (ds, openingEnd ++ t) :=
  Text.takeDigits?_append_cons hne hds (c := '\x7d') (by decide) ('\x7d' :: t)

/-- A region is read off the place of its closing mark. -/
theorem take?_of_cutAt? {t ds behind content rest : Text}
    (hopening : dropOptional paragraph t = opening ++ (ds ++ (openingEnd ++ behind)))
    (hne : ds ≠ []) (hds : ∀ c ∈ ds, Text.isDigit c = true)
    (hcut : Text.cutAt? closing (dropOptional paragraphEnd behind) = some (content, rest)) :
    take? t = some (⟨ds, dropOptionalEnd paragraph content⟩, dropOptional paragraphEnd rest) := by
  rw [take?, hopening, Text.after?_append]
  simp only [bind, Option.bind, takeDigits?_openingEnd hne hds, Text.after?_append, hcut]
  rfl

/-- A region: its opening mark with its digits, what stands between the marks, and its closing
mark. -/
theorem take?_eq {t ds afterOpening body rest : Text}
    (hopening : dropOptional paragraph t = opening ++ (ds ++ (openingEnd ++ afterOpening)))
    (hne : ds ≠ []) (hds : ∀ c ∈ ds, Text.isDigit c = true)
    (hbody : dropOptional paragraphEnd afterOpening = body ++ (closing ++ rest))
    (hbrace : '\x7b' ∉ body) :
    take? t = some (⟨ds, dropOptionalEnd paragraph body⟩, dropOptional paragraphEnd rest) := by
  refine take?_of_cutAt? hopening hne hds ?_
  rw [hbody]
  exact Text.cutAt?_append hbrace closing.tail rest

/-- Where an opening mark stands and the word of a closing one behind it, a region is read that has
the digits of the mark. -/
theorem exists_take? {ds behind : Text} (hne : ds ≠ []) (hds : ∀ c ∈ ds, Text.isDigit c = true)
    (hclosing : closing <:+: behind) :
    ∃ content rest,
      take? (opening ++ (ds ++ (openingEnd ++ behind))) = some (⟨ds, content⟩, rest) := by
  have hdrop : dropOptional paragraph (opening ++ (ds ++ (openingEnd ++ behind)))
      = opening ++ (ds ++ (openingEnd ++ behind)) := dropOptional_of_ne (by decide) _ _
  -- the end of a paragraph holds no brace, so the closing mark is not touched
  have hbody : closing <:+: dropOptional paragraphEnd behind := by
    unfold dropOptional
    cases hafter : Text.after? paragraphEnd behind with
    | none => exact hclosing
    | some rest =>
        rw [Text.after?_eq_some.mp hafter] at hclosing
        exact Text.infix_of_infix_append (by decide) hclosing
  obtain ⟨r, hcut⟩ := Option.isSome_iff_exists.mp (Text.isSome_cutAt?_iff.mpr hbody)
  exact ⟨_, _, take?_of_cutAt? hdrop hne hds hcut⟩

theorem isSome_take? {ds behind : Text} (hne : ds ≠ []) (hds : ∀ c ∈ ds, Text.isDigit c = true)
    (hclosing : closing <:+: behind) :
    (take? (opening ++ (ds ++ (openingEnd ++ behind)))).isSome := by
  obtain ⟨content, rest, htake⟩ := exists_take? hne hds hclosing
  rw [htake]
  rfl

theorem scan_region {word t : Text} {r : Region} (hne : word ≠ [])
    (h : take? (word ++ t) = some (r, t)) :
    scan recognise (word ++ t) = .found r :: scan recognise t := by
  refine Text.scan_found forgets_recognise hne ?_
  rw [recognise, h]
  simp

/-- What stands where a region is read: an opening mark with its digits, and behind it the word of
a closing one. -/
theorem marks_of_take? {t rest : Text} {r : Region} (h : take? t = some (r, rest)) :
    ∃ ds behind, ds ≠ [] ∧ (∀ c ∈ ds, Text.isDigit c = true)
      ∧ dropOptional paragraph t = opening ++ ds ++ openingEnd ++ behind ∧ closing <:+: behind := by
  obtain ⟨afterOpening, hopening, h⟩ := Option.bind_eq_some_iff.mp h
  obtain ⟨⟨ds, afterDie⟩, hdie, h⟩ := Option.bind_eq_some_iff.mp h
  obtain ⟨behind, hend, h⟩ := Option.bind_eq_some_iff.mp h
  obtain ⟨⟨content, afterMark⟩, hcut, -⟩ := Option.bind_eq_some_iff.mp h
  obtain ⟨hafter, hne, hds, -⟩ := Text.takeDigits?_eq_some hdie
  refine ⟨ds, behind, hne, hds, ?_, ?_⟩
  · rw [Text.after?_eq_some.mp hopening, hafter, Text.after?_eq_some.mp hend]
    simp only [List.append_assoc]
  · have hbody : closing <:+: dropOptional paragraphEnd behind := by
      rw [Text.eq_append_of_cutAt? hcut]
      exact ⟨content, afterMark, by rw [List.append_assoc]⟩
    exact hbody.trans (dropOptional_suffix paragraphEnd behind).isInfix

/-! ## Where no region begins -/

theorem take?_of_ne {c : Char} (hbrace : c ≠ '\x7b') (hangle : c ≠ '<') (t : Text) :
    take? (c :: t) = none := by
  have hdrop : dropOptional paragraph (c :: t) = c :: t := dropOptional_of_ne (Ne.symm hangle) _ t
  have hafter : Text.after? opening (c :: t) = none := Text.after?_cons_of_ne (Ne.symm hbrace) _ t
  rw [take?, hdrop, hafter]
  rfl

/-- An opening angle bracket begins a region only as part of a paragraph right before a brace. -/
theorem take?_angle {t : Text} (h : ∀ rest, t ≠ 'p' :: '>' :: '\x7b' :: rest) :
    take? ('<' :: t) = none := by
  have hafter : Text.after? opening (dropOptional paragraph ('<' :: t)) = none := by
    unfold dropOptional
    cases hp : Text.after? paragraph ('<' :: t) with
    | none => exact Text.after?_cons_of_ne (by decide) _ t
    | some rest =>
        cases rest with
        | nil => rfl
        | cons c rest =>
            have ht := Text.after?_eq_some.mp hp
            refine Text.after?_cons_of_ne (fun hc => h rest ?_) _ rest
            injection ht with _ ht
            rw [ht, ← hc]
            rfl
  rw [take?, hafter]
  rfl

theorem scan_of_take?_eq_none {c : Char} {t : Text} (h : take? (c :: t) = none) :
    scan recognise (c :: t) = .plain c :: scan recognise t :=
  Text.scan_passed forgets_recognise (by rw [recognise, h]; rfl)

/-! ## The container of a region -/

/-- A container shows the digits of its region and, trimmed, what stands between the marks. -/
theorem container_congr (id : Text) {r r' : Region} (hdie : r.die = r'.die)
    (hcontent : Text.trim r.content = Text.trim r'.content) : container id r = container id r' := by
  unfold container
  rw [hdie, hcontent]

end Gamebook.TableRegion
