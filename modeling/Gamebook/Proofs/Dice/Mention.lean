import Gamebook.Dice.Mention
import Gamebook.Proofs.Dice.Parts
import Gamebook.Proofs.Text.Scan

/-!
# What a mentioned formula looks like

A formula in running text is written from its parts without blanks (`parts_of_mention`), so it
is made of digits, signs and one die letter, and it stands in the text as it is. Two things
follow for every text. Its pieces give the text back. And a text without a die letter mentions
nothing at all.
-/

namespace Gamebook.Dice

open Text (Piece)

/-- The characters of a formula. -/
def isFormulaChar (c : Char) : Bool := Text.isDigit c || isDieLetter c || isSign c

/-- A text of formula characters with a die letter among them. -/
structure IsFormula (f : Text) : Prop where
  chars : ∀ c ∈ f, isFormulaChar c = true
  die : ∃ d ∈ f, isDieLetter d = true

theorem isFormulaChar_of_isDigit {c : Char} (h : Text.isDigit c = true) :
    isFormulaChar c = true := by
  rw [isFormulaChar, h]
  rfl

/-- Parts that are written without blanks are a formula. -/
theorem isFormula_write {p : Parts} {die : Char} (hp : p.IsWellFormed)
    (hdie : isDieLetter die = true) : IsFormula (p.write die [] []) := by
  have hruns {ds : Text} (hds : ds ∈ p.runs) {c : Char} (hc : c ∈ ds) : isFormulaChar c = true :=
    isFormulaChar_of_isDigit (hp.isDigit ds hds c hc)
  obtain ⟨count, sides, modifier⟩ := p
  refine ⟨fun c hc => ?_, die, by simp [Parts.write], hdie⟩
  rw [Parts.write, List.mem_append, List.mem_cons, List.mem_append] at hc
  rcases hc with hc | rfl | hc | hc
  · exact hruns (by simp [Parts.runs]) hc
  · rw [isFormulaChar, hdie, Bool.or_true]
    rfl
  · exact hruns (by simp [Parts.runs]) hc
  · cases modifier with
    | none => exact absurd hc (by simp [Parts.writeModifier])
    | some m =>
        rcases List.mem_cons.mp hc with rfl | hc
        · rw [isFormulaChar, hp.isSign m rfl, Bool.or_true]
        · exact hruns (by simp [Parts.runs]) hc

/-! ## A formula is taken as a whole -/

theorem takeModifier_write {m : Option (Char × Text)} (hm : ∀ signed ∈ m, Parts.IsSigned signed) :
    takeModifier (Parts.writeModifier [] [] m) = (Parts.writeModifier [] [] m, []) := by
  cases m with
  | none => rfl
  | some m =>
      obtain ⟨hsign, hne, hdigits⟩ := hm m rfl
      show takeModifier (m.1 :: m.2) = (m.1 :: m.2, [])
      rw [takeModifier, if_pos hsign, Text.takeDigits?_eq_self hne hdigits]

theorem takeMention?_write {p : Parts} {die : Char} (hp : p.IsWellFormed)
    (hdie : isDieLetter die = true) :
    takeMention? (p.write die [] []) = some (p.write die [] [], []) := by
  rw [Parts.write, takeMention?, hp.takeDigits?_count hdie]
  dsimp only
  rw [if_pos hdie, hp.takeDigits?_sides (by simp)]
  dsimp only
  rw [takeModifier_write hp.isSigned, List.append_assoc, List.cons_append]

/-- **A formula without blanks mentions itself** and nothing else. -/
theorem mentions_write {p : Parts} {die : Char} (hp : p.IsWellFormed)
    (hdie : isDieLetter die = true) : mentions (p.write die [] []) = [p.write die [] []] := by
  have hne : p.write die [] [] ≠ [] := by simp [Parts.write]
  have hwhole : mention none (p.write die [] [])
      = some (p.write die [] [], (p.write die [] []).length) := by
    rw [mention, takeMention?_write hp hdie]
    rfl
  rw [mentions, mentionPieces, Text.scan_whole hne hwhole]
  rfl

/-! ## What is taken for a formula -/

theorem takeModifier_eq {t modifier rest : Text} (h : takeModifier t = (modifier, rest)) :
    t = modifier ++ rest
      ∧ ∃ m, modifier = Parts.writeModifier [] [] m ∧ ∀ signed ∈ m, Parts.IsSigned signed := by
  unfold takeModifier at h
  split at h
  · rename_i sign after
    split at h
    · rename_i hsign
      split at h
      · rename_i ds rest' htake
        obtain ⟨hafter, hne, hds, _⟩ := Text.takeDigits?_eq_some htake
        injection h with h1 h2
        subst h1; subst h2
        refine ⟨by rw [hafter, List.cons_append], some (sign, ds), rfl, fun signed hm => ?_⟩
        obtain rfl := Option.some.inj hm
        exact ⟨hsign, hne, hds⟩
      · injection h with h1 h2
        subst h1; subst h2
        exact ⟨rfl, none, rfl, by simp⟩
    · injection h with h1 h2
      subst h1; subst h2
      exact ⟨rfl, none, rfl, by simp⟩
  · injection h with h1 h2
    subst h1; subst h2
    exact ⟨rfl, none, rfl, by simp⟩

/-- A mention is a formula without blanks at the start of the text. -/
theorem takeMention?_eq_some {t f rest : Text} (h : takeMention? t = some (f, rest)) :
    t = f ++ rest
      ∧ ∃ p die, Parts.IsWellFormed p ∧ isDieLetter die = true ∧ f = p.write die [] [] := by
  unfold takeMention? at h
  split at h
  · rename_i count die after hcount
    obtain ⟨ht, hcountNe, hcountDigits, _⟩ := Text.takeDigits?_eq_some hcount
    split at h
    · rename_i hdie
      split at h
      · rename_i sides more hsides
        obtain ⟨hafter, hsidesNe, hsidesDigits, _⟩ := Text.takeDigits?_eq_some hsides
        obtain ⟨hmore, m, hmodifier, hm⟩ := @takeModifier_eq more _ _ rfl
        injection h with h
        injection h with h1 h2
        subst h1; subst h2
        refine ⟨?_, ⟨count, sides, m⟩, die,
          .of_runs hcountNe hcountDigits hsidesNe hsidesDigits hm, hdie, ?_⟩
        · rw [ht, hafter]
          conv_lhs => rw [hmore]
          simp
        · rw [hmodifier, Parts.write, List.append_assoc, List.cons_append]
      · exact absurd h (by simp)
    · exact absurd h (by simp)
  · exact absurd h (by simp)

theorem mention_eq_some {before : Option Char} {t f : Text} {n : Nat}
    (h : mention before t = some (f, n)) :
    t.take n = f ∧ n ≠ 0
      ∧ ∃ p die, Parts.IsWellFormed p ∧ isDieLetter die = true ∧ f = p.write die [] [] := by
  unfold mention at h
  split at h
  · exact absurd h (by simp)
  · obtain ⟨⟨f', rest⟩, htake, hr⟩ := Option.map_eq_some_iff.mp h
    injection hr with h1 h2
    subst h1; subst h2
    obtain ⟨ht, p, die, hp, hdie, rfl⟩ := takeMention?_eq_some htake
    refine ⟨by rw [ht]; exact List.take_left, ?_, p, die, hp, hdie, rfl⟩
    simp [Parts.write]

/-- **A mentioned formula is written without blanks.** -/
theorem parts_of_mention {t f : Text} (h : .found f ∈ mentionPieces t) :
    ∃ p die, Parts.IsWellFormed p ∧ isDieLetter die = true ∧ f = p.write die [] [] := by
  obtain ⟨before, u, n, _, hfind⟩ := Text.find_of_mem_scanFrom h
  exact (mention_eq_some hfind).2.2

theorem isFormula_of_mem_mentionPieces {t f : Text} (h : .found f ∈ mentionPieces t) :
    IsFormula f := by
  obtain ⟨p, die, hp, hdie, rfl⟩ := parts_of_mention h
  exact isFormula_write hp hdie

/-- **The pieces of a text give it back.** -/
theorem render_mentionPieces (t : Text) : Piece.render id (mentionPieces t) = t :=
  Text.render_scanFrom (fun _ _ _ _ h => ⟨(mention_eq_some h).2.1, (mention_eq_some h).1⟩) none 0 t

/-- **A text without a die letter mentions no formula.** -/
theorem mentionPieces_of_no_die {t : Text} (h : ∀ c ∈ t, isDieLetter c = false) :
    mentionPieces t = t.map .plain := by
  -- the die letter of a formula would be a character of the text
  have hnone (f : Text) : .found f ∉ mentionPieces t := by
    intro hf
    obtain ⟨d, hd, hdie⟩ := (isFormula_of_mem_mentionPieces hf).die
    have hmem : d ∈ Piece.render id (mentionPieces t) := Piece.mem_render_of_found hf hd
    rw [render_mentionPieces] at hmem
    exact absurd (h d hmem) (by rw [hdie]; decide)
  have hplain := Piece.eq_map_plain id hnone
  rwa [render_mentionPieces] at hplain

end Gamebook.Dice
