import Gamebook.Text.Blank
import Gamebook.Text.Case
import Gamebook.Text.Digit
import Gamebook.Text.Word
import Mathlib.Data.List.DropRight
import Mathlib.Data.List.TakeDrop
import Mathlib.Data.List.TakeWhile

/-!
# Words at the start of a text

The recognisers of marks are put together from three moves: take a fixed word off the
start of a text, take a run of characters off it, and look for the next place of a
word. This file says what each of them does to a text that is *written* as a word and
a rest, which is the form that every text of the annotation has.

Trimming is here as well. It is dropping from both ends, so it does not see blanks
that are added at an end.
-/

namespace Gamebook.Text

/-! ## Fixed words -/

theorem after?_append (word t : Text) : after? word (word ++ t) = some t := by
  induction word with
  | nil => rfl
  | cons w word ih => simp [after?, ih]

/-- Taking a word off a text succeeds exactly on the texts that begin with it. -/
theorem after?_eq_some {word t rest : Text} : after? word t = some rest ↔ t = word ++ rest := by
  constructor
  · induction word generalizing t with
    | nil => intro h; injection h
    | cons w word ih =>
        intro h
        cases t with
        | nil => simp [after?] at h
        | cons c t =>
            rw [after?] at h
            split at h
            · rename_i hw
              rw [hw, ih h, List.cons_append]
            · exact absurd h (by simp)
  · rintro rfl
    exact after?_append word rest

theorem after?_cons_of_ne {w c : Char} (h : w ≠ c) (word t : Text) :
    after? (w :: word) (c :: t) = none := by
  rw [after?, if_neg h]

/-- A word does not begin a text if the two differ before either of them ends. -/
theorem after?_eq_none_of_start {word start x : Text} (hstart : start <+: x)
    (h : ¬word <+: start) (h' : ¬start <+: word) (t : Text) : after? word (x ++ t) = none := by
  refine Option.eq_none_iff_forall_ne_some.mpr fun rest hafter => ?_
  have hword : word <+: x ++ t := ⟨rest, (after?_eq_some.mp hafter).symm⟩
  rcases List.prefix_or_prefix_of_prefix hword (hstart.trans (List.prefix_append x t)) with
    hle | hle
  · exact h hle
  · exact h' hle

theorem startsWith_append (word t : Text) : startsWith word (word ++ t) = true := by
  rw [startsWith, after?_append]
  rfl

/-- A word at the start of two texts stands in the first, if the second begins with a character
that is none of the word's. -/
theorem eq_append_of_stop {word rest u v : Text} (h : u ++ v = word ++ rest)
    (hstop : ∀ c ∈ v.head?, c ∉ word) : ∃ more, u = word ++ more ∧ rest = more ++ v := by
  rcases List.append_eq_append_iff.mp h with ⟨beyond, hword, hv⟩ | ⟨more, hu, hrest⟩
  · cases beyond with
    | nil => exact ⟨[], by simpa using hword.symm, by simpa using hv.symm⟩
    | cons c beyond =>
        refine absurd ?_ (hstop c (by rw [hv]; rfl))
        rw [hword]
        simp
  · exact ⟨more, hu, hrest⟩

/-- A run ends with a text behind which a character of another kind stands. -/
theorem takeWhile_append_of_stop {p : Char → Bool} {u v : Text}
    (hstop : ∀ c ∈ v.head?, p c = false) : (u ++ v).takeWhile p = u.takeWhile p := by
  induction u with
  | nil =>
      cases v with
      | nil => rfl
      | cons c v => exact List.takeWhile_cons_of_neg (by simp [hstop c rfl])
  | cons c u ih => rw [List.cons_append, List.takeWhile_cons, List.takeWhile_cons, ih]

/-- A word is not looked for where its first character does not stand. -/
theorem infix_of_infix_append {w : Char} {word u v : Text} (hu : w ∉ u)
    (h : w :: word <:+: u ++ v) : w :: word <:+: v := by
  induction u with
  | nil => exact h
  | cons c u ih =>
      rcases List.infix_cons_iff.mp h with hstart | hlater
      · exact absurd (List.cons_prefix_cons.mp hstart).1 fun he => hu (by simp [he])
      · exact ih (fun hm => hu (by simp [hm])) hlater

/-- The first place of a word, where no character before it is the one that begins the word. -/
theorem cutAt?_append {w : Char} {u : Text} (h : w ∉ u) (word t : Text) :
    cutAt? (w :: word) (u ++ (w :: word ++ t)) = some (u, t) := by
  induction u with
  | nil =>
      show cutAt? (w :: word) (w :: (word ++ t)) = _
      rw [cutAt?, show w :: (word ++ t) = (w :: word) ++ t from rfl, after?_append]
  | cons c u ih =>
      have hc : w ≠ c := fun he => h (by simp [he])
      have hu : w ∉ u := fun hm => h (by simp [hm])
      rw [List.cons_append, cutAt?, after?_cons_of_ne hc, ih hu]
      rfl

theorem eq_append_of_cutAt? {word t u rest : Text} (h : cutAt? word t = some (u, rest)) :
    t = u ++ (word ++ rest) := by
  induction t generalizing u with
  | nil =>
      rw [cutAt?] at h
      split at h
      · rename_i hword
        injection h with h
        injection h with h1 h2
        rw [← h1, ← h2, hword]
        rfl
      · exact absurd h (by simp)
  | cons c t ih =>
      rw [cutAt?] at h
      split at h
      · rename_i hafter
        injection h with h
        injection h with h1 h2
        rw [← h1, ← h2, List.nil_append]
        exact after?_eq_some.mp hafter
      · obtain ⟨⟨u', rest'⟩, hcut, heq⟩ := Option.map_eq_some_iff.mp h
        injection heq with h1 h2
        subst h1 h2
        rw [ih hcut, List.cons_append]

/-- A text is cut at a word exactly if the word stands in it. -/
theorem isSome_cutAt?_iff {word t : Text} : (cutAt? word t).isSome ↔ word <:+: t := by
  constructor
  · intro h
    obtain ⟨⟨u, rest⟩, hcut⟩ := Option.isSome_iff_exists.mp h
    exact ⟨u, rest, by rw [eq_append_of_cutAt? hcut, List.append_assoc]⟩
  · rintro ⟨u, rest, rfl⟩
    induction u with
    | nil =>
        rw [List.nil_append]
        cases word with
        | nil => cases rest <;> rfl
        | cons w word =>
            have hcut := @cutAt?_append w [] (by simp) word rest
            rw [List.nil_append] at hcut
            rw [hcut]
            rfl
    | cons c u ih =>
        rw [List.cons_append, List.cons_append, cutAt?]
        split
        · rfl
        · rw [Option.isSome_map]
          exact ih

/-- A text is cut at the first place of the word. -/
theorem cutAt?_eq_some_iff {word t u rest : Text} :
    cutAt? word t = some (u, rest)
      ↔ t = u ++ (word ++ rest) ∧ ∀ v more, t = v ++ (word ++ more) → u.length ≤ v.length := by
  have hfirst {t u rest : Text} (h : cutAt? word t = some (u, rest)) {v more : Text}
      (ht : t = v ++ (word ++ more)) : u.length ≤ v.length := by
    induction t generalizing u v with
    | nil =>
        have hlength := congrArg List.length (eq_append_of_cutAt? h)
        simp only [List.length_nil, List.length_append] at hlength
        omega
    | cons c t ih =>
        rw [cutAt?] at h
        split at h
        · obtain ⟨rfl, -⟩ := Prod.mk.inj (Option.some.inj h)
          exact Nat.zero_le _
        · rename_i hafter
          obtain ⟨⟨u', rest'⟩, hcut, heq⟩ := Option.map_eq_some_iff.mp h
          obtain ⟨rfl, rfl⟩ := Prod.mk.inj heq
          cases v with
          | nil =>
              rw [ht, List.nil_append, after?_append] at hafter
              exact absurd hafter (by simp)
          | cons d v => exact Nat.succ_le_succ (ih hcut (List.cons.inj ht).2)
  constructor
  · exact fun h => ⟨eq_append_of_cutAt? h, fun v more => hfirst h⟩
  · rintro ⟨ht, hleast⟩
    have hin : word <:+: t := ⟨u, rest, by rw [ht, List.append_assoc]⟩
    obtain ⟨⟨v, more⟩, hcut⟩ := Option.isSome_iff_exists.mp (isSome_cutAt?_iff.mpr hin)
    have ht' := eq_append_of_cutAt? hcut
    have hlength : u.length = v.length :=
      Nat.le_antisymm (hleast v more ht') (hfirst hcut ht)
    obtain ⟨rfl, hrest⟩ := List.append_inj (ht.symm.trans ht') hlength
    rw [hcut, List.append_cancel_left hrest]

/-! ## Runs of characters -/

/-- A run ends where the first other character stands. -/
theorem span_append {p : Char → Bool} {u t : Text} (hu : ∀ c ∈ u, p c = true)
    (ht : ∀ c ∈ t.head?, p c = false) : (u ++ t).span p = (u, t) := by
  rw [List.span_eq_takeWhile_dropWhile, List.takeWhile_append_of_pos hu,
    List.dropWhile_append_of_pos hu]
  cases t with
  | nil => simp
  | cons c t => simp [ht c rfl]

theorem eq_append_of_span {p : Char → Bool} {t u v : Text} (h : t.span p = (u, v)) :
    t = u ++ v ∧ ∀ c ∈ u, p c = true := by
  rw [List.span_eq_takeWhile_dropWhile, Prod.mk.injEq] at h
  obtain ⟨rfl, rfl⟩ := h
  exact ⟨List.takeWhile_append_dropWhile.symm, fun c hc => List.mem_takeWhile_imp hc⟩

theorem takeDigits?_append {ds t : Text} (hne : ds ≠ []) (hds : ∀ c ∈ ds, isDigit c = true)
    (ht : ∀ c ∈ t.head?, isDigit c = false) : takeDigits? (ds ++ t) = some (ds, t) := by
  unfold takeDigits?
  rw [span_append hds ht]
  cases ds with
  | nil => exact absurd rfl hne
  | cons d ds => rfl

/-- Digits are taken up to a character of another kind. -/
theorem takeDigits?_append_cons {ds : Text} {c : Char} (hne : ds ≠ [])
    (hds : ∀ d ∈ ds, isDigit d = true) (hc : isDigit c = false) (t : Text) :
    takeDigits? (ds ++ c :: t) = some (ds, c :: t) := by
  refine takeDigits?_append hne hds fun d hd => ?_
  obtain rfl := Option.some.inj hd
  exact hc

/-- A text of digits alone is taken as a whole. -/
theorem takeDigits?_eq_self {ds : Text} (hne : ds ≠ []) (hds : ∀ c ∈ ds, isDigit c = true) :
    takeDigits? ds = some (ds, []) := by
  have htake := takeDigits?_append hne hds (t := []) (by simp)
  rwa [List.append_nil] at htake

/-- What is taken as digits is a nonempty run of them, as long as it goes. -/
theorem takeDigits?_eq_some {t ds rest : Text} (h : takeDigits? t = some (ds, rest)) :
    t = ds ++ rest ∧ ds ≠ [] ∧ (∀ c ∈ ds, isDigit c = true)
      ∧ ∀ c ∈ rest.head?, isDigit c = false := by
  unfold takeDigits? at h
  rw [List.span_eq_takeWhile_dropWhile] at h
  split at h
  · exact absurd h (by simp)
  · rename_i run after hne hrun
    injection h with h
    injection h with h1 h2
    injection hrun with h3 h4
    subst h1; subst h2
    refine ⟨?_, hne, ?_, ?_⟩
    · rw [← h3, ← h4, List.takeWhile_append_dropWhile]
    · rw [← h3]
      exact fun c hc => List.mem_takeWhile_imp hc
    · intro c hc
      rw [← h4] at hc
      have := List.head?_dropWhile_not isDigit t
      rw [Option.mem_def.mp hc] at this
      simpa using this

theorem takeDigits?_of_digit {t : Text} (h : ∃ c ∈ t.head?, isDigit c = true) :
    takeDigits? t = some (t.takeWhile isDigit, t.dropWhile isDigit) := by
  obtain ⟨c, hc, hdigit⟩ := h
  obtain ⟨rest, rfl⟩ := List.head?_eq_some_iff.mp hc
  rw [takeDigits?, List.span_eq_takeWhile_dropWhile, List.takeWhile_cons_of_pos hdigit]

theorem takeDigits?_of_not_digit {t : Text} (h : ¬∃ c ∈ t.head?, isDigit c = true) :
    takeDigits? t = none := by
  rw [takeDigits?, List.span_eq_takeWhile_dropWhile]
  cases t with
  | nil => rfl
  | cons c t =>
      have hc : ¬isDigit c = true := fun hc => h ⟨c, rfl, hc⟩
      rw [List.takeWhile_cons_of_neg hc]

/-- No digit of any script is a blank. -/
theorem isBlank_of_isDigit {c : Char} (h : isDigit c = true) : isBlank c = false := by
  -- no script has its digits where the blanks are
  have hapart : ∀ z ∈ digitZeros, z + 10 ≤ 0x85 ∨ (0x86 ≤ z ∧ z + 10 ≤ 0xa0)
      ∨ (0xa1 ≤ z ∧ z + 10 ≤ 0x1680) ∨ (0x1681 ≤ z ∧ z + 10 ≤ 0x2000)
      ∨ (0x200b ≤ z ∧ z + 10 ≤ 0x2028) ∨ (0x2060 ≤ z ∧ z + 10 ≤ 0x3000) ∨ 0x3001 ≤ z := by decide
  rw [isDigit, digitValue?] at h
  rw [isBlank]
  generalize c.toNat = n at h ⊢
  split at h
  · split at h
    · exact absurd h (by simp)
    · simp
      omega
  · rw [Option.isSome_map, List.find?_isSome] at h
    obtain ⟨z, hz, hn⟩ := h
    have hz' := hapart z hz
    simp at hn ⊢
    omega

/-- Below U+0080 the digits are the ten figures. -/
theorem isDigit_iff_of_ascii {c : Char} (h : c.toNat < 0x80) :
    isDigit c = true ↔ 48 ≤ c.toNat ∧ c.toNat ≤ 57 := by
  rw [isDigit, digitValue?, if_pos h]
  split
  · simp
    omega
  · split
    · simp
      omega
    · simp
      omega

/-- A letter without an accent. -/
theorem isAlpha_iff {c : Char} : c.isAlpha = true ↔
    65 ≤ c.toNat ∧ c.toNat ≤ 90 ∨ 97 ≤ c.toNat ∧ c.toNat ≤ 122 := by
  delta Char.isAlpha Char.isUpper Char.isLower
  simp only [Bool.or_eq_true, Bool.and_eq_true, decide_eq_true_eq, UInt32.le_iff_toNat_le,
    ge_iff_le]
  exact Iff.rfl

/-- A letter or figure without an accent. -/
theorem isAlphanum_iff {c : Char} : c.isAlphanum = true ↔
    65 ≤ c.toNat ∧ c.toNat ≤ 90 ∨ 97 ≤ c.toNat ∧ c.toNat ≤ 122
      ∨ 48 ≤ c.toNat ∧ c.toNat ≤ 57 := by
  delta Char.isAlphanum Char.isDigit
  simp only [Bool.or_eq_true, isAlpha_iff, Bool.and_eq_true, decide_eq_true_eq,
    UInt32.le_iff_toNat_le, ge_iff_le, or_assoc]
  exact Iff.rfl

theorem isWord_of_isAlphanum {c : Char} (h : c.isAlphanum = true) : isWord c = true := by
  have hascii : c.toNat < 0x80 := by
    rcases isAlphanum_iff.mp h with h | h | h <;> omega
  rw [isWord, if_pos hascii, h]
  rfl

/-- Without accents the lower case of a text is that of its characters. -/
theorem lower_of_ascii {t : Text} (h : ∀ c ∈ t, c.toNat < 0x80) : lower t = t.map Char.toLower := by
  have hafter : ∀ before, lowerAfter before t = t.map Char.toLower := by
    induction t with
    | nil => intro before; rfl
    | cons c t ih =>
        intro before
        have hc := h c (by simp)
        have hsigma : ¬(c.toNat == 0x3a3) = true := by
          rw [beq_iff_eq]
          omega
        rw [lowerAfter, if_neg hsigma, lowerChar, if_pos hc, ih (fun x hx => h x (by simp [hx]))]
        rfl
  exact hafter []

/-- Every digit belongs to a word. -/
theorem isWord_of_isDigit {c : Char} (h : isDigit c = true) : isWord c = true := by
  by_cases hascii : c.toNat < 0x80
  · have hfigure := (isDigit_iff_of_ascii hascii).mp h
    exact isWord_of_isAlphanum (isAlphanum_iff.mpr (.inr (.inr hfigure)))
  · -- the digits of a script lie in one range of the characters of words
    have hruns : digitZeros.all (fun z => Nat.ble (z + 10) 0x80
        || wordRanges.any fun r => Nat.ble r.1 z && Nat.ble (z + 9) r.2) = true := by
      decide +kernel
    rw [isDigit, digitValue?, if_neg hascii, Option.isSome_map, List.find?_isSome] at h
    obtain ⟨z, hz, hn⟩ := h
    simp only [Bool.and_eq_true, decide_eq_true_eq] at hn
    rw [isWord, if_neg hascii]
    obtain hbelow | hrange := Bool.or_eq_true_iff.mp (List.all_eq_true.mp hruns z hz)
    · have := Nat.le_of_ble_eq_true hbelow
      omega
    · obtain ⟨r, hr, hin⟩ := List.any_eq_true.mp hrange
      rw [Bool.and_eq_true, Nat.ble_eq, Nat.ble_eq] at hin
      refine List.any_eq_true.mpr ⟨r, hr, ?_⟩
      simp only [Bool.and_eq_true, decide_eq_true_eq]
      omega

/-! ## Pieces between characters -/

theorem splitBy_ne_nil (p : Char → Bool) (t : Text) : splitBy p t ≠ [] := by
  cases t with
  | nil => exact List.cons_ne_nil [] []
  | cons c t =>
      rw [splitBy]
      split
      · exact List.cons_ne_nil [c] []
      · split <;> exact List.cons_ne_nil _ _

/-- No piece holds one of the characters that the text was cut at. -/
theorem not_of_mem_splitBy {p : Char → Bool} {t piece : Text} (h : piece ∈ splitBy p t) {c : Char}
    (hc : c ∈ piece) : p c = false := by
  induction t generalizing piece with
  | nil =>
      obtain rfl : piece = [] := List.mem_singleton.mp h
      exact absurd hc List.not_mem_nil
  | cons d t ih =>
      rw [splitBy] at h
      split at h
      · rename_i hnil
        exact absurd hnil (splitBy_ne_nil p t)
      · rename_i first pieces hsplit
        rw [hsplit] at ih
        split at h
        · rcases List.mem_cons.mp h with rfl | h
          · exact absurd hc List.not_mem_nil
          · exact ih h hc
        · rename_i hd
          rcases List.mem_cons.mp h with rfl | h
          · rcases List.mem_cons.mp hc with rfl | hc
            · simpa using hd
            · exact ih (List.mem_cons_self ..) hc
          · exact ih (List.mem_cons_of_mem _ h) hc

/-- A text without the characters that it is cut at is one piece. -/
theorem splitBy_eq_singleton {p : Char → Bool} {t : Text} (h : ∀ c ∈ t, p c = false) :
    splitBy p t = [t] := by
  induction t with
  | nil => rfl
  | cons c t ih =>
      rw [splitBy, ih fun d hd => h d (List.mem_cons_of_mem c hd)]
      exact if_neg (by simp [h c (List.mem_cons_self ..)])

/-- **Where a text is cut, the pieces on both sides know nothing of each other.** -/
theorem splitBy_append_cons {p : Char → Bool} {c : Char} (hc : p c = true) (t u : Text) :
    splitBy p (t ++ c :: u) = splitBy p t ++ splitBy p u := by
  induction t with
  | nil =>
      obtain ⟨piece, pieces, hu⟩ := List.exists_cons_of_ne_nil (splitBy_ne_nil p u)
      simp only [List.nil_append, splitBy, hu, if_pos hc]
      rfl
  | cons d t ih =>
      obtain ⟨piece, pieces, ht⟩ := List.exists_cons_of_ne_nil (splitBy_ne_nil p t)
      rw [List.cons_append, splitBy, splitBy, ih, ht]
      dsimp only [List.cons_append]
      split <;> rfl

/-! ## Trimming -/

theorem dropEndWhile_concat (p : Char → Bool) (t : Text) (c : Char) :
    dropEndWhile p (t ++ [c]) = if p c then dropEndWhile p t else t ++ [c] := by
  induction t with
  | nil => rfl
  | cons a t ih =>
      rw [List.cons_append, dropEndWhile, ih]
      by_cases hc : p c
      · rw [if_pos hc, if_pos hc]
        rfl
      · rw [if_neg hc, if_neg hc]
        cases t <;> rfl

theorem dropEndWhile_eq_rdropWhile (p : Char → Bool) (t : Text) :
    dropEndWhile p t = t.rdropWhile p := by
  induction t using List.reverseRecOn with
  | nil => rfl
  | append_singleton t c ih => rw [dropEndWhile_concat, List.rdropWhile_concat, ih]

theorem dropEndWhile_append {p : Char → Bool} {u : Text} (hu : ∀ c ∈ u, p c = true) (t : Text) :
    dropEndWhile p (t ++ u) = dropEndWhile p t := by
  induction u using List.reverseRecOn with
  | nil => rw [List.append_nil]
  | append_singleton u c ih =>
      rw [← List.append_assoc, dropEndWhile_concat, if_pos (hu c (by simp))]
      exact ih (fun x hx => hu x (by simp [hx]))

theorem trim_blanks_append {u : Text} (hu : ∀ c ∈ u, isBlank c = true) (t : Text) :
    trim (u ++ t) = trim t := by
  unfold trim stripBy
  rw [List.dropWhile_append_of_pos hu]

theorem trim_append_blanks {u : Text} (hu : ∀ c ∈ u, isBlank c = true) (t : Text) :
    trim (t ++ u) = trim t := by
  unfold trim stripBy
  induction t with
  | nil => rw [List.nil_append, List.dropWhile_eq_nil_iff.mpr hu, List.dropWhile_nil]
  | cons c t ih =>
      by_cases hc : isBlank c = true
      · rw [List.cons_append, List.dropWhile_cons_of_pos hc, List.dropWhile_cons_of_pos hc, ih]
      · rw [List.cons_append, List.dropWhile_cons_of_neg hc, List.dropWhile_cons_of_neg hc,
          ← List.cons_append, dropEndWhile_append hu]

/-- Where a text begins and ends with other characters, only blanks around it are trimmed. -/
theorem trim_around {c d : Char} (hc : isBlank c = false) (hd : isBlank d = false) (u w v : Text) :
    trim (u ++ (c :: w ++ d :: v)) = trimStart u ++ (c :: w ++ d :: trimEnd v) := by
  have hstart (t : Text) : (u ++ c :: t).dropWhile isBlank = u.dropWhile isBlank ++ c :: t := by
    rw [List.dropWhile_append]
    split
    · rename_i hempty
      rw [List.isEmpty_iff.mp hempty, List.dropWhile_cons_of_neg (by simp [hc])]
      rfl
    · rfl
  have hend (s : Text) : dropEndWhile isBlank (s ++ d :: v) = s ++ d :: dropEndWhile isBlank v := by
    induction s with
    | nil =>
        rw [List.nil_append, dropEndWhile]
        cases dropEndWhile isBlank v with
        | nil => simp [hd]
        | cons x xs => rfl
    | cons x s ih =>
        rw [List.cons_append, dropEndWhile, ih]
        cases s <;> rfl
  have hshape : u.dropWhile isBlank ++ (c :: w ++ d :: v)
      = (u.dropWhile isBlank ++ c :: w) ++ d :: v := by
    rw [List.append_assoc]
  rw [trim, stripBy, List.cons_append, hstart, ← List.cons_append, hshape, hend, List.append_assoc]
  rfl

/-- A text that begins and ends with other characters has nothing to trim. -/
theorem trim_eq_self {t : Text} (hfirst : ∀ c ∈ t.head?, isBlank c = false)
    (hlast : ∀ c ∈ t.getLast?, isBlank c = false) : trim t = t := by
  have hstart : t.dropWhile isBlank = t := by
    cases t with
    | nil => rfl
    | cons c t => exact List.dropWhile_cons_of_neg (by simp [hfirst c rfl])
  rw [trim, stripBy, hstart, dropEndWhile_eq_rdropWhile, List.rdropWhile_eq_self_iff]
  intro hne
  simp [hlast _ (List.getLast?_eq_some_getLast hne)]

theorem trimStart_blanks_append {u t : Text} (hu : ∀ c ∈ u, isBlank c = true)
    (ht : ∀ c ∈ t.head?, isBlank c = false) : trimStart (u ++ t) = t := by
  rw [trimStart, List.dropWhile_append_of_pos hu]
  cases t with
  | nil => rfl
  | cons c t => exact List.dropWhile_cons_of_neg (by simp [ht c rfl])

/-- What is trimmed off a text are blanks at its ends. -/
theorem exists_blanks_around (t : Text) :
    ∃ u v, (∀ c ∈ u ++ v, isBlank c = true) ∧ t = u ++ (trim t ++ v) := by
  refine ⟨t.takeWhile isBlank, (t.dropWhile isBlank).rtakeWhile isBlank, ?_, ?_⟩
  · intro c hc
    rcases List.mem_append.mp hc with hc | hc
    · exact List.mem_takeWhile_imp hc
    · exact List.mem_rtakeWhile_imp hc
  · have hends : trim t ++ (t.dropWhile isBlank).rtakeWhile isBlank = t.dropWhile isBlank := by
      rw [trim, stripBy, dropEndWhile_eq_rdropWhile, List.rdropWhile, List.rtakeWhile,
        ← List.reverse_append, List.takeWhile_append_dropWhile, List.reverse_reverse]
    rw [hends, List.takeWhile_append_dropWhile]

/-- A trimmed text stands in the text as it is. -/
theorem isInfix_trim (t : Text) : trim t <:+: t := by
  rw [trim, stripBy, dropEndWhile_eq_rdropWhile]
  exact (List.rdropWhile_prefix _ _).isInfix.trans (List.dropWhile_suffix _).isInfix

/-- A trimmed text begins with no blank. -/
theorem isBlank_of_head?_trim {c : Char} {t : Text} (h : c ∈ (trim t).head?) :
    isBlank c = false := by
  rw [trim, stripBy, dropEndWhile_eq_rdropWhile] at h
  -- what is left begins like the text without its blanks at the start
  obtain ⟨rest, hrest⟩ := List.rdropWhile_prefix isBlank (t.dropWhile isBlank)
  have hfirst := List.head?_dropWhile_not isBlank t
  rw [← hrest, List.head?_append, Option.mem_def.mp h] at hfirst
  exact hfirst

/-- A trimmed text ends with no blank. -/
theorem isBlank_of_getLast?_trim {c : Char} {t : Text} (h : c ∈ (trim t).getLast?) :
    isBlank c = false := by
  rw [trim, stripBy, dropEndWhile_eq_rdropWhile] at h
  obtain ⟨hne, rfl⟩ := List.mem_getLast?_eq_getLast h
  exact Bool.eq_false_iff.mpr (List.rdropWhile_last_not isBlank _ hne)

/-- Trimming only takes characters away. -/
theorem mem_of_mem_trim {c : Char} {t : Text} (h : c ∈ trim t) : c ∈ t :=
  (isInfix_trim t).subset h

/-- Trimming only takes blanks away. -/
theorem mem_trim_of_mem {c : Char} {t : Text} (hblank : isBlank c = false) (h : c ∈ t) :
    c ∈ trim t := by
  have hdrop {s : Text} (hs : c ∈ s) : c ∈ s.dropWhile isBlank := by
    rw [← @List.takeWhile_append_dropWhile _ isBlank s] at hs
    rcases List.mem_append.mp hs with hs | hs
    · rw [List.mem_takeWhile_imp hs] at hblank
      exact absurd hblank (by decide)
    · exact hs
  rw [trim, stripBy, dropEndWhile_eq_rdropWhile, List.rdropWhile, List.mem_reverse]
  exact hdrop (List.mem_reverse.mpr (hdrop h))

/-- Only blanks are trimmed away altogether. -/
theorem trim_eq_nil_iff {t : Text} : trim t = [] ↔ ∀ c ∈ t, isBlank c = true := by
  constructor
  · intro h c hc
    by_contra hblank
    exact absurd (mem_trim_of_mem (by simpa using hblank) hc) (by simp [h])
  · intro h
    have hnone := trim_blanks_append h []
    rwa [List.append_nil] at hnone

/-- A trimmed text has nothing left to trim. -/
theorem trim_trim (t : Text) : trim (trim t) = trim t :=
  trim_eq_self (fun _ hc => isBlank_of_head?_trim hc) fun _ hc => isBlank_of_getLast?_trim hc

end Gamebook.Text
