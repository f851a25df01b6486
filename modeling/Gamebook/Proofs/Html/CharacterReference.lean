import Gamebook.Proofs.Html.Attribute
import Gamebook.Html.Event

/-!
# Character references

A character reference gives a name or a number and ends with a semicolon. All of it but three
marks are letters and figures, so none holds a bracket (`IsReference.bracket_not_mem`). A reference
with a number is read as one character, unless the number has too many figures
(`numberReference_of_reference`).
-/

namespace Gamebook.Html

/-- A character reference: by a name, by a decimal number or by a hexadecimal one. -/
inductive IsReference : Text → Prop where
  | named {first : Char} {name : Text} :
      first.isAlpha = true → (∀ c ∈ name, c.isAlphanum = true) →
      IsReference ('&' :: (first :: name ++ [';']))
  | decimal {ds : Text} :
      ds ≠ [] → (∀ c ∈ ds, Text.isAsciiDigit c = true) → IsReference ('&' :: '#' :: (ds ++ [';']))
  | hex {x : Char} {ds : Text} :
      x ∈ ['x', 'X'] → ds ≠ [] → (∀ c ∈ ds, Text.isHexDigit c = true) →
      IsReference ('&' :: '#' :: x :: (ds ++ [';']))

variable {c : Char} {w : Text}

/-! ## Letters and figures -/

theorem isDigit_of_isAlpha (h : c.isAlpha = true) : Text.isDigit c = false := by
  have hletter := Text.isAlpha_iff.mp h
  refine Bool.eq_false_iff.mpr fun hd => ?_
  have := (Text.isDigit_iff_of_ascii (by omega)).mp hd
  omega

theorem isAsciiDigit_iff : Text.isAsciiDigit c = true ↔ 48 ≤ c.toNat ∧ c.toNat ≤ 57 := by
  simp only [Text.isAsciiDigit, Bool.and_eq_true, decide_eq_true_eq, Char.le_def,
    UInt32.le_iff_toNat_le]
  exact Iff.rfl

theorem isDigit_of_isAsciiDigit (h : Text.isAsciiDigit c = true) : Text.isDigit c = true := by
  rw [isAsciiDigit_iff] at h
  exact (Text.isDigit_iff_of_ascii (by omega)).mpr h

theorem isWord_of_isHexDigit (h : Text.isHexDigit c = true) : Text.isWord c = true := by
  refine Text.isWord_of_isAlphanum (Text.isAlphanum_iff.mpr ?_)
  simp only [Text.isHexDigit, Bool.or_eq_true, isAsciiDigit_iff, Bool.and_eq_true,
    decide_eq_true_eq, Char.le_def, UInt32.le_iff_toNat_le] at h
  change (48 ≤ c.toNat ∧ c.toNat ≤ 57 ∨ 97 ≤ c.toNat ∧ c.toNat ≤ 102)
    ∨ 65 ≤ c.toNat ∧ c.toNat ≤ 70 at h
  omega

/-- All of a reference but its marks belongs to words. -/
theorem IsReference.mark_or_isWord (hw : IsReference w) :
    ∀ d ∈ w, d ∈ ['&', '#', ';'] ∨ Text.isWord d = true := by
  intro d hd
  cases hw with
  | @named first name hfirst hname =>
      simp only [List.mem_cons, List.mem_append, List.not_mem_nil, or_false, or_assoc] at hd
      rcases hd with rfl | rfl | hd | rfl
      · exact .inl (by simp)
      · exact .inr (Text.isWord_of_isAlphanum (by simp [Char.isAlphanum, hfirst]))
      · exact .inr (Text.isWord_of_isAlphanum (hname d hd))
      · exact .inl (by simp)
  | @decimal ds _ hds =>
      simp only [List.mem_cons, List.mem_append, List.not_mem_nil, or_false] at hd
      rcases hd with rfl | rfl | hd | rfl
      · exact .inl (by simp)
      · exact .inl (by simp)
      · exact .inr (Text.isWord_of_isDigit (isDigit_of_isAsciiDigit (hds d hd)))
      · exact .inl (by simp)
  | @hex x ds hx _ hds =>
      simp only [List.mem_cons, List.mem_append, List.not_mem_nil, or_false] at hd hx
      rcases hd with rfl | rfl | rfl | hd | rfl
      · exact .inl (by simp)
      · exact .inl (by simp)
      · exact .inr (by rcases hx with rfl | rfl <;> decide)
      · exact .inr (isWord_of_isHexDigit (hds d hd))
      · exact .inl (by simp)

/-- No character reference holds an angle bracket. -/
theorem IsReference.bracket_not_mem (hc : c ∈ ['<', '>']) (hw : IsReference w) : c ∉ w := by
  intro hmem
  rcases List.mem_pair.mp hc with rfl | rfl <;>
    exact absurd (hw.mark_or_isWord _ hmem) (by decide)

/-! ## Reading a reference with a number -/

/-- Figures end at a semicolon. -/
theorem takeWhile_figures {p : Char → Bool} {ds : Text} (hds : ∀ c ∈ ds, p c = true)
    (hend : p ';' = false) (rest : Text) : (ds ++ ';' :: rest).takeWhile p = ds := by
  rw [List.takeWhile_append_of_pos hds, List.takeWhile_cons_of_neg (by simp [hend]),
    List.append_nil]

theorem numberReference_decimal {ds : Text} (hne : ds ≠ [])
    (hds : ∀ c ∈ ds, Text.isAsciiDigit c = true) (hshort : ds.length ≤ digitLimit) (rest : Text) :
    numberReference (ds ++ ';' :: rest)
      = .ok (.events [.text [numberedChar (Text.digitsValue ds)]] rest) := by
  have htake := takeWhile_figures hds (by decide) rest
  have hdrop : (ds ++ ';' :: rest).drop ds.length = ';' :: rest := List.drop_left
  obtain ⟨d, ds, rfl⟩ := List.exists_cons_of_ne_nil hne
  have hx : (d == 'x' || d == 'X') = false := by
    rw [Bool.or_eq_false_iff, beq_eq_false_iff_ne, beq_eq_false_iff_ne]
    constructor <;> rintro rfl <;> exact absurd (hds _ (List.mem_cons_self ..)) (by decide)
  rw [List.cons_append] at htake hdrop ⊢
  have hbase (c : Char) : (if (10 == 16) = true then Text.isHexDigit c else Text.isAsciiDigit c)
      = Text.isAsciiDigit c := rfl
  have hnext : Text.isHexDigit ';' = false := by decide
  rw [numberReference]
  simp only [hx, Bool.false_eq_true, if_false, hbase, htake]
  rw [hdrop]
  dsimp only
  rw [hnext, if_neg (by simp), if_neg (by decide), Number.read_of_length hshort]
  rfl

theorem numberReference_hex {x : Char} {ds : Text} (hx : x ∈ ['x', 'X']) (hne : ds ≠ [])
    (hds : ∀ c ∈ ds, Text.isHexDigit c = true) (rest : Text) :
    numberReference (x :: (ds ++ ';' :: rest))
      = .ok (.events [.text [numberedChar (Number.figuresValue 16 ds)]] rest) := by
  have htake := takeWhile_figures hds (by decide) rest
  have hdrop : (ds ++ ';' :: rest).drop ds.length = ';' :: rest := List.drop_left
  have hbase (c : Char) : (if (16 == 16) = true then Text.isHexDigit c else Text.isAsciiDigit c)
      = Text.isHexDigit c := rfl
  have hx : (x == 'x' || x == 'X') = true := by simpa using hx
  have hempty : ds.isEmpty = false := by simpa using hne
  have hnext : Text.isHexDigit ';' = false := by decide
  rw [numberReference]
  simp only [hx, if_true, hbase, htake]
  rw [hdrop]
  dsimp only
  rw [hempty, hnext]
  rfl

/-- **A reference with a number is read as one character**, unless its number is too long. -/
theorem numberReference_of_reference (hw : IsReference ('&' :: '#' :: w))
    (hshort : ∀ e, ¬HoldsLongNumber ('&' :: '#' :: w) e) (rest : Text) :
    ∃ c, numberReference (w ++ rest) = .ok (.events [.text [c]] rest) := by
  generalize hall : '&' :: '#' :: w = all at hw hshort
  cases hw with
  | @named first name hfirst _ =>
      obtain ⟨rfl, -⟩ := List.cons.inj (List.cons.inj hall).2
      exact absurd hfirst (by decide)
  | @decimal ds hne hds =>
      obtain rfl : w = ds ++ [';'] := (List.cons.inj (List.cons.inj hall).2).2
      have hlength : ds.length ≤ digitLimit := by
        refine Nat.le_of_not_lt fun hlong => hshort _ ⟨ds, hds, hlong, ?_, rfl⟩
        exact List.IsPrefix.isInfix ⟨[';'], by simp⟩
      exact ⟨_, by rw [List.append_assoc]; exact numberReference_decimal hne hds hlength rest⟩
  | @hex x ds hx hne hds =>
      obtain rfl : w = x :: (ds ++ [';']) := (List.cons.inj (List.cons.inj hall).2).2
      refine ⟨numberedChar (Number.figuresValue 16 ds), ?_⟩
      rw [List.cons_append, List.append_assoc]
      exact numberReference_hex hx hne hds rest

end Gamebook.Html
