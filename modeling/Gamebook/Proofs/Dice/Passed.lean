import Gamebook.Proofs.Dice.Munch
import Gamebook.Proofs.Html.CharacterReference

/-!
# What the scan for formulas passes over

A formula begins with a digit and not inside a word, and it holds nothing but digits, a die letter
and signs. So a character of another kind is passed over wherever it stands, and what comes before
it is scanned as if it ended the text (`scanFrom_append_stop`). If it belongs to no word either, it
parts the formulas of a text (`mentionPieces_append_stop`).

Character references are made of such characters and of words that do not begin with a digit, and
the digits of a reference with a number end at its semicolon. So the scan passes over them
(`keeps_reference`).
-/

namespace Gamebook.Text.Piece

variable {α : Type}

/-- A stretch `w` of a text, with `u` before it and `v` behind it, of which nothing is in a
finding. -/
def Keeps (ps : List (Piece Text)) (u w v : Text) : Prop :=
  ∃ qs rs, ps = qs ++ (w.map .plain ++ rs) ∧ render id qs = u ∧ render id rs = v

variable {ps : List (Piece Text)} {u w v : Text}

theorem Keeps.append_left (h : Keeps ps u w v) (qs : List (Piece Text)) :
    Keeps (qs ++ ps) (render id qs ++ u) w v := by
  obtain ⟨before, behind, rfl, rfl, rfl⟩ := h
  exact ⟨qs ++ before, behind, by rw [List.append_assoc], render_append id qs before, rfl⟩

theorem Keeps.append_right (h : Keeps ps u w v) (rs : List (Piece Text)) :
    Keeps (ps ++ rs) u w (v ++ render id rs) := by
  obtain ⟨before, behind, rfl, rfl, rfl⟩ := h
  exact ⟨before, behind ++ rs, by simp only [List.append_assoc], rfl, render_append id behind rs⟩

theorem keeps_plain (u w v : Text) : Keeps ((u ++ (w ++ v)).map .plain) u w v :=
  ⟨u.map .plain, v.map .plain, by rw [List.map_append, List.map_append], render_plain id u,
    render_plain id v⟩

end Gamebook.Text.Piece

namespace Gamebook.Dice

open Text (Piece)

variable {before : Option Char} {c : Char} {g t u v w : Text}

/-! ## Places where nothing begins -/

theorem render_scanFrom_mention (before : Option Char) (t : Text) :
    Piece.render id (Text.scanFrom mention before 0 t) = t :=
  Text.render_scanFrom (fun _ _ _ _ h => ⟨(mention_eq_some h).2.1, (mention_eq_some h).1⟩)
    before 0 t

/-- A formula begins with a digit. -/
theorem mention_of_not_digit (before : Option Char) (t : Text) (h : Text.isDigit c = false) :
    mention before (c :: t) = none := by
  rw [mention, takeMention?, Text.takeDigits?_of_not_digit (by simp [h])]
  split <;> rfl

theorem digit_of_isMention (hg : IsMention g) :
    ∃ c more, g = c :: more ∧ Text.isDigit c = true := by
  obtain ⟨p, die, hp, -, rfl⟩ := hg
  have hcount : p.count ∈ p.runs := by simp [Parts.runs]
  obtain ⟨c, more, hc⟩ := List.exists_cons_of_ne_nil (hp.ne_nil _ hcount)
  exact ⟨c, more ++ die :: (p.sides ++ Parts.writeModifier [] [] p.modifier),
    by rw [Parts.write, hc]; rfl, hp.isDigit _ hcount c (by simp [hc])⟩

/-- No formula begins inside a word. -/
theorem mention_in_word (t : Text) (h : Text.isWord c = true) : mention (some c) t = none := by
  rw [mention, Option.map_some, Option.getD_some, if_pos h]

/-! ## Characters that no formula holds -/

theorem not_mem_of_isMention (hc : isFormulaChar c = false) (hg : IsMention g) : c ∉ g := by
  intro hm
  rw [(isFormula_of_isMention hg).chars c hm] at hc
  exact absurd hc (by decide)

theorem prefix_append_stop (hc : isFormulaChar c = false) (hg : IsMention g) :
    g <+: v ++ c :: t ↔ g <+: v := by
  constructor
  · rintro ⟨rest, hrest⟩
    have hnot := not_mem_of_isMention hc hg
    rcases List.append_eq_append_iff.mp hrest with ⟨x, hv, -⟩ | ⟨x, hx, hrest⟩
    · exact ⟨x, hv.symm⟩
    · rcases List.cons_eq_append_iff.mp hrest with ⟨rfl, -⟩ | ⟨x, rfl, -⟩
      · exact ⟨[], by rw [hx, List.append_nil, List.append_nil]⟩
      · exact absurd (by simp [hx]) hnot
  · exact fun h => h.trans (List.prefix_append v _)

/-- The formula at a place ends before a character that no formula holds. -/
theorem mention_append_stop (hc : isFormulaChar c = false) (before : Option Char) (v t : Text) :
    mention before (v ++ c :: t) = mention before v := by
  have hbegins (f : Text) : BeginsAt before (v ++ c :: t) f ↔ BeginsAt before v f := by
    constructor
    · rintro ⟨hboundary, hbegins, hf, hlongest⟩
      exact ⟨hboundary, (prefix_append_stop hc hf).mp hbegins, hf,
        fun g hg hpre => hlongest g hg ((prefix_append_stop hc hg).mpr hpre)⟩
    · rintro ⟨hboundary, hbegins, hf, hlongest⟩
      exact ⟨hboundary, (prefix_append_stop hc hf).mpr hbegins, hf,
        fun g hg hpre => hlongest g hg ((prefix_append_stop hc hg).mp hpre)⟩
  refine Option.ext fun r => ?_
  rw [mention_eq_some_iff, mention_eq_some_iff, hbegins]

/-- The pieces up to a character that no formula holds do not depend on it or on what follows. -/
theorem scanFrom_append_stop (hc : isFormulaChar c = false) (before : Option Char) (u t : Text) :
    Text.scanFrom mention before 0 (u ++ c :: t)
      = Text.scanFrom mention before 0 u
        ++ Text.scanFrom mention (u.getLast?.or before) 0 (c :: t) := by
  generalize hn : u.length = n
  induction n using Nat.strongRecOn generalizing before u with
  | ind n ih =>
      cases u with
      | nil => rfl
      | cons d u =>
          have hstop := mention_append_stop hc before (d :: u) t
          cases hfind : mention before (d :: u) with
          | none =>
              rw [hfind, List.cons_append] at hstop
              rw [Text.scanFrom_passed hfind, List.cons_append, List.cons_append,
                Text.scanFrom_passed hstop, ih u.length (by simp [← hn]) (some d) u rfl,
                List.getLast?_cons]
              cases u.getLast? <;> rfl
          | some r =>
              obtain ⟨f, k⟩ := r
              rw [hfind] at hstop
              obtain ⟨hf, rfl⟩ := mention_eq_some_iff.mp hfind
              have hne := isMention_ne_nil hf.mention
              obtain ⟨rest, hrest⟩ := hf.begins
              have hlt : rest.length < n := by
                rw [← hn, ← hrest, List.length_append]
                have := List.length_pos_iff.mpr hne
                omega
              have hlast : (f ++ rest).getLast?.or before = rest.getLast?.or f.getLast? := by
                rw [List.getLast?_append]
                cases hr : rest.getLast? with
                | some e => rfl
                | none =>
                    obtain ⟨e, he⟩ := Option.isSome_iff_exists.mp (List.getLast?_isSome.mpr hne)
                    rw [he]
                    rfl
              rw [← hrest] at hfind hstop ⊢
              rw [List.append_assoc] at hstop
              rw [Text.scanFrom_found hne hfind, List.append_assoc, Text.scanFrom_found hne hstop,
                ih rest.length hlt f.getLast? rest rfl, hlast, List.cons_append]

/-- What stands before a text does not matter if it belongs to no word. -/
theorem scanFrom_behind (hc : Text.isWord c = false) (t : Text) :
    Text.scanFrom mention (some c) 0 t = mentionPieces t := by
  cases t with
  | nil => rfl
  | cons d t =>
      have hfind : mention (some c) (d :: t) = mention none (d :: t) := by
        rw [mention, mention, Option.map_some, Option.getD_some, hc]
        rfl
      rw [mentionPieces, Text.scan, Text.scanFrom, Text.scanFrom, hfind]

/-- **A character that belongs to no formula and to no word parts the formulas of a text.** -/
theorem mentionPieces_append_stop (hc : isFormulaChar c = false) (hword : Text.isWord c = false)
    (u t : Text) :
    mentionPieces (u ++ c :: t) = mentionPieces u ++ .plain c :: mentionPieces t := by
  have hdigit : Text.isDigit c = false := by
    refine Bool.eq_false_iff.mpr fun hd => ?_
    rw [isFormulaChar_of_isDigit hd] at hc
    exact absurd hc (by decide)
  rw [mentionPieces, Text.scan, scanFrom_append_stop hc,
    Text.scanFrom_passed (mention_of_not_digit _ t hdigit), scanFrom_behind hword]
  rfl

/-! ## Stretches that are passed over -/

/-- A stretch at the start of a text in which no formula begins. -/
def Passes (before : Option Char) (w v : Text) : Prop :=
  ∃ rs, Text.scanFrom mention before 0 (w ++ v) = w.map .plain ++ rs ∧ Piece.render id rs = v

theorem passes_nil (before : Option Char) (v : Text) : Passes before [] v :=
  ⟨_, rfl, render_scanFrom_mention before v⟩

theorem Passes.cons (hc : mention before (c :: (w ++ v)) = none) (h : Passes (some c) w v) :
    Passes before (c :: w) v := by
  obtain ⟨rs, hscan, hv⟩ := h
  exact ⟨rs, by rw [List.cons_append, Text.scanFrom_passed hc, hscan]; rfl, hv⟩

/-- Inside a word nothing begins, up to and with the character that ends it. -/
theorem passes_word {stop : Char} (hstop : Text.isDigit stop = false)
    (hc : Text.isWord c = true) (hw : ∀ d ∈ w, Text.isWord d = true) (v : Text) :
    Passes (some c) (w ++ [stop]) v := by
  induction w generalizing c with
  | nil => exact (passes_nil (some stop) v).cons (mention_of_not_digit _ _ hstop)
  | cons d w ih =>
      rw [List.forall_mem_cons] at hw
      exact (ih hw.1 hw.2).cons (mention_in_word _ hc)

/-- **A stretch behind a character that no formula holds is kept** if it is passed over. -/
theorem keeps_of_passes (hc : isFormulaChar c = false) (h : ∀ before, Passes before (c :: w) v)
    (before : Option Char) (u : Text) :
    Piece.Keeps (Text.scanFrom mention before 0 (u ++ (c :: w ++ v))) u (c :: w) v := by
  obtain ⟨rs, hrs, hv⟩ := h (u.getLast?.or before)
  refine ⟨_, rs, ?_, render_scanFrom_mention before u, hv⟩
  rw [List.cons_append, scanFrom_append_stop hc, ← List.cons_append, hrs]

/-! ## Character references -/

/-- **The scan for formulas keeps every character reference.** -/
theorem keeps_reference (hw : Html.IsReference w) (before : Option Char) (u v : Text) :
    Piece.Keeps (Text.scanFrom mention before 0 (u ++ (w ++ v))) u w v := by
  have hend : Text.isDigit ';' = false := by decide
  have hamp : Text.isDigit '&' = false := by decide
  have hsharp : Text.isDigit '#' = false := by decide
  cases hw with
  | @named first name hfirst hname =>
      refine keeps_of_passes (by decide) (fun before => ?_) before u
      have hword := @Text.isWord_of_isAlphanum first (by simp [Char.isAlphanum, hfirst])
      have hrest := passes_word hend hword (fun c hc => Text.isWord_of_isAlphanum (hname c hc)) v
      exact (hrest.cons (mention_of_not_digit _ _ (Html.isDigit_of_isAlpha hfirst))).cons
        (mention_of_not_digit _ _ hamp)
  | @decimal ds hne hds =>
      refine keeps_of_passes (by decide) (fun before => ?_) before u
      have hdigits : ∀ c ∈ ds, Text.isDigit c = true :=
        fun c hc => Html.isDigit_of_isAsciiDigit (hds c hc)
      -- the digits end at the semicolon, and a formula would go on with a die letter
      have hnone : mention (some '#') (ds ++ [';'] ++ v) = none := by
        rw [mention, takeMention?, List.append_assoc,
          Text.takeDigits?_append hne hdigits (by simpa using hend)]
        rfl
      obtain ⟨d, ds, rfl⟩ := List.exists_cons_of_ne_nil hne
      have hword (c : Char) (hc : c ∈ d :: ds) := Text.isWord_of_isDigit (hdigits c hc)
      have hrest := passes_word hend (hword d (List.mem_cons_self ..))
        (fun c hc => hword c (List.mem_cons_of_mem d hc)) v
      exact ((hrest.cons hnone).cons (mention_of_not_digit _ _ hsharp)).cons
        (mention_of_not_digit _ _ hamp)
  | @hex x ds hx _ hds =>
      refine keeps_of_passes (by decide) (fun before => ?_) before u
      have hxs : Text.isWord x = true ∧ Text.isDigit x = false := by
        rcases List.mem_pair.mp hx with rfl | rfl <;> decide
      have hrest := passes_word hend hxs.1
        (fun c hc => Html.isWord_of_isHexDigit (hds c hc)) v
      exact ((hrest.cons (mention_of_not_digit _ _ hxs.2)).cons
        (mention_of_not_digit _ _ hsharp)).cons (mention_of_not_digit _ _ hamp)

end Gamebook.Dice
