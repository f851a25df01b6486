import Gamebook.Proofs.Dice.Mention
import Gamebook.Proofs.Text.Pattern

/-!
# Formulas are taken as long as they go

A formula begins in a text where no word goes on and where one can be written, and of those that
can be written there the longest is taken (`BeginsAt`). `Munch` says how a text is cut from the
left by this rule, without telling how the longest one is found. The scan for mentions is the only
cut of that kind (`munch_iff`).

The same mentions are found by the pattern of an inline formula, which may go back on its choices
and only asks that no digit follows (`recognise_mentionPattern`).
-/

namespace Gamebook.Dice

open Text (Piece Pattern Place)

/-- A formula as running text mentions it, without blanks. -/
def IsMention (f : Text) : Prop :=
  ∃ p die, Parts.IsWellFormed p ∧ isDieLetter die = true ∧ f = p.write die [] []

/-- The formula that begins a text behind a character: no word goes on there, and no longer formula
begins there. -/
structure BeginsAt (before : Option Char) (t f : Text) : Prop where
  boundary : ∀ c ∈ before, Text.isWord c = false
  begins : f <+: t
  mention : IsMention f
  longest : ∀ g, IsMention g → g <+: t → g.length ≤ f.length

/-- The pieces of a text behind a character, cut from the left: a formula is taken where one
begins, and any other character is passed over. -/
inductive Munch : Option Char → Text → List (Piece Text) → Prop where
  | nil {before : Option Char} : Munch before [] []
  | pass {before : Option Char} {c : Char} {t : Text} {ps : List (Piece Text)} :
      (∀ f, ¬BeginsAt before (c :: t) f) → Munch (some c) t ps →
      Munch before (c :: t) (.plain c :: ps)
  | take {before : Option Char} {f t : Text} {ps : List (Piece Text)} :
      BeginsAt before (f ++ t) f → Munch f.getLast? t ps → Munch before (f ++ t) (.found f :: ps)

variable {before : Option Char} {t f g rest : Text} {ps : List (Piece Text)}

/-! ## The longest formula at a place -/

/-- What is taken as digits goes on at least as long as any run of them. -/
theorem takeDigits?_longest {ds : Text} (hne : ds ≠ []) (hds : ∀ c ∈ ds, Text.isDigit c = true)
    (rest : Text) :
    ∃ more, Text.takeDigits? (ds ++ rest) = some (ds ++ more, rest.dropWhile Text.isDigit) := by
  refine ⟨rest.takeWhile Text.isDigit, ?_⟩
  have hstop : ∀ c ∈ (rest.dropWhile Text.isDigit).head?, Text.isDigit c = false := by
    intro c hc
    have := List.head?_dropWhile_not Text.isDigit rest
    rw [Option.mem_def.mp hc] at this
    simpa using this
  have hall : ∀ c ∈ ds ++ rest.takeWhile Text.isDigit, Text.isDigit c = true := fun c hc =>
    (List.mem_append.mp hc).elim (hds c) fun hc => List.mem_takeWhile_imp hc
  have htake := Text.takeDigits?_append (by simp [hne]) hall hstop
  rwa [List.append_assoc, List.takeWhile_append_dropWhile] at htake

/-- Where a formula can be written, one is taken that is not shorter. -/
theorem takeMention?_longest (hg : IsMention g) (rest : Text) :
    ∃ f after, takeMention? (g ++ rest) = some (f, after) ∧ g.length ≤ f.length := by
  obtain ⟨⟨count, sides, modifier⟩, die, hp, hdie, rfl⟩ := hg
  have hsides : sides ≠ [] := hp.ne_nil sides (by simp [Parts.runs])
  have hsidesDigits : ∀ c ∈ sides, Text.isDigit c = true := hp.isDigit sides (by simp [Parts.runs])
  have hcount := hp.takeDigits?_count hdie
  rw [Parts.write, takeMention?, List.append_assoc, List.cons_append, List.append_assoc, hcount]
  dsimp only
  rw [if_pos hdie]
  cases modifier with
  | none =>
      obtain ⟨more, htake⟩ := takeDigits?_longest hsides hsidesDigits rest
      rw [Parts.writeModifier, List.nil_append, htake]
      refine ⟨_, _, rfl, ?_⟩
      simp only [List.length_append, List.length_cons, List.length_nil]
      omega
  | some m =>
      obtain ⟨hsign, hne, hdigits⟩ := hp.isSigned m rfl
      obtain ⟨more, htake⟩ := takeDigits?_longest hne hdigits rest
      have hstop : Text.takeDigits? (sides ++ m.1 :: (m.2 ++ rest))
          = some (sides, m.1 :: (m.2 ++ rest)) :=
        Text.takeDigits?_append_cons hsides hsidesDigits (isDigit_of_isSign hsign) _
      rw [Parts.writeModifier, List.nil_append, List.cons_append, List.nil_append, hstop]
      dsimp only
      rw [takeModifier, if_pos hsign, htake]
      refine ⟨_, _, rfl, ?_⟩
      simp only [List.length_append, List.length_cons]
      omega

/-- **The formula at the start of a text is the longest that can be written there.** -/
theorem takeMention?_eq_some_iff :
    takeMention? t = some (f, rest) ↔
      t = f ++ rest ∧ IsMention f ∧ ∀ g, IsMention g → g <+: t → g.length ≤ f.length := by
  constructor
  · intro h
    obtain ⟨ht, hf⟩ := takeMention?_eq_some h
    refine ⟨ht, hf, fun g hg hpre => ?_⟩
    obtain ⟨after, rfl⟩ := hpre
    obtain ⟨f', after', h', hle⟩ := takeMention?_longest hg after
    rw [h] at h'
    obtain ⟨rfl, -⟩ := Prod.mk.inj (Option.some.inj h')
    exact hle
  · rintro ⟨rfl, hf, hlongest⟩
    obtain ⟨f', after, h', hle⟩ := takeMention?_longest hf rest
    obtain ⟨ht, hf'⟩ := takeMention?_eq_some h'
    have hlen : f'.length = f.length := Nat.le_antisymm (hlongest f' hf' ⟨after, ht.symm⟩) hle
    obtain ⟨rfl, rfl⟩ := List.append_inj ht hlen.symm
    exact h'

theorem isFormula_of_isMention (h : IsMention f) : IsFormula f := by
  obtain ⟨p, die, hp, hdie, rfl⟩ := h
  exact isFormula_write hp hdie

theorem isMention_ne_nil (h : IsMention f) : f ≠ [] := by
  obtain ⟨p, die, -, -, rfl⟩ := h
  simp [Parts.write]

/-- A mention is the formula that begins at a place. -/
theorem mention_eq_some_iff {n : Nat} :
    mention before t = some (f, n) ↔ BeginsAt before t f ∧ n = f.length := by
  have hboundary : (before.map Text.isWord).getD false = false
      ↔ ∀ c ∈ before, Text.isWord c = false := by cases before <;> simp
  rw [mention]
  split
  · rename_i hword
    constructor
    · exact fun h => absurd h (by simp)
    · rintro ⟨h, -⟩
      exact absurd (hboundary.mpr h.boundary) (by simp [hword])
  · rename_i hword
    have hbefore := hboundary.mp (Bool.eq_false_iff.mpr hword)
    rw [Option.map_eq_some_iff]
    constructor
    · rintro ⟨⟨f', rest⟩, htake, he⟩
      obtain ⟨rfl, rfl⟩ := Prod.mk.inj he
      obtain ⟨ht, hf, hlongest⟩ := takeMention?_eq_some_iff.mp htake
      exact ⟨⟨hbefore, ⟨rest, ht.symm⟩, hf, hlongest⟩, rfl⟩
    · rintro ⟨⟨-, ⟨rest, rfl⟩, hf, hlongest⟩, rfl⟩
      exact ⟨(f, rest), takeMention?_eq_some_iff.mpr ⟨rfl, hf, hlongest⟩, rfl⟩

theorem mention_eq_none_iff : mention before t = none ↔ ∀ f, ¬BeginsAt before t f := by
  rw [Option.eq_none_iff_forall_ne_some]
  constructor
  · exact fun h f hf => h (f, f.length) (mention_eq_some_iff.mpr ⟨hf, rfl⟩)
  · exact fun h r hr => h r.1 (mention_eq_some_iff.mp hr).1

/-! ## The cut from the left -/

theorem Munch.eq_scanFrom (h : Munch before t ps) : ps = Text.scanFrom mention before 0 t := by
  induction h with
  | nil => rfl
  | pass hnone _ ih => rw [Text.scanFrom_passed (mention_eq_none_iff.mpr hnone), ← ih]
  | take hf _ ih =>
      rw [Text.scanFrom_found (isMention_ne_nil hf.mention) (mention_eq_some_iff.mpr ⟨hf, rfl⟩),
        ← ih]

theorem munch_scanFrom (before : Option Char) (t : Text) :
    Munch before t (Text.scanFrom mention before 0 t) := by
  generalize hn : t.length = n
  induction n using Nat.strongRecOn generalizing before t with
  | ind n ih =>
      cases t with
      | nil => exact .nil
      | cons c t =>
          cases hfind : mention before (c :: t) with
          | none =>
              rw [Text.scanFrom_passed hfind]
              exact .pass (mention_eq_none_iff.mp hfind) (ih t.length (by simp [← hn]) _ _ rfl)
          | some r =>
              obtain ⟨f, k⟩ := r
              obtain ⟨hf, rfl⟩ := mention_eq_some_iff.mp hfind
              have hne := isMention_ne_nil hf.mention
              obtain ⟨rest, ht⟩ := hf.begins
              rw [← ht] at hfind hf ⊢
              rw [Text.scanFrom_found hne hfind]
              refine .take hf (ih rest.length ?_ _ _ rfl)
              rw [← hn, ← ht, List.length_append]
              have := List.length_pos_iff.mpr hne
              omega

/-- **The pieces of a text are cut from the left, each formula as long as it goes**, and there is
no other cut of that kind. -/
theorem munch_iff : Munch none t ps ↔ ps = mentionPieces t :=
  ⟨Munch.eq_scanFrom, fun h => h ▸ munch_scanFrom none t⟩

/-! ## The pattern of a mention -/

/-- A nonempty run of digits. -/
def runPattern : Pattern := .oneOrMore (.one Text.isDigit)

/-- A place where a word begins or ends. -/
def wordBoundary : Pattern :=
  .here fun before rest =>
    (before.map Text.isWord).getD false != (rest.head?.map Text.isWord).getD false

/-- A place where no digit follows. -/
def noDigitNext : Pattern := .here fun _ rest => !(rest.head?.map Text.isDigit).getD false

/-- A modifier without blanks. -/
def signedPattern : Pattern := (Pattern.one isSign).andThen runPattern

/-- A formula of running text behind a word boundary. -/
def inlinePattern : Pattern :=
  runPattern.andThen ((Pattern.one isDieLetter).andThen
    (runPattern.andThen (signedPattern.optional.andThen noDigitNext)))

/-- A formula of running text, from the word boundary on. -/
def mentionPattern : Pattern := wordBoundary.andThen inlinePattern

variable {q : Pattern} {s : Place}

/-- A run of digits is not given up for a pattern that cannot begin with a digit. -/
theorem first?_runPattern_andThen
    (hq : ∀ s : Place, (∃ c ∈ s.rest.head?, Text.isDigit c = true) → q.first? s = none) :
    (runPattern.andThen q).first? s
      = (Text.takeDigits? s.rest).bind fun r => q.first? (s.after r.1 r.2 []) := by
  have hassoc : (runPattern.andThen q).first? s
      = ((Pattern.one Text.isDigit).andThen
          ((Pattern.many true (.one Text.isDigit)).andThen q)).first? s :=
    congrArg List.head? (Pattern.ends_andThen_assoc _ _ _ s)
  rw [hassoc]
  cases hrest : s.rest with
  | nil =>
      rw [Pattern.first?_one_andThen_nil _ _ hrest, Text.takeDigits?_of_not_digit (by simp)]
      rfl
  | cons c t =>
      rw [Pattern.first?_one_andThen _ _ hrest]
      split
      · rename_i hc
        rw [Text.takeDigits?_of_digit ⟨c, rfl, hc⟩, List.takeWhile_cons_of_pos hc,
          List.dropWhile_cons_of_pos hc, Pattern.first?_run_andThen, Place.after_after]
        · rfl
        · -- inside of the run a digit follows, and at its end nothing is given up
          intro u v huv hu hend
          cases hv : (v.head?.map Text.isDigit).getD false with
          | true =>
              refine hq _ ?_
              cases v with
              | nil => exact absurd hv (by simp)
              | cons d v => exact ⟨d, rfl, hv⟩
          | false =>
              have hstop : ∀ d ∈ v.head?, Text.isDigit d = false := by
                cases v <;> simp_all
              have hspan := Text.span_append hu hstop
              rw [List.span_eq_takeWhile_dropWhile] at hspan
              obtain ⟨htake, hdrop⟩ := Prod.mk.inj hspan
              rw [huv, htake, hdrop] at hend
              exact hend
      · rename_i hc
        rw [Text.takeDigits?_of_not_digit (by simpa using hc)]
        rfl

/-- No run of digits can be given up for a character that is no digit. -/
theorem first?_one_of_digit {test : Char → Bool}
    (htest : ∀ c, test c = true → Text.isDigit c = false)
    (h : ∃ c ∈ s.rest.head?, Text.isDigit c = true) :
    ((Pattern.one test).andThen q).first? s = none := by
  obtain ⟨c, hc, hd⟩ := h
  obtain ⟨t, ht⟩ := List.head?_eq_some_iff.mp hc
  rw [Pattern.first?_one_andThen _ _ ht, if_neg]
  intro hc
  rw [htest c hc] at hd
  exact absurd hd (by decide)

theorem first?_noDigitNext_of_digit (h : ∃ c ∈ s.rest.head?, Text.isDigit c = true) :
    noDigitNext.first? s = none := by
  obtain ⟨c, hc, hd⟩ := h
  rw [noDigitNext, Pattern.first?, Pattern.ends, Option.mem_def.mp hc, Option.map_some,
    Option.getD_some, hd]
  rfl

theorem first?_noDigitNext (h : ∀ c ∈ s.rest.head?, Text.isDigit c = false) :
    noDigitNext.first? s = some s := by
  have htest : (s.rest.head?.map Text.isDigit).getD false = false := by
    cases hc : s.rest.head? with
    | none => rfl
    | some c => exact h c hc
  rw [noDigitNext, Pattern.first?, Pattern.ends, htest]
  rfl

theorem signedPattern_andThen (q : Pattern) (s : Place) :
    (signedPattern.andThen q).first? s
      = ((Pattern.one isSign).andThen (runPattern.andThen q)).first? s :=
  congrArg List.head? (Pattern.ends_andThen_assoc _ _ _ s)

/-- The modifier is taken if it is there, and no digit can follow it. -/
theorem first?_modifier (h : ∀ c ∈ s.rest.head?, Text.isDigit c = false) :
    (signedPattern.optional.andThen noDigitNext).first? s
      = some (s.after (takeModifier s.rest).1 (takeModifier s.rest).2 []) := by
  rw [Pattern.first?_optional_andThen, signedPattern_andThen, first?_noDigitNext h]
  cases hrest : s.rest with
  | nil =>
      rw [Pattern.first?_one_andThen_nil _ _ hrest]
      exact congrArg some (Place.after_nil hrest).symm
  | cons c t =>
      rw [Pattern.first?_one_andThen _ _ hrest, takeModifier]
      split
      · rw [first?_runPattern_andThen fun s => first?_noDigitNext_of_digit, Place.rest_after]
        cases htake : Text.takeDigits? t with
        | none => exact congrArg some (Place.after_nil hrest).symm
        | some r =>
            obtain ⟨-, -, -, hstop⟩ := Text.takeDigits?_eq_some htake
            rw [Option.bind_some, first?_noDigitNext (by simpa using hstop), Place.after_after]
            rfl
      · exact congrArg some (Place.after_nil hrest).symm

/-- The pattern takes the formula at the start of a text. -/
theorem first?_inlinePattern (s : Place) :
    inlinePattern.first? s = (takeMention? s.rest).map fun r => s.after r.1 r.2 [] := by
  have hmodifier (s : Place) (h : ∃ c ∈ s.rest.head?, Text.isDigit c = true) :
      (signedPattern.optional.andThen noDigitNext).first? s = none := by
    rw [Pattern.first?_optional_andThen, signedPattern_andThen,
      first?_one_of_digit (fun _ => isDigit_of_isSign) h, first?_noDigitNext_of_digit h]
    rfl
  rw [inlinePattern,
    first?_runPattern_andThen fun s => first?_one_of_digit fun _ => isDigit_of_isDieLetter,
    takeMention?]
  cases hcount : Text.takeDigits? s.rest with
  | none => rfl
  | some r =>
      obtain ⟨count, after⟩ := r
      rw [Option.bind_some]
      cases after with
      | nil => exact Pattern.first?_one_andThen_nil _ _ rfl
      | cons d after =>
          rw [Pattern.first?_one_andThen _ _ rfl]
          dsimp only
          split
          · rw [first?_runPattern_andThen hmodifier, Place.after_after, Place.rest_after]
            cases hsides : Text.takeDigits? after with
            | none => rfl
            | some r =>
                obtain ⟨sides, behind⟩ := r
                obtain ⟨-, -, -, hstop⟩ := Text.takeDigits?_eq_some hsides
                rw [Option.bind_some, first?_modifier (by simpa using hstop), Place.after_after,
                  Place.after_after]
                simp
          · rfl

/-- **The mentions are what the pattern of a formula takes.** -/
theorem recognise_mentionPattern : mentionPattern.recognise = mention := by
  funext before t
  rw [Pattern.recognise, mentionPattern, wordBoundary, Pattern.first?_here_andThen,
    first?_inlinePattern, mention]
  dsimp only
  cases htake : takeMention? t with
  | none => simp
  | some r =>
      obtain ⟨f, rest⟩ := r
      obtain ⟨rfl, p, die, hp, -, rfl⟩ := takeMention?_eq_some htake
      -- a formula begins with a digit, so a word begins at the place if none goes on there
      have hword : ((p.write die [] [] ++ rest).head?.map Text.isWord).getD false = true := by
        have hrun : p.count ∈ p.runs := by simp [Parts.runs]
        obtain ⟨c, count, hcount⟩ := List.exists_cons_of_ne_nil (hp.ne_nil p.count hrun)
        have hc := hp.isDigit p.count hrun c (by simp [hcount])
        simp [Parts.write, hcount, Text.isWord_of_isDigit hc]
      have hpassed : before.toList.head? = before := by cases before <;> rfl
      rw [hpassed, hword]
      cases (before.map Text.isWord).getD false with
      | true => rfl
      | false => simp

end Gamebook.Dice
