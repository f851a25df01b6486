import Gamebook.Proofs.Text.Words
import Gamebook.Text.Scan

/-!
# Patterns

What is looked for in a cartridge is told by patterns: one character of a set, one thing
after another, repetitions, groups, and conditions on the place. A pattern is tried at a place
and may end at several places behind it. `ends` lists them with the preferred one first, as
backtracking would come to them: greedy repetitions go on as long as they can, lazy ones stop
as soon as they can, and the first end from which the rest of the pattern goes through is the
one that counts.

There are two ways to reason about a pattern. Where the order of the ends matters, `first?`
has an equation for each way to build a pattern. Where it does not, `Takes` says which words
the pattern can go over, and the language of a pattern is put together from those of its parts.
-/

namespace Gamebook.Text

/-- A place in a text that a pattern has come to. -/
structure Place where
  /-- The characters before the place, the nearest one first. -/
  passed : Text
  rest : Text
  /-- What the groups have taken, in the order in which they were closed. -/
  groups : List Text

namespace Place

/-- The place behind a word, with what groups have taken of it. -/
def after (s : Place) (u t : Text) (taken : List Text) : Place :=
  ⟨u.reverse ++ s.passed, t, s.groups ++ taken⟩

/-- Closes at `s'` a group that was opened at `s`. -/
def close (s s' : Place) : Place :=
  { s' with groups := s'.groups ++ [s.rest.take (s.rest.length - s'.rest.length)] }

@[simp] theorem rest_after (s : Place) (u t : Text) (taken : List Text) :
    (s.after u t taken).rest = t := rfl

@[simp] theorem after_after (s : Place) (u v t t' : Text) (taken taken' : List Text) :
    (s.after u t taken).after v t' taken' = s.after (u ++ v) t' (taken ++ taken') := by
  simp [after]

theorem after_nil {s : Place} {t : Text} (h : s.rest = t) : s.after [] t [] = s := by
  obtain ⟨passed, rest, groups⟩ := s
  obtain rfl : rest = t := h
  simp [after]

theorem close_after {s : Place} {u t : Text} (h : s.rest = u ++ t) (taken : List Text) :
    s.close (s.after u t taken) = s.after u t (taken ++ [u]) := by
  have hlength : s.rest.length - t.length = u.length := by
    rw [h, List.length_append, Nat.add_sub_cancel]
  have htaken : s.rest.take (s.rest.length - t.length) = u := by
    rw [hlength, h, List.take_left]
  simp [close, after, htaken]

end Place

/-- The places that `step` leads to when it is repeated up to `n` times. A greedy repetition
prefers to go on, a lazy one to stop; a step that takes no character is not repeated. -/
def iterate (greedy : Bool) (step : Place → List Place) : Nat → Place → List Place
  | 0, s => [s]
  | n + 1, s =>
    let more := ((step s).filter fun s' => s'.rest.length < s.rest.length).flatMap
      (iterate greedy step n)
    if greedy then more ++ [s] else s :: more

/-- A pattern that a text is matched against. -/
inductive Pattern where
  /-- A character that passes a test. -/
  | one (p : Char → Bool)
  /-- No character, where the one before the place and the text behind it pass a test. -/
  | here (test : Option Char → Text → Bool)
  | andThen (first second : Pattern)
  /-- The pattern, or nothing if that does not lead on. -/
  | optional (p : Pattern)
  | many (greedy : Bool) (p : Pattern)
  | group (p : Pattern)

namespace Pattern

/-- The places where a pattern can end that is tried at a place, the preferred one first. -/
def ends : Pattern → Place → List Place
  | one p, s =>
    match s.rest with
    | [] => []
    | c :: t => if p c then [s.after [c] t []] else []
  | here test, s => if test s.passed.head? s.rest then [s] else []
  | andThen p q, s => (ends p s).flatMap (ends q)
  | optional p, s => ends p s ++ [s]
  | many greedy p, s => iterate greedy (ends p) s.rest.length s
  | group p, s => (ends p s).map s.close

/-- A fixed character. -/
def char (c : Char) : Pattern := one (· == c)

/-- A fixed word. -/
def word : Text → Pattern
  | [] => here fun _ _ => true
  | c :: w => (char c).andThen (word w)

/-- A greedy repetition that goes through at least once. -/
def oneOrMore (p : Pattern) : Pattern := p.andThen (many true p)

/-- A run of digits, as a group. -/
def digits : Pattern := (oneOrMore (one isDigit)).group

/-- The place where a pattern ends that is tried at a place. -/
def first? (p : Pattern) (s : Place) : Option Place := (p.ends s).head?

/-- The first place in a text where a pattern goes through: the text before it and the place
where the pattern ends. -/
def search? (p : Pattern) (before : Option Char) : Text → Option (Text × Place)
  | [] => (p.first? ⟨before.toList, [], []⟩).map fun s => ([], s)
  | c :: t =>
    match p.first? ⟨before.toList, c :: t, []⟩ with
    | some s => some ([], s)
    | none => (search? p (some c) t).map fun r => (c :: r.1, r.2)

/-- What a pattern takes at a place, for a scan. -/
def recognise (p : Pattern) : Recogniser Text := fun before t =>
  (p.first? ⟨before.toList, t, []⟩).map fun s =>
    (t.take (t.length - s.rest.length), t.length - s.rest.length)

/-! ## The first end -/

variable {p q r : Pattern} {s s' : Place}

theorem first?_andThen (p q : Pattern) (s : Place) :
    (p.andThen q).first? s = (p.ends s).findSome? q.first? := List.head?_flatMap

theorem first?_group (p : Pattern) (s : Place) : (group p).first? s = (p.first? s).map s.close :=
  List.head?_map

theorem ends_andThen_assoc (p q r : Pattern) (s : Place) :
    ((p.andThen q).andThen r).ends s = (p.andThen (q.andThen r)).ends s := List.flatMap_assoc

/-- A repetition does not depend on the bound for its steps. -/
theorem iterate_eq (greedy : Bool) (step : Place → List Place) {m n : Nat}
    (hm : s.rest.length ≤ m) (hn : s.rest.length ≤ n) :
    iterate greedy step m s = iterate greedy step n s := by
  -- at the end of the text no step can take a character
  have hend {s : Place} (h : s.rest.length ≤ 0) (n : Nat) : iterate greedy step n s = [s] := by
    have hnone : ((step s).filter fun s' => s'.rest.length < s.rest.length) = [] :=
      List.filter_eq_nil_iff.mpr fun s' _ => by simp; omega
    cases n with
    | zero => rfl
    | succ n => cases greedy <;> simp [iterate, hnone]
  induction m generalizing n s with
  | zero => rw [hend hm, hend hm]
  | succ m ih =>
      cases n with
      | zero => rw [hend hn, hend hn]
      | succ n =>
          have hmore : ((step s).filter fun s' => s'.rest.length < s.rest.length).flatMap
                (iterate greedy step m)
              = ((step s).filter fun s' => s'.rest.length < s.rest.length).flatMap
                (iterate greedy step n) :=
            List.flatMap_congr fun s' hs' => by
              have hlt : s'.rest.length < s.rest.length := by simpa using (List.mem_filter.mp hs').2
              exact ih (by omega) (by omega)
          rw [iterate, iterate, hmore]

/-- A pattern that always takes a character can be repeated without a bound. -/
theorem ends_many (greedy : Bool) (h : ∀ s' ∈ p.ends s, s'.rest.length < s.rest.length) :
    (many greedy p).ends s
      = if greedy then (p.ends s).flatMap (many greedy p).ends ++ [s]
        else s :: (p.ends s).flatMap (many greedy p).ends := by
  have hunbounded : iterate greedy p.ends s.rest.length s
      = iterate greedy p.ends (s.rest.length + 1) s :=
    iterate_eq greedy p.ends (Nat.le_refl _) (Nat.le_succ _)
  have hall : ((p.ends s).filter fun s' => s'.rest.length < s.rest.length) = p.ends s :=
    List.filter_eq_self.mpr fun s' hs' => by simpa using h s' hs'
  have hmore : (p.ends s).flatMap (iterate greedy p.ends s.rest.length)
      = (p.ends s).flatMap (many greedy p).ends :=
    List.flatMap_congr fun s' hs' =>
      iterate_eq greedy p.ends (Nat.le_of_lt (h s' hs')) (Nat.le_refl _)
  rw [ends, hunbounded, iterate, hall, hmore]

/-- A greedy repetition before another pattern goes through once more, or leads on. -/
theorem first?_many_andThen (h : ∀ s' ∈ p.ends s, s'.rest.length < s.rest.length) :
    ((many true p).andThen q).first? s
      = ((p.andThen ((many true p).andThen q)).first? s).or (q.first? s) := by
  have hmore : (p.andThen ((many true p).andThen q)).first? s
      = ((p.ends s).flatMap (many true p).ends).findSome? q.first? := by
    rw [first?, ← ends_andThen_assoc]
    exact first?_andThen (p.andThen (many true p)) q s
  rw [first?_andThen, ends_many true h, if_pos rfl, List.findSome?_append, hmore,
    List.findSome?_cons, List.findSome?_nil]
  cases q.first? s <;> rfl

/-- If only one of the ends leads on, it is the one that counts. -/
theorem first?_andThen_of_only (hs' : s' ∈ p.ends s)
    (honly : ∀ x ∈ p.ends s, (q.ends x) ≠ [] → x = s') : (p.andThen q).first? s = q.first? s' := by
  rw [first?_andThen]
  generalize p.ends s = places at hs' honly
  induction places with
  | nil => exact absurd hs' (by simp)
  | cons x places ih =>
      rw [List.findSome?_cons]
      cases hx : q.first? x with
      | some e =>
          have hne : q.ends x ≠ [] := fun he => by simp [first?, he] at hx
          rw [← honly x (by simp) hne, hx]
      | none =>
          dsimp only
          rcases List.mem_cons.mp hs' with rfl | hs'
          · rw [hx, List.findSome?_eq_none_iff]
            intro y hy
            by_contra hne
            have hney : q.ends y ≠ [] := fun he => hne (by simp [first?, he])
            rw [honly y (by simp [hy]) hney] at hne
            exact hne hx
          · exact ih hs' fun y hy => honly y (by simp [hy])

theorem first?_andThen_eq_none (h : ∀ x ∈ p.ends s, q.ends x = []) :
    (p.andThen q).first? s = none := by
  rw [first?_andThen, List.findSome?_eq_none_iff]
  intro x hx
  rw [first?, h x hx]
  rfl

/-! ## The words of a pattern -/

/-- A pattern goes over exactly the words of a language, wherever it is tried. `L u taken` says
that it can go over `u` while its groups take `taken`. -/
def Takes (p : Pattern) (L : Text → List Text → Prop) : Prop :=
  ∀ s s', s' ∈ p.ends s ↔ ∃ u t taken, s.rest = u ++ t ∧ L u taken ∧ s' = s.after u t taken

variable {L M : Text → List Text → Prop}

theorem Takes.congr (hp : p.Takes L) (h : ∀ u taken, L u taken ↔ M u taken) : p.Takes M := by
  intro s s'
  rw [hp s s']
  simp only [h]

/-- A pattern that takes no empty word shortens what is left. -/
theorem Takes.length_rest_lt (hp : p.Takes L) (h : ∀ taken, ¬L [] taken) (hs' : s' ∈ p.ends s) :
    s'.rest.length < s.rest.length := by
  obtain ⟨u, t, taken, hrest, hu, rfl⟩ := (hp s s').mp hs'
  cases u with
  | nil => exact absurd hu (h taken)
  | cons c u =>
      rw [hrest]
      simp only [Place.rest_after, List.length_append, List.length_cons]
      omega

theorem takes_one (test : Char → Bool) :
    (one test).Takes fun u taken => (∃ c, test c = true ∧ u = [c]) ∧ taken = [] := by
  intro s s'
  rw [ends]
  constructor
  · intro h
    split at h
    · exact absurd h (by simp)
    · rename_i c t hrest
      split at h
      · rename_i hc
        exact ⟨[c], t, [], hrest, ⟨⟨c, hc, rfl⟩, rfl⟩, by simpa using h⟩
      · exact absurd h (by simp)
  · rintro ⟨u, t, taken, hrest, ⟨⟨c, hc, rfl⟩, rfl⟩, rfl⟩
    rw [hrest]
    simp [hc]

theorem Takes.andThen (hp : p.Takes L) (hq : q.Takes M) :
    (p.andThen q).Takes fun u taken =>
      ∃ v w g g', u = v ++ w ∧ taken = g ++ g' ∧ L v g ∧ M w g' := by
  intro s s'
  rw [ends, List.mem_flatMap]
  constructor
  · rintro ⟨mid, hmid, hs'⟩
    obtain ⟨v, t, g, hrest, hv, rfl⟩ := (hp s mid).mp hmid
    obtain ⟨w, t', g', ht, hw, rfl⟩ := (hq _ s').mp hs'
    obtain rfl : t = w ++ t' := ht
    exact ⟨v ++ w, t', g ++ g', by simpa using hrest, ⟨v, w, g, g', rfl, rfl, hv, hw⟩, by simp⟩
  · rintro ⟨u, t, taken, hrest, ⟨v, w, g, g', rfl, rfl, hv, hw⟩, rfl⟩
    refine ⟨s.after v (w ++ t) g, (hp s _).mpr ⟨v, w ++ t, g, by simpa using hrest, hv, rfl⟩, ?_⟩
    exact (hq _ _).mpr ⟨w, t, g', rfl, hw, by simp⟩

theorem Takes.optional (hp : p.Takes L) :
    p.optional.Takes fun u taken => L u taken ∨ u = [] ∧ taken = [] := by
  intro s s'
  rw [ends, List.mem_append, List.mem_singleton, hp s s']
  constructor
  · rintro (⟨u, t, taken, hrest, hu, rfl⟩ | rfl)
    · exact ⟨u, t, taken, hrest, .inl hu, rfl⟩
    · exact ⟨[], s'.rest, [], rfl, .inr ⟨rfl, rfl⟩, (Place.after_nil rfl).symm⟩
  · rintro ⟨u, t, taken, hrest, hu | ⟨rfl, rfl⟩, rfl⟩
    · exact .inl ⟨u, t, taken, hrest, hu, rfl⟩
    · exact .inr (Place.after_nil hrest)

theorem Takes.group (hp : p.Takes L) :
    p.group.Takes fun u taken => ∃ g, L u g ∧ taken = g ++ [u] := by
  intro s s'
  rw [ends, List.mem_map]
  constructor
  · rintro ⟨x, hx, rfl⟩
    obtain ⟨u, t, g, hrest, hu, rfl⟩ := (hp s x).mp hx
    exact ⟨u, t, g ++ [u], hrest, ⟨g, hu, rfl⟩, Place.close_after hrest g⟩
  · rintro ⟨u, t, taken, hrest, ⟨g, hu, rfl⟩, rfl⟩
    exact ⟨s.after u t g, (hp s _).mpr ⟨u, t, g, hrest, hu, rfl⟩, Place.close_after hrest g⟩

theorem length_rest_of_mem_ends_one {test : Char → Bool} (h : s' ∈ (one test).ends s) :
    s'.rest.length < s.rest.length :=
  (takes_one test).length_rest_lt (by simp) h

/-- A run of characters of a set. -/
theorem takes_many_one (greedy : Bool) (test : Char → Bool) :
    (many greedy (one test)).Takes fun u taken => (∀ c ∈ u, test c = true) ∧ taken = [] := by
  intro s s'
  have hmem (s : Place) : s' ∈ (many greedy (one test)).ends s
      ↔ s' = s ∨ ∃ x ∈ (one test).ends s, s' ∈ (many greedy (one test)).ends x := by
    rw [ends_many greedy fun x hx => length_rest_of_mem_ends_one hx]
    cases greedy <;> simp [or_comm]
  generalize hn : s.rest.length = n
  induction n using Nat.strongRecOn generalizing s with
  | ind n ih =>
      rw [hmem]
      constructor
      · rintro (rfl | ⟨x, hx, hs'⟩)
        · exact ⟨[], s'.rest, [], rfl, by simp, (Place.after_nil rfl).symm⟩
        · obtain ⟨v, t, g, hrest, ⟨⟨c, hc, rfl⟩, rfl⟩, rfl⟩ := (takes_one test s x).mp hx
          obtain ⟨u, t', g, ht, ⟨hu, rfl⟩, rfl⟩ :=
            (ih t.length (by rw [← hn, hrest]; simp) _ rfl).mp hs'
          obtain rfl : t = u ++ t' := ht
          exact ⟨c :: u, t', [], hrest, by simpa [hc] using hu, by simp⟩
      · rintro ⟨u, t, taken, hrest, ⟨hu, rfl⟩, rfl⟩
        cases u with
        | nil => exact .inl (Place.after_nil hrest)
        | cons c u =>
            have hc : test c = true := hu c (by simp)
            refine .inr ⟨s.after [c] (u ++ t) [], (takes_one test s _).mpr
              ⟨[c], u ++ t, [], hrest, ⟨⟨c, hc, rfl⟩, rfl⟩, rfl⟩, ?_⟩
            refine (ih (u ++ t).length (by rw [← hn, hrest]; simp) _ rfl).mpr ?_
            exact ⟨u, t, [], rfl, ⟨fun d hd => hu d (by simp [hd]), rfl⟩, by simp⟩

/-- A nonempty run of characters of a set. -/
theorem takes_oneOrMore_one (test : Char → Bool) :
    (oneOrMore (one test)).Takes fun u taken =>
      u ≠ [] ∧ (∀ c ∈ u, test c = true) ∧ taken = [] := by
  intro s s'
  rw [oneOrMore, (takes_one test).andThen (takes_many_one true test) s s']
  constructor
  · rintro ⟨_, t, _, hrest, ⟨_, u, _, _, rfl, rfl, ⟨⟨c, hc, rfl⟩, rfl⟩, hu, rfl⟩, rfl⟩
    exact ⟨c :: u, t, [], hrest, ⟨by simp, by simpa [hc] using hu, rfl⟩, rfl⟩
  · rintro ⟨u, t, _, hrest, ⟨hne, hu, rfl⟩, rfl⟩
    obtain ⟨c, u, rfl⟩ := List.exists_cons_of_ne_nil hne
    refine ⟨c :: u, t, [], hrest, ⟨[c], u, [], [], rfl, rfl, ⟨⟨c, hu c (by simp), rfl⟩, rfl⟩,
      fun d hd => hu d (by simp [hd]), rfl⟩, rfl⟩

theorem takes_digits :
    digits.Takes fun u taken => (u ≠ [] ∧ ∀ c ∈ u, isDigit c = true) ∧ taken = [u] := by
  refine (takes_oneOrMore_one isDigit).group.congr fun u taken => ?_
  constructor
  · rintro ⟨_, ⟨hne, hu, rfl⟩, rfl⟩
    exact ⟨⟨hne, hu⟩, rfl⟩
  · rintro ⟨⟨hne, hu⟩, rfl⟩
    exact ⟨[], ⟨hne, hu, rfl⟩, rfl⟩

theorem mem_ends_here {test : Option Char → Text → Bool} :
    s' ∈ (here test).ends s ↔ test s.passed.head? s.rest = true ∧ s' = s := by
  rw [ends]
  split <;> simp_all

/-! ## Words and runs -/

theorem ends_word (w : Text) (s : Place) :
    (word w).ends s = (after? w s.rest).toList.map fun t => s.after w t [] := by
  induction w generalizing s with
  | nil => simp [word, ends, after?, Place.after_nil]
  | cons c w ih =>
      rw [word, ends, char, ends]
      cases hrest : s.rest with
      | nil => rfl
      | cons d t =>
          by_cases hd : d = c
          · subst hd
            simp [ih, after?]
          · simp [hd, after?, Ne.symm hd]

theorem first?_word (w : Text) (s : Place) :
    (word w).first? s = (after? w s.rest).map fun t => s.after w t [] := by
  rw [first?, ends_word]
  cases after? w s.rest <;> rfl

/-- A pattern behind a word goes on where the word ends. -/
theorem first?_word_andThen (w : Text) (q : Pattern) (s : Place) :
    ((word w).andThen q).first? s = (after? w s.rest).bind fun t => q.first? (s.after w t []) := by
  rw [first?_andThen, ends_word]
  cases after? w s.rest with
  | none => rfl
  | some t => exact List.findSome?_singleton

theorem ends_one_cons {test : Char → Bool} {c : Char} {t : Text} (h : s.rest = c :: t) :
    (one test).ends s = if test c = true then [s.after [c] t []] else [] := by
  rw [ends, h]

theorem first?_here_andThen (test : Option Char → Text → Bool) (q : Pattern) (s : Place) :
    ((here test).andThen q).first? s
      = if test s.passed.head? s.rest then q.first? s else none := by
  rw [first?_andThen, ends]
  split
  · exact List.findSome?_singleton
  · rfl

theorem first?_one_andThen (test : Char → Bool) (q : Pattern) {c : Char} {t : Text}
    (h : s.rest = c :: t) :
    ((one test).andThen q).first? s
      = if test c then q.first? (s.after [c] t []) else none := by
  rw [first?_andThen, ends_one_cons h]
  split
  · exact List.findSome?_singleton
  · rfl

theorem first?_one_andThen_nil (test : Char → Bool) (q : Pattern) (h : s.rest = []) :
    ((one test).andThen q).first? s = none := by
  rw [first?_andThen, ends, h]
  rfl

theorem first?_optional_andThen (p q : Pattern) (s : Place) :
    (p.optional.andThen q).first? s = ((p.andThen q).first? s).or (q.first? s) := by
  rw [first?_andThen, first?_andThen, ends, List.findSome?_append, List.findSome?_singleton]

theorem ends_many_one_cons {greedy : Bool} {test : Char → Bool} {c : Char} {t : Text}
    (h : s.rest = c :: t) (hc : test c = true) :
    (many greedy (one test)).ends s
      = if greedy then (many greedy (one test)).ends (s.after [c] t []) ++ [s]
        else s :: (many greedy (one test)).ends (s.after [c] t []) := by
  rw [ends_many greedy fun s' hs' => length_rest_of_mem_ends_one hs', ends_one_cons h, if_pos hc,
    List.flatMap_singleton]

/-- A run ends where no character of the set stands. -/
theorem ends_many_one_stop {greedy : Bool} {test : Char → Bool}
    (h : ∀ c ∈ s.rest.head?, test c = false) : (many greedy (one test)).ends s = [s] := by
  have hnone : (one test).ends s = [] := by
    cases hrest : s.rest with
    | nil => rw [ends, hrest]
    | cons c t =>
        have hc : test c = false := h c (by rw [hrest]; rfl)
        rw [ends_one_cons hrest, if_neg (by simp [hc])]
  rw [ends_many greedy (by simp [hnone]), hnone]
  cases greedy <;> rfl

/-- A greedy run prefers to take all it can. -/
theorem first?_many_one (test : Char → Bool) (s : Place) :
    (many true (one test)).first? s
      = some (s.after (s.rest.takeWhile test) (s.rest.dropWhile test) []) := by
  generalize hrest : s.rest = rest
  induction rest generalizing s with
  | nil =>
      rw [first?, ends_many_one_stop (by simp [hrest])]
      exact congrArg some (Place.after_nil hrest).symm
  | cons c t ih =>
      cases hc : test c with
      | false =>
          rw [first?, ends_many_one_stop (by simp [hrest, hc]),
            List.takeWhile_cons_of_neg (by simp [hc]), List.dropWhile_cons_of_neg (by simp [hc]),
            Place.after_nil hrest]
          rfl
      | true =>
          have hlater := ih (s.after [c] t []) rfl
          rw [first?] at hlater
          rw [first?, ends_many_one_cons hrest hc, if_pos rfl, List.head?_append, hlater,
            List.takeWhile_cons_of_pos hc, List.dropWhile_cons_of_pos hc, Place.after_after]
          rfl

theorem first?_digits (s : Place) :
    digits.first? s = (takeDigits? s.rest).map fun r => s.after r.1 r.2 [r.1] := by
  rw [digits, first?_group, oneOrMore, first?_andThen]
  cases hrest : s.rest with
  | nil => simp [ends, hrest, takeDigits?]
  | cons c t =>
      rw [ends_one_cons hrest]
      cases hc : isDigit c with
      | false =>
          rw [takeDigits?_of_not_digit (by simp [hc])]
          rfl
      | true =>
          have hall : s.rest = (c :: t.takeWhile isDigit) ++ t.dropWhile isDigit := by
            rw [hrest, List.cons_append, List.takeWhile_append_dropWhile]
          rw [takeDigits?_of_digit ⟨c, rfl, hc⟩, if_pos rfl, List.findSome?_singleton,
            first?_many_one, List.takeWhile_cons_of_pos hc, List.dropWhile_cons_of_pos hc]
          simp [Place.close_after hall]

/-- A run of digits is not given up for a pattern that cannot begin with a digit. -/
theorem first?_digits_andThen
    (hq : ∀ s : Place, (∃ c ∈ s.rest.head?, isDigit c = true) → q.ends s = []) :
    (digits.andThen q).first? s
      = (takeDigits? s.rest).bind fun r => q.first? (s.after r.1 r.2 [r.1]) := by
  cases htake : takeDigits? s.rest with
  | none =>
      refine first?_andThen_eq_none fun x hx => ?_
      obtain ⟨u, t, _, hrest, ⟨⟨hne, hu⟩, -⟩, -⟩ := (takes_digits s x).mp hx
      obtain ⟨c, u, rfl⟩ := List.exists_cons_of_ne_nil hne
      rw [hrest, takeDigits?_of_digit ⟨c, rfl, hu c (by simp)⟩] at htake
      exact absurd htake (by simp)
  | some r =>
      obtain ⟨ds, rest⟩ := r
      obtain ⟨hrest, hne, hds, -⟩ := takeDigits?_eq_some htake
      have htaken : s.after ds rest [ds] ∈ digits.ends s :=
        (takes_digits s _).mpr ⟨ds, rest, [ds], hrest, ⟨⟨hne, hds⟩, rfl⟩, rfl⟩
      refine first?_andThen_of_only htaken fun x hx hgoes => ?_
      obtain ⟨u, t, _, hut, ⟨⟨hnu, hu⟩, rfl⟩, rfl⟩ := (takes_digits s x).mp hx
      have hstop : ∀ c ∈ t.head?, isDigit c = false := fun c hc =>
        Bool.eq_false_iff.mpr fun hd => hgoes (hq _ ⟨c, hc, hd⟩)
      rw [hut, takeDigits?_append hnu hu hstop] at htake
      obtain ⟨rfl, rfl⟩ := Prod.mk.inj (Option.some.inj htake)
      rfl

/-- **A greedy run takes all it can**, if what comes behind it goes through nowhere in the run
unless it does at the end. -/
theorem first?_run_andThen {test : Char → Bool}
    (h : ∀ u t, s.rest = u ++ t → (∀ c ∈ u, test c = true) →
      q.first? (s.after (s.rest.takeWhile test) (s.rest.dropWhile test) []) = none →
      q.first? (s.after u t []) = none) :
    ((many true (one test)).andThen q).first? s
      = q.first? (s.after (s.rest.takeWhile test) (s.rest.dropWhile test) []) := by
  generalize hrest : s.rest = rest at h
  induction rest generalizing s with
  | nil =>
      rw [first?_andThen, ends_many_one_stop (by simp [hrest]), List.findSome?_singleton]
      exact congrArg q.first? (Place.after_nil hrest).symm
  | cons c t ih =>
      cases hc : test c with
      | false =>
          rw [first?_andThen, ends_many_one_stop (by simp [hrest, hc]), List.findSome?_singleton,
            List.takeWhile_cons_of_neg (by simp [hc]), List.dropWhile_cons_of_neg (by simp [hc]),
            Place.after_nil hrest]
      | true =>
          have htake := List.takeWhile_cons_of_pos (l := t) hc
          have hdrop := List.dropWhile_cons_of_pos (l := t) hc
          have hlater := @ih (s.after [c] t []) rfl fun u v hv hu hnone => by
            rw [Place.after_after] at hnone ⊢
            refine h (c :: u) v (congrArg (c :: ·) hv) (by simpa [hc] using hu) ?_
            rwa [htake, hdrop]
          have hnow : q.first? (s.after (c :: t.takeWhile test) (t.dropWhile test) []) = none →
              q.first? s = none := by
            intro hnone
            rw [← Place.after_nil hrest]
            refine h [] (c :: t) rfl (by simp) ?_
            rwa [htake, hdrop]
          rw [first?_andThen] at hlater ⊢
          rw [ends_many_one_cons hrest hc, if_pos rfl, List.findSome?_append, hlater,
            List.findSome?_singleton, htake, hdrop, Place.after_after]
          cases hend : q.first? (s.after (c :: t.takeWhile test) (t.dropWhile test) []) with
          | some e => simp [hend]
          | none => simp [hend, hnow hend]

/-- The place where a pattern ends that is tried at every place of `t`, from the first one on. `u`
has been passed over since `s`, and what is passed over is a group. -/
def firstBehind? (q : Pattern) (s : Place) (u : Text) : Text → Option Place
  | [] => q.first? (s.after u [] [u])
  | c :: t => (q.first? (s.after u (c :: t) [u])).or (firstBehind? q s (u ++ [c]) t)

/-- **A lazy run of any characters ends at the first place where the rest of the pattern goes
through.** -/
theorem first?_lazy_andThen (q : Pattern) (s : Place) :
    ((group (many false (one fun _ => true))).andThen q).first? s
      = q.firstBehind? s [] s.rest := by
  -- the run has gone over `u` and `t` is left
  have hfrom : ∀ t u, s.rest = u ++ t →
      ((many false (one fun _ => true)).ends (s.after u t [])).findSome? (q.first? ∘ s.close)
        = q.firstBehind? s u t := by
    intro t
    induction t with
    | nil =>
        intro u hrest
        rw [ends_many_one_stop (by simp), List.findSome?_singleton, Function.comp_apply,
          Place.close_after hrest, List.nil_append, firstBehind?]
    | cons c t ih =>
        intro u hrest
        have hlater := ih (u ++ [c]) (by rw [hrest, List.append_assoc]; rfl)
        rw [ends_many_one_cons rfl rfl, if_neg (by decide), List.findSome?_cons,
          Function.comp_apply, Place.close_after hrest, List.nil_append, firstBehind?,
          Place.after_after, List.append_nil, hlater]
        cases q.first? (s.after u (c :: t) [u]) <;> rfl
  rw [first?_andThen, ends, List.findSome?_map]
  have hall := hfrom s.rest [] rfl
  rw [Place.after_nil rfl] at hall
  exact hall

/-- **A lazy run of any characters before a word ends at the first place of the word.** -/
theorem first?_until (w : Text) (s : Place) :
    ((group (many false (one fun _ => true))).andThen (word w)).first? s
      = (cutAt? w s.rest).map fun r => s.after (r.1 ++ w) r.2 [r.1] := by
  have hfrom : ∀ t u, (word w).firstBehind? s u t
      = (cutAt? w t).map fun r => s.after (u ++ r.1 ++ w) r.2 [u ++ r.1] := by
    intro t
    induction t with
    | nil =>
        intro u
        rw [firstBehind?, first?_word, Place.rest_after, cutAt?]
        cases w <;> simp [after?]
    | cons c t ih =>
        intro u
        rw [firstBehind?, first?_word, Place.rest_after, cutAt?, ih]
        cases after? w (c :: t) with
        | some rest => simp
        | none =>
            rw [Option.map_none, Option.none_or, Option.map_map]
            congr 1
            funext r
            simp
  rw [first?_lazy_andThen]
  exact hfrom s.rest []

end Pattern

end Gamebook.Text
