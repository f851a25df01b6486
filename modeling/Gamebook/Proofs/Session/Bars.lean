import Gamebook.Proofs.Number.Decimal
import Gamebook.Proofs.Session.Highlight

/-!
# Bars

A session remembers what each bar was set to, under the term and the index that the reader
gave. Beside it this file puts the full account of one bar: `barTrace` lists, oldest first,
every value that a reply says the bar was set to, and every time all bars were reset. The
value of the bar is then told by the newest event alone.

Setting keeps a bar within its bounds, and within them adjusting is addition that stops at
the end it runs into. So two adjustments in one direction are as good as their sum.
-/

namespace Gamebook

/-- Whether an action sets the bar with a term and an index, if there is one. -/
def Action.setsBar (term : Text) (index : Int) : Action → Bool
  | setBar t i _ => t == term && i == index
  | adjustBar t i _ => t == term && i == index
  | _ => false

theorem Action.setsBar_iff {term t : Text} {index i : Int} {action : Action}
    (h : action.setsBar t i = true) :
    action.setsBar term index = true ↔ (t, i) = (term, index) := by
  cases action <;> simp_all [Action.setsBar]

namespace Session

/-! ## Setting one bar -/

/-- The session once a bar has a value. -/
def withBar (term : Text) (index value : Int) (s : Session) : Session :=
  { s with bars := ((term, index), value) :: s.bars.filter fun b => b.1 != (term, index) }

theorem setBar_eq {term : Text} {index current maximum : Int} {s : Session}
    (h : s.bar term index = .ok (current, maximum)) (value : Int) :
    s.setBar term index value
      = .ok (clamp maximum value, s.withBar term index (clamp maximum value)) := by
  rw [setBar, h]
  rfl

theorem barCurrent_eq {term : Text} {index current maximum : Int} {s : Session}
    (h : s.bar term index = .ok (current, maximum)) :
    s.barCurrent term index = .ok ((s.setValue? term index).getD current) := by
  rw [barCurrent, h]
  rfl

theorem adjustBar_eq {term : Text} {index current maximum now : Int} {s : Session}
    (h : s.bar term index = .ok (current, maximum)) (hnow : s.barCurrent term index = .ok now)
    (delta : Int) :
    s.adjustBar term index delta
      = .ok (clamp maximum (now + delta), s.withBar term index (clamp maximum (now + delta))) := by
  rw [adjustBar, hnow]
  exact setBar_eq h (now + delta)

/-- The bar that was set has its value, and the others keep theirs. -/
theorem setValue?_withBar (term t : Text) (index i value : Int) (s : Session) :
    (s.withBar t i value).setValue? term index
      = if (t, i) = (term, index) then some value else s.setValue? term index := by
  unfold setValue? withBar
  by_cases h : (t, i) = (term, index)
  · rw [if_pos h, List.find?_cons_of_pos (by simpa using h)]
    rfl
  · -- the entries that were filtered out are those of the bar that was set
    have hfilter : (s.bars.filter fun b => b.1 != (t, i)).find? (fun b => b.1 == (term, index))
        = s.bars.find? fun b => b.1 == (term, index) := by
      rw [List.find?_filter]
      congr 1
      funext b
      by_cases hb : b.1 = (term, index)
      · simp [hb, Ne.symm h]
      · simp [hb]
    rw [if_neg h, List.find?_cons_of_neg (by simpa using h), hfilter]

/-- The value that a bar was set to last is the only one that is left of it. -/
theorem withBar_withBar (term : Text) (index first second : Int) (s : Session) :
    (s.withBar term index first).withBar term index second = s.withBar term index second := by
  simp [withBar, List.filter_filter]

/-! ## Bounds -/

theorem clamp_bounds (maximum value : Int) :
    0 ≤ clamp maximum value ∧ clamp maximum value ≤ max 0 maximum := by
  unfold clamp
  omega

/-- A bar whose greatest value is negative has the one value zero. -/
theorem clamp_eq (maximum value : Int) :
    clamp maximum value = max 0 (min value (max 0 maximum)) := by
  unfold clamp
  omega

/-- **From within the bounds, two steps in one direction are one step by their sum.** -/
theorem clamp_clamp_add {maximum now first second : Int} (hlow : 0 ≤ now) (hhigh : now ≤ maximum)
    (hsign : 0 ≤ first ∧ 0 ≤ second ∨ first ≤ 0 ∧ second ≤ 0) :
    clamp maximum (clamp maximum (now + first) + second)
      = clamp maximum (now + (first + second)) := by
  unfold clamp
  omega

/-! ## What an action does to a bar -/

/-- Something that happens to a bar. -/
inductive BarEvent where
  | setTo (value : Int)
  | reset
deriving DecidableEq

/-- What the bar is set to by an event. -/
def BarEvent.value? : BarEvent → Option Int
  | setTo value => some value
  | reset => none

/-- What an action does to a bar, if it does anything: the reply tells the value. -/
def barEvent? (term : Text) (index : Int) (action : Action) (s : Session) : Option BarEvent :=
  if action.setsBar term index then
    match (s.perform action).1 with
    | .ok (.number value) => some (.setTo value)
    | _ => none
  else if action = .resetBars then some .reset
  else none

/-- What happens to a bar in a run, oldest first. -/
def barTrace (term : Text) (index : Int) (actions : List Action) (s : Session) : List BarEvent :=
  account (barEvent? term index) actions s

/-- The value that the newest event set the bar to. -/
def lastSet? (events : List BarEvent) : Option Int := events.getLast?.bind BarEvent.value?

/-- Rolls and cards are no concern of the bars. -/
theorem bars_perform {action : Action} (hset : ∀ term index, action.setsBar term index = false)
    (hreset : action ≠ .resetBars) (s : Session) : (s.perform action).2.bars = s.bars := by
  cases action with
  | setBar term index value => exact absurd (hset term index) (by simp [Action.setsBar])
  | adjustBar term index delta => exact absurd (hset term index) (by simp [Action.setsBar])
  | resetBars => exact absurd rfl hreset
  | roll formula label => exact (rollFormula_keeps formula label s).2
  | rollStat term index => exact (rollStat_keeps term index s).2
  | rollTable id => exact (rollTable_keeps id s).2
  | select term =>
      show (s.select term).2.bars = s.bars
      unfold select
      split <;> rfl
  | jump term => rfl
  | highlighted id => rfl
  | statValue term index => rfl
  | barCurrent term index => rfl
  | clearHistory => rfl
  | history => rfl
  | findTable id => rfl

/-- An action that sets a bar fails and changes nothing, or its reply tells the value. -/
theorem perform_of_setsBar {term : Text} {index : Int} {action : Action}
    (h : action.setsBar term index = true) (s : Session) :
    (∃ e, s.perform action = (.error e, s))
      ∨ ∃ current maximum value, s.bar term index = .ok (current, maximum)
        ∧ s.perform action
          = (.ok (.number (clamp maximum value)), s.withBar term index (clamp maximum value)) := by
  have hpair {t : Text} {i : Int} (h : (t == term && i == index) = true) :
      t = term ∧ i = index := by simpa using h
  cases action with
  | setBar t i value =>
      obtain ⟨rfl, rfl⟩ := hpair h
      cases hbar : s.bar t i with
      | error e => exact .inl ⟨e, by rw [perform, setBar, hbar]; rfl⟩
      | ok b => exact .inr ⟨b.1, b.2, value, rfl, by rw [perform, setBar_eq hbar]⟩
  | adjustBar t i delta =>
      obtain ⟨rfl, rfl⟩ := hpair h
      cases hbar : s.bar t i with
      | error e => exact .inl ⟨e, by rw [perform, adjustBar, barCurrent, hbar]; rfl⟩
      | ok b =>
          have hadjust := adjustBar_eq hbar (barCurrent_eq hbar) delta
          exact .inr ⟨b.1, b.2, _, rfl, by rw [perform, hadjust]⟩
  | _ => exact absurd h (by simp [Action.setsBar])

/-- **One step.** An event of the bar decides its value, and nothing else changes it. -/
theorem setValue?_perform (term : Text) (index : Int) (action : Action) (s : Session) :
    (s.perform action).2.setValue? term index
      = match barEvent? term index action s with
        | some event => event.value?
        | none => s.setValue? term index := by
  by_cases hset : ∃ t i, action.setsBar t i = true
  · obtain ⟨t, i, ht⟩ := hset
    have hreset : action ≠ .resetBars := by
      rintro rfl
      exact absurd ht (by simp [Action.setsBar])
    rcases perform_of_setsBar ht s with ⟨e, hp⟩ | ⟨_, maximum, value, _, hp⟩
    · simp [barEvent?, hp, hreset]
    · rw [barEvent?, hp, setValue?_withBar]
      by_cases hpair : (t, i) = (term, index)
      · rw [if_pos hpair, if_pos ((Action.setsBar_iff ht).mpr hpair)]
        rfl
      · rw [if_neg hpair, if_neg (mt (Action.setsBar_iff ht).mp hpair), if_neg hreset]
  · have hnot (t : Text) (i : Int) : action.setsBar t i = false := by
      simpa using fun h => hset ⟨t, i, h⟩
    rw [barEvent?, if_neg (by simp [hnot])]
    by_cases hreset : action = .resetBars
    · subst hreset
      rfl
    · rw [if_neg hreset, setValue?, bars_perform hnot hreset]
      rfl

/-- **A whole run.** The value that a bar was set to is that of its newest event. -/
theorem setValue?_run (term : Text) (index : Int) {s : Session} (hnone : s.bars = [])
    (actions : List Action) :
    (run actions s).setValue? term index = lastSet? (barTrace term index actions s) := by
  induction actions using List.reverseRecOn with
  | nil => rw [run_nil, setValue?, hnone]; rfl
  | append_singleton actions action ih =>
      rw [run_snoc, setValue?_perform, ih, barTrace, barTrace, account_snoc]
      cases barEvent? term index action (run actions s) with
      | none => simp
      | some event => simp [lastSet?]

theorem bars_start {settings : Settings} {cartridge : Cartridge} {source : Dice.Source}
    {limit : Option Int} {begun : Session}
    (h : startUnder settings cartridge source limit = .ok begun) : begun.bars = [] := by
  rw [eq_of_start h]

/-- Only the cartridge tells what a bar is. -/
theorem bar_congr {s s' : Session} (h : s.cartridge = s'.cartridge) (term : Text) (index : Int) :
    s.bar term index = s'.bar term index := by
  unfold bar stat definition?
  rw [h]

/-- The values that a bar was set to are within its bounds. -/
theorem bounds_of_mem_barTrace {term : Text} {index current maximum v : Int} {s : Session}
    (hbar : s.bar term index = .ok (current, maximum)) {actions : List Action}
    (h : .setTo v ∈ barTrace term index actions s) : 0 ≤ v ∧ v ≤ max 0 maximum := by
  induction actions using List.reverseRecOn with
  | nil => exact absurd h (by simp [barTrace])
  | append_singleton actions action ih =>
      rw [barTrace, account_snoc, List.mem_append, Option.mem_toList] at h
      rcases h with h | h
      · exact ih h
      · unfold barEvent? at h
        split at h
        · rename_i hset
          rcases perform_of_setsBar hset (run actions s) with ⟨e, hp⟩ | ⟨_, _, value, hbar', hp⟩
          · simp [hp] at h
          · rw [bar_congr (run_fixed actions s).1, hbar] at hbar'
            obtain ⟨-, rfl⟩ := Prod.mk.inj (Except.ok.inj hbar')
            rw [hp] at h
            obtain rfl := BarEvent.setTo.inj (Option.some.inj h)
            exact clamp_bounds maximum value
        · split at h <;> exact absurd h (by simp)

/-! ## What a bar shows -/

theorem bar_of_stat {term label : Text} {index current maximum : Int} {s : Session}
    (h : s.stat term index = .ok (.bar label current maximum)) :
    s.bar term index = .ok (current, maximum) := by
  rw [bar, h]
  rfl

theorem writeNumber_of_length {z : Int} (h : (Number.writeNat z.natAbs).length ≤ digitLimit) :
    writeNumber z = .ok (Number.writeInt z) := by
  rw [writeNumber, Number.write, if_pos h]
  rfl

theorem statValue_of_bar {term label : Text} {index current maximum now : Int} {s : Session}
    (h : s.stat term index = .ok (.bar label current maximum))
    (hnow : s.barCurrent term index = .ok now)
    (hshort : (Number.writeNat now.natAbs).length ≤ digitLimit)
    (hshort' : (Number.writeNat maximum.natAbs).length ≤ digitLimit) :
    s.statValue term index = .ok (Number.writeInt now ++ '/' :: Number.writeInt maximum) := by
  rw [statValue, h]
  simp only [bind, Except.bind, hnow, writeNumber_of_length hshort, writeNumber_of_length hshort']
  rfl

/-- **Two adjustments in one direction are one by their sum**, in the reply and in the session. -/
theorem adjustBar_adjustBar {term : Text} {index current maximum now first second : Int}
    {s : Session} (hbar : s.bar term index = .ok (current, maximum))
    (hnow : s.barCurrent term index = .ok now) (hlow : 0 ≤ now) (hhigh : now ≤ maximum)
    (hsign : 0 ≤ first ∧ 0 ≤ second ∨ first ≤ 0 ∧ second ≤ 0) :
    (s.perform (.adjustBar term index first)).2.perform (.adjustBar term index second)
      = s.perform (.adjustBar term index (first + second)) := by
  have hbar' : (s.withBar term index (clamp maximum (now + first))).bar term index
      = .ok (current, maximum) := (bar_congr rfl term index).trans hbar
  have hnow' : (s.withBar term index (clamp maximum (now + first))).barCurrent term index
      = .ok (clamp maximum (now + first)) := by
    rw [barCurrent_eq hbar', setValue?_withBar, if_pos rfl]
    rfl
  have hfirst : (s.perform (.adjustBar term index first)).2
      = s.withBar term index (clamp maximum (now + first)) := by
    rw [perform, adjustBar_eq hbar hnow]
  rw [hfirst, perform, perform, adjustBar_eq hbar' hnow', adjustBar_eq hbar hnow,
    withBar_withBar, clamp_clamp_add hlow hhigh hsign]

/--
**The value of a bar, after any actions.**

It is the value that the newest event set the bar to: the value replied by the last action
that set this bar, unless all bars were reset since, and the value of the definition
otherwise. Such a value is within the bounds of the bar, and it is the value asked for, or
the value so far and the delta, brought within them. The stat shows the value and the
greatest value. No action on another bar, no roll and no card changes it, and no action
changes the cartridge. From within the bounds, two adjustments in one direction do what
one by their sum does.
-/
theorem bars_after_actions {settings : Settings} {cartridge : Cartridge} {source : Dice.Source}
    {limit : Option Int} {begun : Session}
    (h : startUnder settings cartridge source limit = .ok begun) (actions : List Action)
    {term label : Text} {index current maximum : Int}
    (hstat : begun.stat term index = .ok (.bar label current maximum)) :
    (run actions begun).barCurrent term index
        = .ok ((lastSet? (barTrace term index actions begun)).getD current)
      ∧ (∀ v, .setTo v ∈ barTrace term index actions begun → 0 ≤ v ∧ v ≤ max 0 maximum)
      ∧ (∀ value, ((run actions begun).perform (.setBar term index value)).1
          = .ok (.number (max 0 (min value (max 0 maximum)))))
      ∧ (∀ delta now, (run actions begun).barCurrent term index = .ok now →
          ((run actions begun).perform (.adjustBar term index delta)).1
            = .ok (.number (max 0 (min (now + delta) (max 0 maximum)))))
      ∧ (∀ now, (run actions begun).barCurrent term index = .ok now →
          (Number.writeNat now.natAbs).length ≤ digitLimit →
          (Number.writeNat maximum.natAbs).length ≤ digitLimit →
            (run actions begun).statValue term index
              = .ok (Number.writeInt now ++ '/' :: Number.writeInt maximum))
      ∧ (∀ action : Action, action.setsBar term index = false → action ≠ .resetBars →
          ((run actions begun).perform action).2.barCurrent term index
            = (run actions begun).barCurrent term index)
      ∧ (run actions begun).cartridge = cartridge
      ∧ ∀ now first second, (run actions begun).barCurrent term index = .ok now →
          0 ≤ now → now ≤ maximum → (0 ≤ first ∧ 0 ≤ second ∨ first ≤ 0 ∧ second ≤ 0) →
            ((run actions begun).perform (.adjustBar term index first)).2.perform
                (.adjustBar term index second)
              = (run actions begun).perform (.adjustBar term index (first + second)) := by
  have hbar := bar_of_stat hstat
  have hsame := (run_fixed actions begun).1
  have hstat' : (run actions begun).stat term index = .ok (.bar label current maximum) := by
    rw [← hstat]
    unfold stat definition?
    rw [hsame]
  have hbar' := bar_of_stat hstat'
  have hnow := barCurrent_eq hbar'
  refine ⟨?_, fun v hv => bounds_of_mem_barTrace hbar hv, ?_, ?_, ?_, ?_, ?_, ?_⟩
  · rw [hnow, setValue?_run term index (bars_start h)]
  · intro value
    rw [perform, setBar_eq hbar', clamp_eq]
  · intro delta now hnow
    rw [perform, adjustBar_eq hbar' hnow, clamp_eq]
  · intro now hnow hshort hshort'
    exact statValue_of_bar hstat' hnow hshort hshort'
  · intro action hset hreset
    have hfixed := (perform_effect action (run actions begun)).fixed.1
    rw [barCurrent_eq ((bar_congr hfixed term index).trans hbar'), hnow, setValue?_perform,
      barEvent?, if_neg (by simp [hset]), if_neg hreset]
  · rw [hsame, (highlights_start h).1]
  · intro now first second hnow hlow hhigh hsign
    exact adjustBar_adjustBar hbar' hnow hlow hhigh hsign

/-- A bar under two indexes: what is set under the one is not seen under the other. -/
def barActions : List Action :=
  [.adjustBar "Ghoul".toList 0 (-30), .roll "1d6".toList none, .setBar "Ghoul".toList 0 7,
    .setBar "Ghoul".toList (-1) 9, .clearHistory, .adjustBar "Ghoul".toList 0 40]

theorem bars_after_barActions :
    ∃ begun, startUnder Settings.standard
        (Cartridge.ofParts [("Ghoul".toList, .entity [.bar "HP".toList 5 12])] [])
        (Dice.Source.ofList []) none = .ok begun
      ∧ begun.stat "Ghoul".toList 0 = .ok (.bar "HP".toList 5 12)
      ∧ (run barActions begun).barCurrent "Ghoul".toList 0
        = .ok ((lastSet? (barTrace "Ghoul".toList 0 barActions begun)).getD 5)
      ∧ barTrace "Ghoul".toList 0 barActions begun = [.setTo 0, .setTo 7, .setTo 12] :=
  ⟨_, rfl, rfl,
    (@bars_after_actions Settings.standard _ _ none _ rfl barActions "Ghoul".toList "HP".toList
      0 5 12 rfl).1,
    by decide +kernel⟩

end Session

end Gamebook
