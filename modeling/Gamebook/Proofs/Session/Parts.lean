import Gamebook.Proofs.Session.Bars

/-!
# The parts of a session

What a reader does in a session falls into parts that know nothing of each other: the dice with
the history and the rows they light up, the bars, and the open card. Each has its own actions.
An action that fails belongs to a part as well, and so does one that only looks.

`only p s` is the session `s` as if nothing but its part `p` had ever been used. An action of
the part does there what it does in `s` (`perform_only`), and any other action leaves it as it
is (`only_perform`). So a run, seen from one part, is the run of that part's actions alone
(`only_run`), and the parts together are the whole session (`eq_of_only`).
-/

namespace Gamebook

/-- What an action is about. -/
inductive Session.Part where
  /-- Formulas, the history and the rows that light up, with the source and the clock. -/
  | dice
  | bars
  | card
  /-- The cartridge alone, which never changes. -/
  | cartridge
deriving DecidableEq

/-- The part of a session that an action is about. -/
def Action.part : Action → Session.Part
  | roll .. | rollStat .. | rollTable _ | clearHistory | history | highlighted _ => .dice
  | setBar .. | adjustBar .. | resetBars | barCurrent .. | statValue .. => .bars
  | select _ => .card
  | jump _ | findTable _ => .cartridge

namespace Session

/-! ## The actions of a part -/

/-- The actions of a part, in their order. -/
def Part.actionsIn (p : Part) (actions : List Action) : List Action :=
  actions.filter fun action => action.part = p

theorem Part.actionsIn_of_eq {p : Part} {action : Action} (h : action.part = p)
    (actions : List Action) : p.actionsIn (action :: actions) = action :: p.actionsIn actions :=
  List.filter_cons_of_pos (by simpa using h)

theorem Part.actionsIn_of_ne {p : Part} {action : Action} (h : action.part ≠ p)
    (actions : List Action) : p.actionsIn (action :: actions) = p.actionsIn actions :=
  List.filter_cons_of_neg (by simpa using h)

theorem Part.eq_of_mem_actionsIn {p : Part} {action : Action} {actions : List Action}
    (h : action ∈ p.actionsIn actions) : action.part = p := by
  simpa using (List.mem_filter.mp h).2

theorem Part.actionsIn_actionsIn (p : Part) (actions : List Action) :
    p.actionsIn (p.actionsIn actions) = p.actionsIn actions := by
  simp [actionsIn, List.filter_filter]

/-! ## One part of a session -/

/-- A session that has just begun, with the cartridge and the limit of another. -/
def bare (s : Session) : Session := ⟨s.cartridge, ⟨[], []⟩, 0, s.limit, [], none, [], []⟩

/-- A session in which only one part was ever used. -/
def only (p : Part) (s : Session) : Session :=
  match p with
  | .dice => { s with card := none, bars := [] }
  | .bars => { s.bare with bars := s.bars }
  | .card => { s.bare with card := s.card }
  | .cartridge => s.bare

theorem dice_of_only {s t : Session} (h : s.only .dice = t.only .dice) :
    s.history = t.history ∧ s.highlights = t.highlights ∧ s.source = t.source
      ∧ s.clock = t.clock := by
  have hhistory := congrArg Session.history h
  have hhighlights := congrArg Session.highlights h
  have hsource := congrArg Session.source h
  have hclock := congrArg Session.clock h
  exact ⟨hhistory, hhighlights, hsource, hclock⟩

theorem bars_of_only {s t : Session} (h : s.only .bars = t.only .bars) : s.bars = t.bars := by
  have hbars := congrArg Session.bars h
  exact hbars

theorem card_of_only {s t : Session} (h : s.only .card = t.only .card) : s.card = t.card := by
  have hcard := congrArg Session.card h
  exact hcard

theorem bare_of_only {s t : Session} (h : s.only .cartridge = t.only .cartridge) :
    s.cartridge = t.cartridge ∧ s.limit = t.limit := by
  have hcartridge := congrArg Session.cartridge h
  have hlimit := congrArg Session.limit h
  exact ⟨hcartridge, hlimit⟩

/-- **The parts of a session make it up.** -/
theorem eq_of_only {s t : Session} (h : ∀ p, s.only p = t.only p) : s = t := by
  obtain ⟨hhistory, hhighlights, hsource, hclock⟩ := dice_of_only (h .dice)
  obtain ⟨hcartridge, hlimit⟩ := bare_of_only (h .cartridge)
  have hbars := bars_of_only (h .bars)
  have hcard := card_of_only (h .card)
  cases s
  cases t
  rw [Session.mk.injEq]
  exact ⟨hcartridge, hsource, hclock, hlimit, hhistory, hcard, hhighlights, hbars⟩

/-! ## An action of the part -/

theorem rollFormula_only (formula : Text) (label : Option Text) (s : Session) :
    (s.only .dice).rollFormula formula label
      = ((s.rollFormula formula label).1, (s.rollFormula formula label).2.only .dice) := by
  cases hf : Dice.Formula.read formula with
  | error e => rw [rollFormula_error label _ hf, rollFormula_error label _ hf]
  | ok f =>
      rw [rollFormula_ok label _ hf, rollFormula_ok label _ hf]
      rfl

theorem rollTable_only (id : Text) (s : Session) :
    (s.only .dice).rollTable id = ((s.rollTable id).1, (s.rollTable id).2.only .dice) := by
  have hcartridge : (s.only .dice).cartridge = s.cartridge := rfl
  unfold rollTable
  rw [hcartridge]
  cases s.cartridge.table? id with
  | none => rfl
  | some table =>
      dsimp only
      cases writeNumber table.die with
      | error e => rfl
      | ok die =>
          dsimp only
          rw [rollFormula_only]
          obtain ⟨new, s'⟩ := s.rollFormula ('1' :: 'd' :: die) (some ("Table ".toList ++ id))
          cases new with
          | none => rfl
          | some new =>
              dsimp only
              cases Table.resolveRow new.roll.total table.rows with
              | error e => rfl
              | ok row => cases row <;> rfl

theorem setBar_only (term : Text) (index value : Int) (s : Session) :
    (s.only .bars).setBar term index value
      = (s.setBar term index value).map fun r => (r.1, r.2.only .bars) := by
  cases hbar : s.bar term index with
  | error e =>
      have hbar' : (s.only .bars).bar term index = .error e := hbar
      rw [setBar, setBar, hbar, hbar']
      rfl
  | ok b =>
      have hbar' : (s.only .bars).bar term index = .ok b := hbar
      rw [setBar_eq hbar value, setBar_eq hbar' value]
      rfl

theorem adjustBar_only (term : Text) (index delta : Int) (s : Session) :
    (s.only .bars).adjustBar term index delta
      = (s.adjustBar term index delta).map fun r => (r.1, r.2.only .bars) := by
  have hcurrent : (s.only .bars).barCurrent term index = s.barCurrent term index := rfl
  unfold adjustBar
  rw [hcurrent]
  cases s.barCurrent term index with
  | error e => rfl
  | ok now => exact setBar_only term index (now + delta) s

/-- **An action of a part needs that part only.** Its reply is the same without the others, and so
is what it does to its own. -/
theorem perform_only (action : Action) (s : Session) :
    (s.only action.part).perform action
      = ((s.perform action).1, (s.perform action).2.only action.part) := by
  cases action with
  | roll formula label =>
      simp only [perform, Action.part]
      rw [rollFormula_only]
  | rollStat term index =>
      have hstat : (s.only .dice).stat term index = s.stat term index := rfl
      simp only [perform, Action.part]
      rw [rollStat_eq, rollStat_eq, hstat]
      cases s.stat term index with
      | error e => rfl
      | ok stat =>
          cases stat with
          | static label value => rfl
          | bar label current maximum => rfl
          | roll label formula =>
              dsimp only
              rw [rollFormula_only]
  | rollTable id =>
      simp only [perform, Action.part]
      rw [rollTable_only]
  | setBar term index value =>
      simp only [perform, Action.part]
      rw [setBar_only]
      cases s.setBar term index value <;> rfl
  | adjustBar term index delta =>
      simp only [perform, Action.part]
      rw [adjustBar_only]
      cases s.adjustBar term index delta <;> rfl
  | select term =>
      have hdefinition : (s.only .card).definition? term = s.definition? term := rfl
      simp only [perform, Action.part, select]
      rw [hdefinition]
      cases s.definition? term <;> rfl
  | resetBars => rfl
  | clearHistory => rfl
  -- the actions that only look
  | jump term => rfl
  | highlighted id => rfl
  | statValue term index => rfl
  | barCurrent term index => rfl
  | history => rfl
  | findTable id => rfl

/-! ## An action of another part -/

/-- The card that an action opens. -/
def opened? (cartridge : Cartridge) : Action → Option Card
  | .select term => (entryOf? term cartridge.glossary).map (Card.mk term)
  | _ => none

theorem card_perform (action : Action) (s : Session) :
    (s.perform action).2.card = (opened? s.cartridge action).or s.card := by
  cases action with
  | select term =>
      simp only [perform, select, definition?, opened?]
      cases entryOf? term s.cartridge.glossary <;> rfl
  | roll formula label => exact (rollFormula_keeps formula label s).1
  | rollStat term index => exact (rollStat_keeps term index s).1
  | rollTable id => exact (rollTable_keeps id s).1
  | setBar term index value =>
      simp only [perform]
      rcases setBar_error_or term index value s with ⟨e, h⟩ | ⟨v, bars, h⟩ <;> rw [h] <;> rfl
  | adjustBar term index delta =>
      simp only [perform]
      rcases adjustBar_error_or term index delta s with ⟨e, h⟩ | ⟨v, bars, h⟩ <;> rw [h] <;> rfl
  | resetBars => rfl
  | clearHistory => rfl
  | jump term => rfl
  | highlighted id => rfl
  | statValue term index => rfl
  | barCurrent term index => rfl
  | history => rfl
  | findTable id => rfl

theorem part_of_evaluation? {action : Action} {s : Session} {e : Text × Option Text}
    (h : evaluation? action s = some e) : action.part = .dice := by
  cases action with
  | roll formula label => rfl
  | rollStat term index => rfl
  | rollTable id => rfl
  | _ => exact absurd h (by simp [evaluation?])

/-- **An action of another part leaves the part alone**, also if it fails. -/
theorem only_perform {p : Part} {action : Action} (h : action.part ≠ p) (s : Session) :
    (s.perform action).2.only p = s.only p := by
  obtain ⟨hcartridge, hlimit⟩ := (perform_effect action s).fixed
  have hbare : (s.perform action).2.bare = s.bare := by rw [bare, hcartridge, hlimit, bare]
  cases p with
  | dice =>
      have heffect := perform_effect action s
      generalize (s.perform action).2 = s' at heffect
      cases heffect with
      | clears hc => exact absurd (by rw [hc, Action.part]) h
      | rolls hne he hf => exact absurd (part_of_evaluation? he) h
      | quiet card bars hne hnone => rfl
  | bars =>
      have hbars : (s.perform action).2.bars = s.bars := by
        refine bars_perform (fun term index => ?_) (fun hreset => h (by rw [hreset, Action.part])) s
        cases action with
        | setBar t i value => exact absurd rfl h
        | adjustBar t i delta => exact absurd rfl h
        | _ => rfl
      rw [only, only, hbare, hbars]
  | card =>
      have hcard : (s.perform action).2.card = s.card := by
        rw [card_perform]
        cases action with
        | select term => exact absurd rfl h
        | _ => rfl
      rw [only, only, hbare, hcard]
  | cartridge => exact hbare

/-! ## Whole runs -/

/-- What the actions of a part reply in a run, in order. -/
def repliesOf (p : Part) (actions : List Action) (s : Session) :
    List (Except SessionError Reply) :=
  ((actions.zip (performAll actions s)).filter fun step => step.1.part = p).map
    fun step => step.2.1

theorem repliesOf_cons (p : Part) (action : Action) (actions : List Action) (s : Session) :
    repliesOf p (action :: actions) s
      = (if action.part = p then [(s.perform action).1] else [])
        ++ repliesOf p actions (s.perform action).2 := by
  simp only [repliesOf, performAll, List.zip_cons_cons, List.filter_cons, decide_eq_true_eq]
  split <;> rfl

/-- **A run, seen from one part, is the run of its actions.** -/
theorem only_run (p : Part) (actions : List Action) (s : Session) :
    (run actions s).only p = run (p.actionsIn actions) (s.only p) := by
  induction actions generalizing s with
  | nil => rfl
  | cons action actions ih =>
      rw [run_cons, ih]
      by_cases h : action.part = p
      · rw [Part.actionsIn_of_eq h, run_cons, ← h, perform_only]
      · rw [Part.actionsIn_of_ne h, only_perform h]

/-- The replies of a part are those that its actions get without the others. -/
theorem repliesOf_eq_only (p : Part) (actions : List Action) (s : Session) :
    repliesOf p actions s
      = (performAll (p.actionsIn actions) (s.only p)).map Prod.fst := by
  induction actions generalizing s with
  | nil => rfl
  | cons action actions ih =>
      rw [repliesOf_cons, ih]
      by_cases h : action.part = p
      · rw [if_pos h, Part.actionsIn_of_eq h, performAll, ← h, perform_only]
        rfl
      · rw [if_neg h, Part.actionsIn_of_ne h, only_perform h, List.nil_append]

/-- Actions of one part reply the same in a session and in its part. -/
theorem performAll_only {p : Part} {actions : List Action} (h : ∀ a ∈ actions, a.part = p)
    (s : Session) :
    (performAll actions (s.only p)).map Prod.fst = (performAll actions s).map Prod.fst := by
  induction actions generalizing s with
  | nil => rfl
  | cons action actions ih =>
      have haction : action.part = p := h action (by simp)
      have hrest := ih (fun a ha => h a (by simp [ha])) (s.perform action).2
      simp only [performAll, List.map_cons]
      rw [← haction, perform_only, haction, hrest]

theorem repliesOf_eq (p : Part) (actions : List Action) (s : Session) :
    repliesOf p actions s = (performAll (p.actionsIn actions) s).map Prod.fst := by
  rw [repliesOf_eq_only, performAll_only fun a ha => Part.eq_of_mem_actionsIn ha]

theorem only_run_actionsIn (p : Part) (actions : List Action) (s : Session) :
    (run actions s).only p = (run (p.actionsIn actions) s).only p := by
  rw [only_run, only_run, Part.actionsIn_actionsIn]

/-- The open card is the one that was opened last. -/
theorem card_run (actions : List Action) (s : Session) :
    (run actions s).card = ((actions.filterMap (opened? s.cartridge)).getLast?).or s.card := by
  induction actions using List.reverseRecOn with
  | nil => rfl
  | append_singleton actions action ih =>
      rw [run_snoc, card_perform, (run_fixed actions s).1, ih, List.filterMap_append]
      cases h : opened? s.cartridge action with
      | none => simp [h]
      | some card => simp [h]

/--
**The parts of a session do not interfere.**

Take the actions of one part out of a run, in their order, and do nothing else: each replies
what it replied in the run, a failing one with the same error. The history, the lit rows, the
source and the clock are what they are after the run if the part is that of the dice, the set
values if it is that of the bars, and the card if it is that of the card. So two runs that have
the same actions of each part, mingled in any way, end in the same session with the same
replies. The open card is that of the last term with a definition that was selected; as long as
there is none, no card is open.
-/
theorem parts_after_actions {settings : Settings} {cartridge : Cartridge}
    {source : Dice.Source} {limit : Option Int} {begun : Session}
    (h : startUnder settings cartridge source limit = .ok begun) (actions : List Action) :
    (∀ p : Part, repliesOf p actions begun
        = (performAll (p.actionsIn actions) begun).map Prod.fst)
      ∧ ((run actions begun).history = (run (Part.dice.actionsIn actions) begun).history
        ∧ (run actions begun).highlights = (run (Part.dice.actionsIn actions) begun).highlights
        ∧ (run actions begun).source = (run (Part.dice.actionsIn actions) begun).source
        ∧ (run actions begun).clock = (run (Part.dice.actionsIn actions) begun).clock)
      ∧ (run actions begun).bars = (run (Part.bars.actionsIn actions) begun).bars
      ∧ (run actions begun).card = (run (Part.card.actionsIn actions) begun).card
      ∧ (∀ mingled : List Action, (∀ p : Part, p.actionsIn mingled = p.actionsIn actions) →
          run mingled begun = run actions begun
            ∧ ∀ p, repliesOf p mingled begun = repliesOf p actions begun)
      ∧ (run actions begun).card = (actions.filterMap (opened? cartridge)).getLast? := by
  refine ⟨fun p => repliesOf_eq p actions begun,
    dice_of_only (only_run_actionsIn .dice actions begun),
    bars_of_only (only_run_actionsIn .bars actions begun),
    card_of_only (only_run_actionsIn .card actions begun),
    fun mingled hsame => ⟨?_, fun p => ?_⟩, ?_⟩
  · refine eq_of_only fun p => ?_
    rw [only_run, only_run, hsame p]
  · rw [repliesOf_eq, repliesOf_eq, hsame p]
  · rw [card_run, eq_of_start h, Option.or_none]

/-- Rolls, bars and cards in turn. A roll and an adjustment fail, and a selected term is unknown. -/
def mingledActions : List Action :=
  [.select "Ghoul".toList, .roll "1d6".toList none, .setBar "Ghoul".toList 0 9,
    .rollStat "Ghoul".toList 0, .adjustBar "Map".toList 0 1, .rollTable "pit".toList,
    .select "Nobody".toList, .adjustBar "Ghoul".toList 0 (-2), .history]

theorem parts_after_mingledActions :
    ∃ begun, startUnder Settings.standard
        (Cartridge.ofParts
          [("Ghoul".toList, .entity [.bar "HP".toList 5 7]), ("Map".toList, .lore [] none)]
          [⟨"pit".toList, 6, ["1-5".toList]⟩])
        (Dice.Source.ofList [3, 1]) none = .ok begun
      ∧ repliesOf .bars mingledActions begun
        = (performAll [.setBar "Ghoul".toList 0 9, .adjustBar "Map".toList 0 1,
            .adjustBar "Ghoul".toList 0 (-2)] begun).map Prod.fst
      ∧ repliesOf .bars mingledActions begun
        = [.ok (.number 7), .error (.notEntity "Map".toList), .ok (.number 5)]
      ∧ (run mingledActions begun).totals = [1, 3]
      ∧ (run mingledActions begun).card
        = some ⟨"Ghoul".toList, .entity [.bar "HP".toList 5 7]⟩ := by
  refine ⟨_, rfl, ?_, rfl, rfl, ?_⟩
  · exact (@parts_after_actions Settings.standard _ _ none _ rfl mingledActions).1 .bars
  · exact (@parts_after_actions Settings.standard _ _ none _ rfl mingledActions).2.2.2.2.2

end Session

end Gamebook
