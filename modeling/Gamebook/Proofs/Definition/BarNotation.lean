import Gamebook.Proofs.Definition.Stats
import Gamebook.Proofs.Number.Decimal
import Gamebook.Proofs.Text.Words

/-!
# The two notations of a bar

A bar has its numbers in two fields, or in one value with a slash between them. A text is such a
value exactly if it is two runs of digits, each perhaps with a minus sign, with a slash between
them and blanks anywhere around (`splitBar?_eq_some_iff`). Whichever way the numbers are written,
the same bar is read (`bar_notations`).
-/

namespace Gamebook

open Value (Entries field? hasField)

namespace Stat

/-! ## Two numbers with a slash between them -/

/-- The text of a number: its digits, perhaps behind a minus sign. -/
def writeSigned (s : Bool × Text) : Text := if s.1 then '-' :: s.2 else s.2

/-- A nonempty run of digits. -/
def IsNumber (s : Bool × Text) : Prop := s.2 ≠ [] ∧ ∀ c ∈ s.2, Text.isDigit c = true

/-- A text of two numbers with a slash between them and blanks around each. -/
inductive IsPair (a b : Bool × Text) : Text → Prop where
  | pair {before left right after : Text} :
      IsNumber a → IsNumber b →
      (∀ c ∈ before ++ left ++ right ++ after, Text.isBlank c = true) →
      IsPair a b
        (before ++ (writeSigned a ++ (left ++ '/' :: (right ++ writeSigned b)) ++ after))

variable {a b s : Bool × Text} {t rest : Text}

theorem ne_minus_of_isDigit {c : Char} (h : Text.isDigit c = true) : c ≠ '-' := by
  rintro rfl
  exact absurd h (by decide)

theorem takeSigned?_append (h : IsNumber s) (hrest : ∀ c ∈ rest.head?, Text.isDigit c = false) :
    takeSigned? (writeSigned s ++ rest) = some (s, rest) := by
  obtain ⟨negative, ds⟩ := s
  obtain ⟨hne, hdigits⟩ := h
  have htake := Text.takeDigits?_append hne hdigits hrest
  cases negative with
  | true =>
      show (Text.takeDigits? (ds ++ rest)).map _ = _
      rw [htake]
      rfl
  | false =>
      obtain ⟨d, ds, rfl⟩ := List.exists_cons_of_ne_nil hne
      have hd : d ≠ '-' := ne_minus_of_isDigit (hdigits d (by simp))
      show takeSigned? (d :: ds ++ rest) = _
      unfold takeSigned?
      split
      · rename_i heq
        exact absurd (List.cons.inj heq).1 hd
      · rw [htake]
        rfl

theorem takeSigned?_eq_some (h : takeSigned? t = some (s, rest)) :
    t = writeSigned s ++ rest ∧ IsNumber s := by
  unfold takeSigned? at h
  split at h
  · obtain ⟨⟨ds, rest'⟩, htake, heq⟩ := Option.map_eq_some_iff.mp h
    obtain ⟨rfl, rfl⟩ := Prod.mk.inj heq
    obtain ⟨rfl, hne, hdigits, -⟩ := Text.takeDigits?_eq_some htake
    exact ⟨rfl, hne, hdigits⟩
  · obtain ⟨⟨ds, rest'⟩, htake, heq⟩ := Option.map_eq_some_iff.mp h
    obtain ⟨rfl, rfl⟩ := Prod.mk.inj heq
    obtain ⟨rfl, hne, hdigits, -⟩ := Text.takeDigits?_eq_some htake
    exact ⟨rfl, hne, hdigits⟩

/-- A number begins with a sign or a digit, and ends with a digit. -/
theorem IsNumber.ends (h : IsNumber s) :
    writeSigned s ≠ [] ∧ (∀ c ∈ (writeSigned s).head?, Text.isBlank c = false)
      ∧ ∀ c ∈ (writeSigned s).getLast?, Text.isBlank c = false := by
  obtain ⟨negative, ds⟩ := s
  obtain ⟨hne, hdigits⟩ := h
  have hblank : ∀ c ∈ ds, Text.isBlank c = false :=
    fun c hc => Text.isBlank_of_isDigit (hdigits c hc)
  cases negative with
  | true =>
      refine ⟨by simp [writeSigned], ?_, ?_⟩
      · intro c hc
        obtain rfl : '-' = c := Option.some.inj hc
        decide
      · intro c hc
        have hlast : (writeSigned (true, ds)).getLast? = ds.getLast? :=
          List.getLast?_append_of_ne_nil ['-'] hne
        rw [hlast] at hc
        exact hblank c (List.mem_of_getLast? hc)
  | false =>
      exact ⟨hne, fun c hc => hblank c (List.mem_of_head? hc),
        fun c hc => hblank c (List.mem_of_getLast? hc)⟩

theorem isPair_of_splitBar? (h : splitBar? t = some (a, b)) : IsPair a b t := by
  unfold splitBar? at h
  split at h
  · rename_i current rest hcurrent
    split at h
    · rename_i more hrest
      split at h
      · rename_i maximum hmaximum
        obtain ⟨rfl, rfl⟩ := Prod.mk.inj (Option.some.inj h)
        obtain ⟨htrim, ha⟩ := takeSigned?_eq_some hcurrent
        obtain ⟨hmore, hb⟩ := takeSigned?_eq_some hmaximum
        -- the outer blanks are those that trimming takes away, and the inner ones are skipped
        obtain ⟨before, after, hblank, ht⟩ := Text.exists_blanks_around t
        rw [List.append_nil] at hmore
        have hshape : t = before ++ (writeSigned current ++ (rest.takeWhile Text.isBlank
            ++ '/' :: (more.takeWhile Text.isBlank ++ writeSigned maximum)) ++ after) := by
          rw [← hmore, Text.trimStart, List.takeWhile_append_dropWhile, ← hrest, Text.trimStart,
            List.takeWhile_append_dropWhile, ← htrim]
          exact ht
        rw [hshape]
        refine .pair ha hb fun c hc => ?_
        simp only [List.mem_append] at hc
        rcases hc with ((hc | hc) | hc) | hc
        · exact hblank c (List.mem_append_left _ hc)
        · exact List.mem_takeWhile_imp hc
        · exact List.mem_takeWhile_imp hc
        · exact hblank c (List.mem_append_right _ hc)
      · exact absurd h (by simp)
    · exact absurd h (by simp)
  · exact absurd h (by simp)

theorem splitBar?_of_isPair (h : IsPair a b t) : splitBar? t = some (a, b) := by
  obtain ⟨ha, hb, hblank⟩ := h
  rename_i before left right after
  have hslash : Text.isDigit '/' = false ∧ Text.isBlank '/' = false := by decide
  obtain ⟨hane, hafirst, -⟩ := ha.ends
  obtain ⟨hbne, hbfirst, hblast⟩ := hb.ends
  have htrim : Text.trim
      (before ++ (writeSigned a ++ (left ++ '/' :: (right ++ writeSigned b)) ++ after))
      = writeSigned a ++ (left ++ '/' :: (right ++ writeSigned b)) := by
    rw [Text.trim_blanks_append fun c hc => hblank c (by simp [hc]),
      Text.trim_append_blanks fun c hc => hblank c (by simp [hc])]
    refine Text.trim_eq_self (fun c hc => hafirst c ?_) fun c hc => hblast c ?_
    · rwa [List.head?_append_of_ne_nil _ hane] at hc
    · have hend : writeSigned a ++ (left ++ '/' :: (right ++ writeSigned b))
          = (writeSigned a ++ (left ++ '/' :: right)) ++ writeSigned b := by simp
      rwa [hend, List.getLast?_append_of_ne_nil _ hbne] at hc
  -- a blank or the slash ends the run of digits
  have hafter : ∀ c ∈ (left ++ '/' :: (right ++ writeSigned b)).head?, Text.isDigit c = false := by
    intro c hc
    cases left with
    | nil => exact Option.some.inj hc ▸ hslash.1
    | cons l left =>
        have hl := hblank c (by simp [Option.some.inj hc])
        by_contra hdigit
        rw [Text.isBlank_of_isDigit (by simpa using hdigit)] at hl
        exact absurd hl (by decide)
  have hleft : Text.trimStart (left ++ '/' :: (right ++ writeSigned b))
      = '/' :: (right ++ writeSigned b) :=
    Text.trimStart_blanks_append (fun c hc => hblank c (by simp [hc])) (by simp [hslash.2])
  have hright : Text.trimStart (right ++ writeSigned b) = writeSigned b :=
    Text.trimStart_blanks_append (fun c hc => hblank c (by simp [hc])) hbfirst
  have hlast : takeSigned? (writeSigned b) = some (b, []) := by
    rw [← List.append_nil (writeSigned b)]
    exact takeSigned?_append hb (by simp)
  simp only [splitBar?, htrim, takeSigned?_append ha hafter, hleft, hright, hlast]

/-- **The value of a bar is taken apart exactly if it is two numbers with a slash between them.** -/
theorem splitBar?_eq_some_iff : splitBar? t = some (a, b) ↔ IsPair a b t :=
  ⟨isPair_of_splitBar?, splitBar?_of_isPair⟩

/-! ## The numbers of a bar -/

/-- The parts of a number as it is written in decimal. -/
def signedOf (z : Int) : Bool × Text := (decide (z < 0), Number.writeNat z.natAbs)

theorem writeSigned_signedOf (z : Int) : writeSigned (signedOf z) = Number.writeInt z := by
  simp only [writeSigned, signedOf, Number.writeInt, decide_eq_true_eq]

theorem isNumber_signedOf (z : Int) : IsNumber (signedOf z) :=
  ⟨Number.writeNat_ne_nil _, fun _ hc => Number.isDigit_of_mem_writeNat hc⟩

theorem readSigned_signedOf {z : Int} (h : (Number.writeNat z.natAbs).length ≤ digitLimit) :
    readSigned (signedOf z) = .ok z := by
  rw [readSigned, signedOf, Number.read_writeNat h]
  show Except.ok (if decide (z < 0) = true then -(z.natAbs : Int) else z.natAbs) = .ok z
  by_cases hz : z < 0
  · rw [if_pos (decide_eq_true hz), Int.ofNat_natAbs_of_nonpos (Int.le_of_lt hz), Int.neg_neg]
  · rw [if_neg (by simpa using hz), Int.natAbs_of_nonneg (Int.not_lt.mp hz)]

theorem barNumbers?_of_current {entries : Entries} (h : hasField "current".toList entries = true) :
    barNumbers? entries = .ok none := by
  unfold barNumbers?
  split
  · rfl
  · rw [if_pos h]

theorem barNumbers?_of_text {entries : Entries}
    (hval : field? "val".toList entries = some (.text t))
    (hcurrent : hasField "current".toList entries = false) :
    barNumbers? entries
      = match splitBar? t with
        | none => .ok none
        | some (current, maximum) => do
          return some (← readSigned current, ← readSigned maximum) := by
  rw [barNumbers?, hval]
  dsimp only
  rw [if_neg (by rw [hcurrent]; decide)]
  rfl

/-- A value of two numbers stands for them. -/
theorem barNumbers?_of_isPair {entries : Entries} {current maximum : Int}
    (hval : field? "val".toList entries = some (.text t))
    (hpair : IsPair (signedOf current) (signedOf maximum) t)
    (hcurrent : hasField "current".toList entries = false)
    (hcurrentShort : (Number.writeNat current.natAbs).length ≤ digitLimit)
    (hmaximumShort : (Number.writeNat maximum.natAbs).length ≤ digitLimit) :
    barNumbers? entries = .ok (some (current, maximum)) := by
  rw [barNumbers?_of_text hval hcurrent, splitBar?_of_isPair hpair]
  dsimp only
  rw [readSigned_signedOf hcurrentShort, readSigned_signedOf hmaximumShort]
  rfl

/-! ## Reading a bar -/

/-- The fields with one of them set. -/
def setField (name : Text) (v : Value) (fields : Entries) : Entries :=
  Value.insertEntry (.text name) v fields

variable {fields : Entries}

theorem field?_setField_self (name : Text) (v : Value) (fields : Entries) :
    field? name (setField name v fields) = some v := by
  rw [setField, Value.field?_insertEntry, if_pos rfl]

theorem field?_setField_of_ne {name key : Text} (h : key ≠ name) (v : Value) (fields : Entries) :
    field? name (setField key v fields) = field? name fields := by
  rw [setField, Value.field?_insertEntry, if_neg h]

theorem hasField_setField (name : Text) (v : Value) (fields : Entries) :
    hasField name (setField name v fields) = true := by
  rw [hasField, field?_setField_self]
  rfl

theorem kindOf_bar (h : field? "type".toList fields = some (.text Kind.bar.name)) :
    kindOf fields = .ok .bar := by
  rw [kindOf, Definition.kindBy, h]
  rfl

theorem read_of_numbers {current maximum : Int}
    (htype : field? "type".toList fields = some (.text Kind.bar.name))
    (h : barNumbers? fields = .ok (some (current, maximum))) :
    read (.map fields) = (barOf (withNumbers current maximum fields)).within Kind.bar.name := by
  simp only [read, Value.head, kindOf_bar htype, ofEntries_bar, h]

theorem read_of_noNumbers (htype : field? "type".toList fields = some (.text Kind.bar.name))
    (h : barNumbers? fields = .ok none) :
    read (.map fields) = (barOf fields).within Kind.bar.name := by
  simp only [read, Value.head, kindOf_bar htype, ofEntries_bar, h]

/-- A bar with its current value is read alike, whatever stands in its value. -/
theorem read_setField_val (htype : field? "type".toList fields = some (.text Kind.bar.name))
    (hcurrent : hasField "current".toList fields = true) (v : Value) :
    read (.map (setField "val".toList v fields)) = read (.map fields) := by
  have hother {name : Text} (h : "val".toList ≠ name) :=
    field?_setField_of_ne h v fields
  have hstays : hasField "current".toList (setField "val".toList v fields) = true := by
    rw [hasField, hother (by decide)]
    exact hcurrent
  rw [read_of_noNumbers ((hother (by decide)).trans htype) (barNumbers?_of_current hstays),
    read_of_noNumbers htype (barNumbers?_of_current hcurrent)]
  exact congrArg _ (barOf_congr (hother (by decide)) (hother (by decide)) (hother (by decide))
    (hother (by decide)))

/-- **A bar with a value of two numbers is read like the bar with these numbers in its fields**, but
for a greatest value that it already has. -/
theorem read_setField_pair {bar : Entries} {current maximum : Int}
    (htype : field? "type".toList fields = some (.text Kind.bar.name))
    (hcurrent : hasField "current".toList fields = false)
    (hpair : IsPair (signedOf current) (signedOf maximum) t)
    (hcurrentShort : (Number.writeNat current.natAbs).length ≤ digitLimit)
    (hmaximumShort : (Number.writeNat maximum.natAbs).length ≤ digitLimit)
    (hbarCurrent : field? "current".toList bar = some (.int current))
    (hbarMax : field? "max".toList bar = (field? "max".toList fields).or (some (.int maximum)))
    (hother : ∀ name, "current".toList ≠ name → "max".toList ≠ name →
      field? name bar = field? name fields) :
    read (.map (setField "val".toList (.text t) fields)) = read (.map bar) := by
  have hset {name : Text} (h : "val".toList ≠ name) :=
    field?_setField_of_ne h (.text t) fields
  have hnumbers : barNumbers? (setField "val".toList (.text t) fields)
      = .ok (some (current, maximum)) := by
    refine barNumbers?_of_isPair ?_ hpair ?_ hcurrentShort hmaximumShort
    · exact field?_setField_self ..
    · rw [hasField, hset (by decide)]
      exact hcurrent
  -- the other bar has its current value, so nothing is taken apart there
  have hstays : barNumbers? bar = .ok none :=
    barNumbers?_of_current (by rw [hasField, hbarCurrent]; rfl)
  rw [read_of_numbers ((hset (by decide)).trans htype) hnumbers,
    read_of_noNumbers ((hother _ (by decide) (by decide)).trans htype) hstays]
  refine congrArg _ (barOf_withNumbers ?_ hbarCurrent ?_ ?_)
  · rw [hset (by decide), hother _ (by decide) (by decide)]
  · rw [hset (by decide), hbarMax]
  · rw [hset (by decide), hother _ (by decide) (by decide)]

/-- A bar without a current value is refused if its value is not two numbers. -/
theorem read_setField_noPair (htype : field? "type".toList fields = some (.text Kind.bar.name))
    (hcurrent : hasField "current".toList fields = false) (h : ∀ a b, ¬IsPair a b t) (s : Stat) :
    read (.map (setField "val".toList (.text t) fields)) ≠ .ok (.ok s) := by
  have hset {name : Text} (h : "val".toList ≠ name) :=
    field?_setField_of_ne h (.text t) fields
  have hsplit : splitBar? t = none := by
    cases hsplit : splitBar? t with
    | none => rfl
    | some halves => exact absurd (isPair_of_splitBar? hsplit) (h _ _)
  have hnumbers : barNumbers? (setField "val".toList (.text t) fields) = .ok none := by
    rw [barNumbers?_of_text (t := t), hsplit]
    · exact field?_setField_self ..
    · rw [hasField, hset (by decide)]
      exact hcurrent
  rw [read_of_noNumbers ((hset (by decide)).trans htype) hnumbers, ne_eq,
    Checked.within_eq_value_iff, barOf, Checked.both_eq_value_iff]
  rintro ⟨label, numbers, -, hnumbers, -⟩
  obtain ⟨current, maximum, hfield, -⟩ := Checked.both_eq_value_iff.mp hnumbers
  rw [Definition.required, hset (by decide), Value.hasField_eq_false.mp hcurrent] at hfield
  exact absurd hfield (by simp [Checked.within, Checked.fault])

end Stat

namespace Definition

open Stat (Kind setField IsPair)

/-- The value of a bar with two numbers, and blanks around each of them. -/
def pairText (before : Text) (current : Int) (left right : Text) (maximum : Int) (after : Text) :
    Text :=
  before
    ++ (Number.writeInt current ++ (left ++ '/' :: (right ++ Number.writeInt maximum)) ++ after)

/--
**The two notations of a bar agree.**

A bar whose value is two numbers with a slash between them, each in decimal with blanks around it,
is read like the bar with the first number for its current value and the second for its greatest
one. A greatest value that it has besides stays. With a current value of its own the value does
not matter, whatever it is. A bar without one whose value is a text of any other form is refused.
-/
theorem bar_notations {fields : Entries}
    (htype : field? "type".toList fields = some (.text Kind.bar.name))
    (hcurrent : hasField "current".toList fields = false) :
    (∀ (current maximum : Int) (before left right after : Text),
      (Number.writeNat current.natAbs).length ≤ digitLimit →
      (Number.writeNat maximum.natAbs).length ≤ digitLimit →
      (∀ c ∈ before ++ left ++ right ++ after, Text.isBlank c = true) →
      let value := Value.text (pairText before current left right maximum after)
      (hasField "max".toList fields = false →
        Alike (.map (setField "val".toList value fields))
          (.map (setField "max".toList (.int maximum)
            (setField "current".toList (.int current) fields))))
      ∧ ∀ greatest,
        Alike (.map (setField "val".toList value (setField "max".toList greatest fields)))
          (.map (setField "current".toList (.int current)
            (setField "max".toList greatest fields))))
      ∧ (∀ value current,
        Alike (.map (setField "val".toList value (setField "current".toList current fields)))
          (.map (setField "current".toList current fields)))
      ∧ ∀ t, (∀ a b, ¬IsPair a b t) → ∀ told before after,
        ¬∃ d, read (entityOf told
          (before ++ .map (setField "val".toList (.text t) fields) :: after)) = .ok d := by
  refine ⟨?_, ?_, ?_⟩
  · intro current maximum before left right after hcurrentShort hmaximumShort hblank value
    have hpair : IsPair (Stat.signedOf current) (Stat.signedOf maximum)
        (pairText before current left right maximum after) := by
      have hpair := IsPair.pair (Stat.isNumber_signedOf current) (Stat.isNumber_signedOf maximum)
        hblank
      rwa [Stat.writeSigned_signedOf, Stat.writeSigned_signedOf] at hpair
    refine ⟨fun hmax => alike_of_read_eq ?_, fun greatest => alike_of_read_eq ?_⟩
    · refine Stat.read_setField_pair htype hcurrent hpair hcurrentShort hmaximumShort ?_ ?_ ?_
      · rw [Stat.field?_setField_of_ne (by decide), Stat.field?_setField_self]
      · rw [Stat.field?_setField_self, Value.hasField_eq_false.mp hmax]
        rfl
      · intro name hname hname'
        rw [Stat.field?_setField_of_ne hname', Stat.field?_setField_of_ne hname]
    · refine Stat.read_setField_pair ?_ ?_ hpair hcurrentShort hmaximumShort ?_ ?_ ?_
      · rw [Stat.field?_setField_of_ne (by decide), htype]
      · rw [hasField, Stat.field?_setField_of_ne (by decide)]
        exact hcurrent
      · rw [Stat.field?_setField_self]
      · rw [Stat.field?_setField_of_ne (by decide), Stat.field?_setField_self]
        rfl
      · intro name hname hname'
        rw [Stat.field?_setField_of_ne hname]
  · intro value current
    refine alike_of_read_eq (Stat.read_setField_val ?_ ?_ value)
    · rw [Stat.field?_setField_of_ne (by decide), htype]
    · exact Stat.hasField_setField ..
  · intro t ht told before after hread
    obtain ⟨s, hs⟩ := accepted_entityOf_iff.mp hread _
      (List.mem_append_right before List.mem_cons_self)
    exact Stat.read_setField_noPair htype hcurrent ht s hs

/-- The label and the type of a bar. -/
def hitPoints : Entries :=
  [(.text "label".toList, .text "HP".toList), (.text "type".toList, .text "bar".toList)]

theorem bar_notations_hitPoints :
    field? "type".toList hitPoints = some (.text Kind.bar.name)
      ∧ hasField "current".toList hitPoints = false
      ∧ read (entityOf false
          [.map (setField "val".toList (.text " -3\t/\u200210\n".toList) hitPoints)])
        = .ok (.entity [.bar "HP".toList (-3) 10])
      ∧ read (entityOf false [.map (setField "val".toList (.text " -3\t/\u200210\n".toList)
          (setField "max".toList (.text "012".toList) hitPoints))])
        = .ok (.entity [.bar "HP".toList (-3) 12])
      ∧ read (entityOf false [.map (setField "val".toList (.text "1/2".toList)
          (setField "current".toList (.int 5) hitPoints))])
        = read (entityOf false [.map (setField "current".toList (.int 5) hitPoints)])
      ∧ ¬∃ d, read (entityOf false [.map (setField "val".toList (.text "+3/10".toList) hitPoints)])
        = .ok d := by
  have htype : field? "type".toList hitPoints = some (.text Kind.bar.name) := rfl
  have hcurrent : hasField "current".toList hitPoints = false := rfl
  obtain ⟨hpair, hown, hother⟩ := bar_notations htype hcurrent
  obtain ⟨hboth, hgreatest⟩ := hpair (-3) 10 [' '] ['\t'] ['\u2002'] ['\n'] (by decide) (by decide)
    (List.all_eq_true.mp rfl)
  have hnoPair : ∀ a b, ¬IsPair a b "+3/10".toList := by
    have hsplit : Stat.splitBar? "+3/10".toList = none := by decide
    intro a b h
    rw [Stat.splitBar?_of_isPair h] at hsplit
    exact absurd hsplit (by simp)
  refine ⟨htype, hcurrent, (hboth rfl false [] []).trans ?_,
    (hgreatest (.text "012".toList) false [] []).trans ?_, hown _ _ false [] [],
    hother _ hnoPair false [] []⟩
  · decide +kernel
  · decide +kernel

end Definition

end Gamebook
