import Gamebook.Proofs.Definition.Overlong
import Mathlib.Data.List.Forall2

/-!
# Stats are read one by one

An entity is as good as its stats. Each of them is read as if it stood alone, and only the number
of its place in the list goes into the paths of its problems (`read_statByStat`). One thing alone
crosses from a stat to the others: a number that is too long for a text cuts the reading short, and
then no problem of any stat comes out (`read_hidesProblems`).
-/

namespace Gamebook

open Value (Entries field? hasField)

namespace Stat

variable {xs : List Value} {index : Nat} {e : NumeralError}

/-- Stats have values exactly if each of them has its own. -/
theorem readAllFrom_eq_value_iff {ss : List Stat} :
    readAllFrom index xs = .ok (.ok ss)
      ↔ List.Forall₂ (fun x s => read x = .ok (.ok s)) xs ss := by
  induction xs generalizing index ss with
  | nil => simp [readAllFrom, Checked.value, eq_comm]
  | cons x xs ih =>
      rw [readAllFrom, Checked.both_eq_value_iff]
      simp only [Checked.within_eq_value_iff, ih]
      constructor
      · rintro ⟨s, ss, hx, hxs, rfl⟩
        exact .cons hx hxs
      · intro h
        cases h with
        | cons hx hxs => exact ⟨_, _, hx, hxs, rfl⟩

/-- Stats are cut short by the first of them that is. -/
theorem readAllFrom_eq_numeral_iff :
    readAllFrom index xs = .error e
      ↔ ∃ before x after, xs = before ++ x :: after ∧ (∀ y ∈ before, ∀ e', read y ≠ .error e')
        ∧ read x = .error e := by
  induction xs generalizing index with
  | nil => simp [readAllFrom, Checked.value]
  | cons x xs ih =>
      -- either the first stat is the one, or it is behind the first
      rw [readAllFrom, Checked.both_eq_numeral_iff]
      simp only [ne_eq, Checked.within_eq_numeral_iff, ih]
      constructor
      · rintro (hx | ⟨hx, before, y, after, rfl, hbefore, hy⟩)
        · exact ⟨[], x, xs, rfl, by simp, hx⟩
        · exact ⟨x :: before, y, after, rfl, List.forall_mem_cons.mpr ⟨hx, hbefore⟩, hy⟩
      · rintro ⟨before, y, after, hxs, hbefore, hy⟩
        cases before with
        | nil =>
            obtain ⟨rfl, rfl⟩ := List.cons.inj hxs
            exact .inl hy
        | cons z before =>
            obtain ⟨rfl, rfl⟩ := List.cons.inj hxs
            obtain ⟨hx, hbefore⟩ := List.forall_mem_cons.mp hbefore
            exact .inr ⟨hx, before, y, after, rfl, hbefore, hy⟩

theorem readAllFrom_ne_numeral (h : ∀ x ∈ xs, ∀ e, read x ≠ .error e) (e : NumeralError) :
    readAllFrom index xs ≠ .error e := by
  rw [ne_eq, readAllFrom_eq_numeral_iff]
  rintro ⟨before, x, after, rfl, -, hx⟩
  exact h x (by simp) e hx

/-- **The problems of stats are those of each of them, in order**, with the numbers of their
places. -/
theorem problems_readAllFrom (h : ∀ x ∈ xs, ∀ e, read x ≠ .error e) (index : Nat) :
    (readAllFrom index xs).problems
      = (xs.zipIdx index).flatMap fun x =>
        (read x.1).problems.map (Problem.within (Number.writeNat x.2)) := by
  induction xs generalizing index with
  | nil => rfl
  | cons x xs ih =>
      obtain ⟨hx, hxs⟩ := List.forall_mem_cons.mp h
      rw [readAllFrom, Checked.problems_both
          (fun e he => hx e (Checked.within_eq_numeral_iff.mp he)) (readAllFrom_ne_numeral hxs),
        Checked.problems_within, ih hxs, List.zipIdx_cons, List.flatMap_cons]

/-- Stats that are read alike can take each other's place. -/
theorem readAllFrom_congr {x y : Value} (h : read x = read y) (before after : List Value) :
    readAllFrom index (before ++ x :: after) = readAllFrom index (before ++ y :: after) := by
  induction before generalizing index with
  | nil => rw [List.nil_append, List.nil_append, readAllFrom, h, readAllFrom]
  | cons z before ih => rw [List.cons_append, List.cons_append, readAllFrom, ih, readAllFrom]

/-- A stat that does not tell its type is read as one that tells the type that its fields imply. -/
theorem read_typed {fields : Entries} (h : hasField "type".toList fields = false) :
    read (.map (Value.insertEntry (.text "type".toList) (.text (impliedKind fields).name) fields))
      = read (.map fields) := by
  have hkind : kindOf fields = .ok (impliedKind fields) := by
    rw [kindOf, Definition.kindBy, Value.hasField_eq_false.mp h]
  have htyped : kindOf (Value.insertEntry (.text "type".toList) (.text (impliedKind fields).name)
      fields) = .ok (impliedKind fields) := by
    rw [kindOf, Definition.kindBy, Value.field?_insertEntry, if_pos rfl]
    cases impliedKind fields <;> rfl
  have hfields : ofEntries (impliedKind fields) fields
      = ofEntries (impliedKind fields)
        (Value.insertEntry (.text "type".toList) (.text (impliedKind fields).name) fields) :=
    ofEntries_congr (fun name hname => by rw [Value.field?_insertEntry, if_neg (Ne.symm hname)]) _
  simp only [read, Value.head, hkind, htyped, hfields]

end Stat

namespace Definition

variable {v : Value} {told : Bool} {xs : List Value}

/-! ## Entities -/

/-- The entry that tells a type, or none. -/
def typeEntry (told : Bool) (name : Text) : Entries :=
  if told then [(.text "type".toList, .text name)] else []

/-- An entity with some stats, that tells its type or leaves it out. -/
def entityOf (told : Bool) (stats : List Value) : Value :=
  .map (typeEntry told Kind.entity.name ++ [(.text "stats".toList, .list stats)])

theorem check_entityOf (told : Bool) (xs : List Value) :
    check (entityOf told xs)
      = (((Stat.readAllFrom 0 xs).within "stats".toList).map entity).within Kind.entity.name := by
  cases told <;> rfl

/-- The problems that a definition was refused with. -/
def problemsOf (r : Except DefinitionError Definition) : List Problem :=
  match r with
  | .error (.problems ps) => ps
  | _ => []

theorem problemsOf_read (v : Value) : problemsOf (read v) = (check v).problems := by
  unfold read
  rcases check v with e | ps | d <;> rfl

/-- The problem with another number in the place of the stat, the third step of its path. -/
def atStat (index : Nat) (p : Problem) : Problem :=
  { p with path := p.path.set 2 (Number.writeNat index) }

theorem read_entityOf_eq_ok_iff {d : Definition} :
    read (entityOf told xs) = .ok d
      ↔ ∃ ss, d = .entity ss ∧ List.Forall₂ (fun x s => Stat.read x = .ok (.ok s)) xs ss := by
  rw [read_eq_ok_iff, check_entityOf, Checked.within_eq_value_iff, Checked.map_eq_value_iff]
  simp only [Checked.within_eq_value_iff, Stat.readAllFrom_eq_value_iff]
  exact exists_congr fun ss => by rw [and_comm, eq_comm]

theorem read_entityOf_eq_numeral_iff {e : NumeralError} :
    read (entityOf told xs) = .error (.numeral e) ↔ Stat.readAllFrom 0 xs = .error e := by
  rw [read_eq_numeral_iff, check_entityOf, Checked.within_eq_numeral_iff,
    Checked.map_eq_numeral_iff, Checked.within_eq_numeral_iff]

theorem problemsOf_read_entityOf (told : Bool) (xs : List Value) :
    problemsOf (read (entityOf told xs))
      = (Stat.readAllFrom 0 xs).problems.map fun p =>
        ((p.within "stats".toList).within Kind.entity.name) := by
  rw [problemsOf_read, check_entityOf, Checked.problems_within, Checked.problems_map,
    Checked.problems_within, List.map_map]
  rfl

/-- Two values that can take each other's place among the stats of any entity. -/
def Alike (x y : Value) : Prop :=
  ∀ told before after, read (entityOf told (before ++ x :: after))
    = read (entityOf told (before ++ y :: after))

theorem alike_of_read_eq {x y : Value} (h : Stat.read x = Stat.read y) : Alike x y := by
  intro told before after
  rw [read, check_entityOf, Stat.readAllFrom_congr h, ← check_entityOf, ← read]

/-! ## One stat alone -/

variable {x : Value}

theorem read_single_eq_ok_iff {d : Definition} :
    read (entityOf told [x]) = .ok d ↔ ∃ s, d = .entity [s] ∧ Stat.read x = .ok (.ok s) := by
  rw [read_entityOf_eq_ok_iff]
  constructor
  · rintro ⟨ss, rfl, hss⟩
    cases hss with
    | cons hx hnil =>
        cases hnil
        exact ⟨_, rfl, hx⟩
  · rintro ⟨s, rfl, hx⟩
    exact ⟨[s], rfl, .cons hx .nil⟩

theorem read_single_eq_entity_iff {s : Stat} :
    read (entityOf told [x]) = .ok (.entity [s]) ↔ Stat.read x = .ok (.ok s) := by
  rw [read_single_eq_ok_iff]
  constructor
  · rintro ⟨s', hs', hx⟩
    injection hs' with hs'
    injection hs' with hs'
    rwa [hs']
  · exact fun hx => ⟨s, rfl, hx⟩

theorem read_single_eq_numeral_iff {e : NumeralError} :
    read (entityOf told [x]) = .error (.numeral e) ↔ Stat.read x = .error e := by
  rw [read_entityOf_eq_numeral_iff, Stat.readAllFrom, Checked.both_eq_numeral_iff,
    Checked.within_eq_numeral_iff]
  simp [Stat.readAllFrom, Checked.value]

theorem problemsOf_read_single (told : Bool) (x : Value) :
    problemsOf (read (entityOf told [x]))
      = (Stat.read x).problems.map fun p =>
        (((p.within (Number.writeNat 0)).within "stats".toList).within Kind.entity.name) := by
  rw [problemsOf_read_entityOf, Stat.readAllFrom]
  rcases Stat.read x with e | ps | s
  · rfl
  · exact List.map_map ..
  · rfl

/-- A stat alone that is not cut short is accepted or refused. -/
theorem not_accepted_iff (h : ∀ e, Stat.read x ≠ .error e) :
    (¬∃ d, read (entityOf told [x]) = .ok d)
      ↔ ∃ qs, read (entityOf told [x]) = .error (.problems qs) := by
  have hnumeral (e : NumeralError) : read (entityOf told [x]) ≠ .error (.numeral e) :=
    fun he => h e (read_single_eq_numeral_iff.mp he)
  cases hread : read (entityOf told [x]) with
  | ok d => simp
  | error e =>
      cases e with
      | problems qs => simp
      | numeral e => exact absurd hread (hnumeral e)

/-! ## All of them -/

theorem accepted_entityOf_iff :
    (∃ d, read (entityOf told xs) = .ok d) ↔ ∀ x ∈ xs, ∃ s, Stat.read x = .ok (.ok s) := by
  have heach : (∃ ss, List.Forall₂ (fun x s => Stat.read x = .ok (.ok s)) xs ss)
      ↔ ∀ x ∈ xs, ∃ s, Stat.read x = .ok (.ok s) := by
    induction xs with
    | nil => simp
    | cons x xs ih =>
        rw [List.forall_mem_cons, ← ih]
        constructor
        · rintro ⟨_, hx | ⟨hx, hxs⟩⟩
          exact ⟨⟨_, hx⟩, _, hxs⟩
        · rintro ⟨⟨s, hx⟩, ss, hxs⟩
          exact ⟨s :: ss, .cons hx hxs⟩
  rw [← heach]
  simp only [read_entityOf_eq_ok_iff]
  exact ⟨fun ⟨_, ss, _, hss⟩ => ⟨ss, hss⟩, fun ⟨ss, hss⟩ => ⟨_, ss, rfl, hss⟩⟩

/-- **An entity is accepted exactly if each of its stats alone is.** -/
theorem accepted_iff : (∃ d, read (entityOf told xs) = .ok d)
    ↔ ∀ x ∈ xs, ∃ d, read (entityOf told [x]) = .ok d := by
  simp only [accepted_entityOf_iff, List.forall_mem_singleton]

/-- The reading is cut short exactly if that of a stat is. -/
theorem exists_numeral_iff : (∃ e, read (entityOf told xs) = .error (.numeral e))
    ↔ ∃ x ∈ xs, ∃ e, Stat.read x = .error e := by
  simp only [read_entityOf_eq_numeral_iff, Stat.readAllFrom_cutShort 0 xs _,
    Stat.read_cutShort _ _, List.mem_flatMap]
  constructor
  · rintro ⟨e, ⟨v, ⟨x, hx, hv⟩, hlong⟩, rfl⟩
    exact ⟨x, hx, _, ⟨v, hv, hlong⟩, rfl⟩
  · rintro ⟨x, hx, e, ⟨v, hv, hlong⟩, rfl⟩
    exact ⟨_, ⟨v, ⟨x, hx, hv⟩, hlong⟩, rfl⟩

/-- The problems are those of each stat alone, moved to its place. -/
theorem problemsOf_eq_flatMap (h : ∀ x ∈ xs, ∀ e, Stat.read x ≠ .error e) :
    problemsOf (read (entityOf told xs))
      = xs.zipIdx.flatMap fun x => (problemsOf (read (entityOf told [x.1]))).map (atStat x.2) := by
  rw [problemsOf_read_entityOf, Stat.problems_readAllFrom h, List.map_flatMap]
  refine congrArg₂ List.flatMap (funext fun x => ?_) rfl
  rw [problemsOf_read_single, List.map_map, List.map_map]
  rfl

theorem read_eq_problems_iff_each {ps : List Problem} :
    read (entityOf told xs) = .error (.problems ps)
      ↔ (∀ x ∈ xs, ∀ e, read (entityOf told [x]) ≠ .error (.numeral e))
        ∧ (∃ x ∈ xs, ∃ qs, read (entityOf told [x]) = .error (.problems qs))
        ∧ ps = xs.zipIdx.flatMap fun x =>
          (problemsOf (read (entityOf told [x.1]))).map (atStat x.2) := by
  simp only [ne_eq, read_single_eq_numeral_iff]
  constructor
  · intro h
    have hcut : ∀ x ∈ xs, ∀ e, Stat.read x ≠ .error e := by
      intro x hx e he
      obtain ⟨e', he'⟩ := exists_numeral_iff.mpr ⟨x, hx, e, he⟩
      exact absurd (h.symm.trans he') (by simp)
    have hnot : ¬∃ d, read (entityOf told xs) = .ok d := by simp [h]
    rw [accepted_iff] at hnot
    obtain ⟨x, hx, hrefused⟩ : ∃ x ∈ xs, ¬∃ d, read (entityOf told [x]) = .ok d := by
      simpa using hnot
    refine ⟨hcut, ⟨x, hx, (not_accepted_iff (hcut x hx)).mp hrefused⟩, ?_⟩
    rw [← problemsOf_eq_flatMap hcut, h]
    rfl
  · rintro ⟨hcut, ⟨x, hx, qs, hqs⟩, rfl⟩
    rw [← problemsOf_eq_flatMap hcut]
    cases hread : read (entityOf told xs) with
    | ok d =>
        obtain ⟨d', hd'⟩ := accepted_iff.mp ⟨d, hread⟩ x hx
        exact absurd (hqs.symm.trans hd') (by simp)
    | error e =>
        cases e with
        | problems ps => rfl
        | numeral e =>
            obtain ⟨y, hy, e', he'⟩ := exists_numeral_iff.mp ⟨e, hread⟩
            exact absurd he' (hcut y hy e')

/--
**Stats are read one by one.**

An entity is accepted exactly if each of its stats would be accepted alone, and then it has the
stats that these would be, in order. If no stat is cut short, an entity that is not accepted is
refused with the problems that each stat has alone, in order, with the number of its place in the
list as the third step of the path. A stat is cut short by a number that is too long for its label
or its formula, and the first such stat cuts the whole short. Whether the entity tells its type
does not matter, and a stat that does not tell its own is as good as one with the type that its
fields imply.
-/
theorem read_statByStat (told : Bool) (xs : List Value) :
    ((∃ d, read (entityOf told xs) = .ok d) ↔ ∀ x ∈ xs, ∃ d, read (entityOf told [x]) = .ok d)
      ∧ (∀ d, read (entityOf told xs) = .ok d
        ↔ ∃ ss, d = .entity ss
          ∧ List.Forall₂ (fun x s => read (entityOf told [x]) = .ok (.entity [s])) xs ss)
      ∧ (∀ ps, read (entityOf told xs) = .error (.problems ps)
        ↔ (∀ x ∈ xs, ∀ e, read (entityOf told [x]) ≠ .error (.numeral e))
          ∧ (∃ x ∈ xs, ∃ qs, read (entityOf told [x]) = .error (.problems qs))
          ∧ ps = xs.zipIdx.flatMap fun x =>
            (problemsOf (read (entityOf told [x.1]))).map (atStat x.2))
      ∧ (∀ x, ∀ p ∈ problemsOf (read (entityOf told [x])),
        [Kind.entity.name, "stats".toList, Number.writeNat 0] <+: p.path)
      ∧ (∀ e, read (entityOf told xs) = .error (.numeral e)
        ↔ ∃ before x after, xs = before ++ x :: after
          ∧ (∀ y ∈ before, ∀ e', read (entityOf told [y]) ≠ .error (.numeral e'))
          ∧ read (entityOf told [x]) = .error (.numeral e))
      ∧ (∀ x e, read (entityOf told [x]) = .error (.numeral e)
        ↔ (∃ v ∈ Stat.textFields x, v.IsOverlong) ∧ e = .tooLongToWrite)
      ∧ ∀ fields, hasField "type".toList fields = false →
        Alike (.map fields) (.map (Value.insertEntry (.text "type".toList)
          (.text (Stat.impliedKind fields).name) fields)) := by
  refine ⟨accepted_iff, fun d => ?_, fun ps => read_eq_problems_iff_each, fun x p hp => ?_,
    fun e => ?_, fun x e => ?_, fun fields h => ?_⟩
  · rw [read_entityOf_eq_ok_iff]
    simp only [read_single_eq_entity_iff]
  · rw [problemsOf_read_single] at hp
    obtain ⟨q, -, rfl⟩ := List.mem_map.mp hp
    exact ⟨q.path, rfl⟩
  · simp only [ne_eq, read_single_eq_numeral_iff]
    rw [read_entityOf_eq_numeral_iff, Stat.readAllFrom_eq_numeral_iff]
  · rw [read_single_eq_numeral_iff, Stat.read_cutShort x e]
  · exact alike_of_read_eq (Stat.read_typed h).symm

/-- A stat with the least number for a label that is too long for one. -/
def longLabel : Value := .map [(.text "label".toList, .int (10 ^ digitLimit : Nat))]

/-- **A number that is too long hides the problems of the other stats.** The first stat is refused
with a problem when it stands alone, and with the other stat behind it no problem comes out. -/
theorem read_hidesProblems :
    read (entityOf true [.map []])
        = .error (.problems
          [⟨["entity".toList, "stats".toList, "0".toList, "static".toList, "label".toList],
            .missing⟩])
      ∧ read (entityOf true [.map [], longLabel]) = .error (.numeral .tooLongToWrite) := by
  exact ⟨by decide +kernel, read_cutShort_iff.mpr
    ⟨⟨_, List.mem_singleton.mpr rfl, Value.isOverlong_power⟩, rfl⟩⟩

end Definition

end Gamebook
