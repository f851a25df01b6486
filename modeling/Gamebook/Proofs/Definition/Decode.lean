import Gamebook.Definition.Decode
import Gamebook.Proofs.Definition.Overlong
import Gamebook.Proofs.Entries
import Gamebook.Proofs.Fallible
import Mathlib.Data.List.Basic
import Mathlib.Data.List.Pairwise

/-!
# Every entry of a block is accounted for

Each entry of a definitions block ends as a definition or as the problems it has, under the term
that its key stands for. A later entry of a term takes the place of an earlier one of the same
outcome, and no entry has to do with one of the other outcome (`Decoded.Accounts`). The one
exception is a number that is too long for a text: it is not a problem of its entry but ends the
decoding of the whole block (`Glossary.decode_accounts`, `Decoded.lost_gem`).
-/

namespace Gamebook

open Value (Entries)

namespace Decoded

/-! ## The outcome of an entry -/

/-- The term and the definition of an entry that is accepted. -/
def accepted? (e : Value × Value) : Option (Text × Definition) :=
  match termOf e.1, Definition.read e.2 with
  | .ok term, .ok definition => some (term, definition)
  | _, _ => none

/-- The term and the problems of an entry that is left out. -/
def refused? (e : Value × Value) : Option (Text × List Problem) :=
  match termOf e.1, Definition.read e.2 with
  | .ok term, .error (.problems ps) => some (term, ps)
  | _, _ => none

/-- An entry that can be decoded: its key can be spelled, and no number is too long for a text. -/
def IsDecodable (e : Value × Value) : Prop :=
  (∃ term, termOf e.1 = .ok term) ∧ ∀ v ∈ Definition.textFields e.2, ¬v.IsOverlong

variable {d d' : Decoded} {e : Value × Value} {entries : Entries} {term : Text}

theorem accepted?_eq_some_iff {x : Definition} :
    accepted? e = some (term, x) ↔ termOf e.1 = .ok term ∧ Definition.read e.2 = .ok x := by
  unfold accepted?
  split
  · rename_i t y hterm hread
    simp [hterm, hread]
  · rename_i hnone
    simp only [reduceCtorEq, false_iff, not_and]
    exact fun hterm hread => hnone _ _ hterm hread

theorem refused?_eq_some_iff {ps : List Problem} :
    refused? e = some (term, ps)
      ↔ termOf e.1 = .ok term ∧ Definition.read e.2 = .error (.problems ps) := by
  unfold refused?
  split
  · rename_i t qs hterm hread
    simp [hterm, hread]
  · rename_i hnone
    simp only [reduceCtorEq, false_iff, not_and]
    exact fun hterm hread => hnone _ _ hterm hread

theorem isDecodable_iff : IsDecodable e
    ↔ (∃ term, termOf e.1 = .ok term) ∧ ∀ err, Definition.read e.2 ≠ .error (.numeral err) := by
  simp only [IsDecodable, ne_eq, Definition.read_cutShort_iff]
  refine and_congr_right fun _ => ⟨fun hshort err h => ?_, fun h v hv hlong => ?_⟩
  · obtain ⟨⟨v, hv, hlong⟩, -⟩ := h
    exact hshort v hv hlong
  · exact h _ ⟨⟨v, hv, hlong⟩, rfl⟩

/-- An entry that can be decoded is accepted or refused. -/
theorem IsDecodable.read_cases (h : IsDecodable e) :
    (∃ x, Definition.read e.2 = .ok x)
      ∨ ∃ ps, Definition.read e.2 = .error (.problems ps) := by
  obtain ⟨-, hread⟩ := isDecodable_iff.mp h
  cases hcase : Definition.read e.2 with
  | ok x => exact .inl ⟨x, rfl⟩
  | error err =>
      cases err with
      | problems ps => exact .inr ⟨ps, rfl⟩
      | numeral err => exact absurd hcase (hread err)

/-! ## All of them -/

/-- One more entry: what it is goes under its term, and the rest stays. -/
theorem addEntry_eq_ok_iff :
    d.addEntry e.1 e.2 = .ok d' ↔ IsDecodable e
      ∧ d' = ⟨putAll d.glossary (accepted? e).toList,
        putAll d.entryErrors (refused? e).toList⟩ := by
  rw [isDecodable_iff]
  unfold addEntry accepted? refused?
  cases hterm : termOf e.1 with
  | error err => simp
  | ok term =>
      cases hread : Definition.read e.2 with
      | ok x => simp [putAll, eq_comm]
      | error err => cases err <;> simp [putAll, eq_comm]

/-- **What entries leave behind**: the definitions of those that are accepted, and the problems of
those that are left out, each put under its term. -/
theorem addEntries_eq_ok_iff :
    d.addEntries entries = .ok d' ↔ (∀ e ∈ entries, IsDecodable e)
      ∧ d' = ⟨putAll d.glossary (entries.filterMap accepted?),
        putAll d.entryErrors (entries.filterMap refused?)⟩ := by
  induction entries generalizing d with
  | nil => simp [addEntries, putAll, eq_comm]
  | cons e entries ih =>
      obtain ⟨key, raw⟩ := e
      have hstep : d.addEntries ((key, raw) :: entries) = .ok d'
          ↔ ∃ between, d.addEntry key raw = .ok between ∧ between.addEntries entries = .ok d' := by
        rw [addEntries]
        cases d.addEntry key raw <;> simp
      simp only [hstep, addEntry_eq_ok_iff (e := (key, raw)), ih, List.forall_mem_cons,
        putAll_filterMap_cons]
      constructor
      · rintro ⟨_, ⟨hfirst, rfl⟩, hrest, rfl⟩
        exact ⟨⟨hfirst, hrest⟩, rfl⟩
      · rintro ⟨⟨hfirst, hrest⟩, rfl⟩
        exact ⟨_, ⟨hfirst, rfl⟩, hrest, rfl⟩

/-- The entries of a block are all decodable, and then each is accounted for. -/
theorem ofValue_map_eq_ok_iff {v : Value} (hmap : v.head = .map entries) :
    ofValue v = .ok d ↔ (∀ e ∈ entries, IsDecodable e)
      ∧ d = ⟨putAll [] (entries.filterMap accepted?), putAll [] (entries.filterMap refused?)⟩ := by
  rw [ofValue, hmap]
  exact addEntries_eq_ok_iff

/-! ## What stands under a term -/

/-- The last entry of a term with an outcome of some kind. -/
def IsLastOf (term : Text) (kind : Except DefinitionError Definition → Prop) (entries : Entries)
    (e : Value × Value) : Prop :=
  IsLast (fun e => termOf e.1 = .ok term ∧ kind (Definition.read e.2)) entries e

/--
What a block of some entries is decoded to.

A term stands for its last accepted entry among the definitions and for its last refused one among
the problems. Each of the two is in the order in which the terms came up in it first.
-/
structure Accounts (entries : Entries) (d : Decoded) : Prop where
  definition : ∀ term x, entryOf? term d.glossary = some x
    ↔ ∃ e, IsLastOf term (fun r => ∃ y, r = .ok y) entries e ∧ Definition.read e.2 = .ok x
  problems : ∀ term ps, entryOf? term d.entryErrors = some ps
    ↔ ∃ e, IsLastOf term (fun r => ∃ qs, r = .error (.problems qs)) entries e
      ∧ Definition.read e.2 = .error (.problems ps)
  /-- No entry is lost, and nothing is made up. -/
  terms : ∀ term, term ∈ d.glossary.map Prod.fst ∨ term ∈ d.entryErrors.map Prod.fst
    ↔ ∃ e ∈ entries, termOf e.1 = .ok term
  glossary_order : d.glossary.map Prod.fst
    = ((entries.filterMap accepted?).map Prod.fst).eraseDups
  error_order : d.entryErrors.map Prod.fst
    = ((entries.filterMap refused?).map Prod.fst).eraseDups
  /-- The refused entries have no part in the definitions. -/
  without_refused : ∀ v, v.head = .map (entries.filter fun e => (Definition.read e.2).isOk) →
    ofValue v = .ok ⟨d.glossary, []⟩
  /-- Entries of different terms fall into two parts. -/
  of_distinct : entries.Pairwise (fun e e' => termOf e.1 ≠ termOf e'.1) →
    (∀ term ∈ d.glossary.map Prod.fst, term ∉ d.entryErrors.map Prod.fst)
      ∧ d.glossary.length + d.entryErrors.length = entries.length

section Outcome

variable {α : Type} {f : Value × Value → Option (Text × α)} {x : α}
  {outcome : α → Except DefinitionError Definition}

/-- The entries of one outcome are kept under their terms. -/
def KeepsBy (f : Value × Value → Option (Text × α))
    (outcome : α → Except DefinitionError Definition) : Prop :=
  ∀ e term x, f e = some (term, x) ↔ termOf e.1 = .ok term ∧ Definition.read e.2 = outcome x

theorem keepsBy_accepted? : KeepsBy accepted? .ok := fun _ _ _ => accepted?_eq_some_iff

theorem keepsBy_refused? : KeepsBy refused? fun ps => .error (.problems ps) :=
  fun _ _ _ => refused?_eq_some_iff

theorem KeepsBy.entryOf?_iff (h : KeepsBy f outcome) :
    entryOf? term (putAll [] (entries.filterMap f)) = some x
      ↔ ∃ e, IsLastOf term (fun r => ∃ y, r = outcome y) entries e
        ∧ Definition.read e.2 = outcome x := by
  have hlast : (fun e => ∃ y, f e = some (term, y))
      = fun e => termOf e.1 = .ok term ∧ ∃ y, Definition.read e.2 = outcome y :=
    funext fun e => by simp only [h e, exists_and_left]
  rw [entryOf?_collect, hlast]
  refine exists_congr fun e => and_congr_right fun he => ?_
  obtain ⟨before, after, -, ⟨hterm, -⟩, -⟩ := he
  rw [h e]
  exact and_iff_right hterm

theorem KeepsBy.mem_iff (h : KeepsBy f outcome) :
    term ∈ (putAll [] (entries.filterMap f)).map Prod.fst
      ↔ ∃ e ∈ entries, termOf e.1 = .ok term ∧ ∃ x, Definition.read e.2 = outcome x := by
  rw [keys_collect, List.mem_eraseDups, List.mem_map]
  constructor
  · rintro ⟨⟨_, x⟩, hmem, rfl⟩
    obtain ⟨e, he, hsome⟩ := List.mem_filterMap.mp hmem
    obtain ⟨hterm, hread⟩ := (h ..).mp hsome
    exact ⟨e, he, hterm, x, hread⟩
  · rintro ⟨e, he, hterm, x, hread⟩
    exact ⟨(term, x), List.mem_filterMap.mpr ⟨e, he, (h ..).mpr ⟨hterm, hread⟩⟩, rfl⟩

/-- Entries of different terms are kept as they come. -/
theorem KeepsBy.collect_eq (h : KeepsBy f outcome)
    (hdistinct : entries.Pairwise fun e e' => termOf e.1 ≠ termOf e'.1) :
    putAll [] (entries.filterMap f) = entries.filterMap f := by
  refine collect_of_nodup ?_
  rw [List.Nodup, List.pairwise_map, List.pairwise_filterMap]
  refine hdistinct.imp fun {e e'} hne p hp p' hp' heq => hne ?_
  rw [((h ..).mp hp).1, ((h ..).mp hp').1, heq]

end Outcome

/-- Without the refused entries, the same are accepted and none is refused. -/
theorem accepted_without_refused (entries : Entries) :
    (entries.filter fun e => (Definition.read e.2).isOk).filterMap accepted?
        = entries.filterMap accepted?
      ∧ (entries.filter fun e => (Definition.read e.2).isOk).filterMap refused? = [] := by
  rw [List.filterMap_filter, List.filterMap_filter]
  constructor
  · refine List.filterMap_congr fun e _ => ?_
    unfold accepted?
    cases Definition.read e.2 <;> simp [Except.isOk, Except.toBool]
  · refine List.filterMap_eq_nil_iff.mpr fun e _ => ?_
    unfold refused?
    cases Definition.read e.2 <;> simp [Except.isOk, Except.toBool]

/-- Every decodable entry is counted once. -/
theorem length_accepted_refused (h : ∀ e ∈ entries, IsDecodable e) :
    (entries.filterMap accepted?).length + (entries.filterMap refused?).length
      = entries.length := by
  induction entries with
  | nil => rfl
  | cons e entries ih =>
      obtain ⟨he, hentries⟩ := List.forall_mem_cons.mp h
      obtain ⟨term, hterm⟩ := he.1
      have hcount := ih hentries
      rcases he.read_cases with ⟨x, hread⟩ | ⟨ps, hread⟩
      · simp only [List.filterMap_cons, accepted?, refused?, hterm, hread, List.length_cons]
        omega
      · simp only [List.filterMap_cons, accepted?, refused?, hterm, hread, List.length_cons]
        omega

theorem accounts_of_ofValue {v : Value} (hmap : v.head = .map entries)
    (hdecoded : ofValue v = .ok d) : d.Accounts entries := by
  obtain ⟨hdecodable, rfl⟩ := (ofValue_map_eq_ok_iff hmap).mp hdecoded
  refine ⟨fun _ _ => keepsBy_accepted?.entryOf?_iff, fun _ _ => keepsBy_refused?.entryOf?_iff,
    fun term => ?_, keys_collect _, keys_collect _, fun w hw => ?_, fun hdistinct => ⟨?_, ?_⟩⟩
  · rw [keepsBy_accepted?.mem_iff, keepsBy_refused?.mem_iff]
    constructor
    · rintro (⟨e, he, hterm, -⟩ | ⟨e, he, hterm, -⟩)
      · exact ⟨e, he, hterm⟩
      · exact ⟨e, he, hterm⟩
    · rintro ⟨e, he, hterm⟩
      rcases (hdecodable e he).read_cases with ⟨x, hread⟩ | ⟨ps, hread⟩
      · exact .inl ⟨e, he, hterm, x, hread⟩
      · exact .inr ⟨e, he, hterm, ps, hread⟩
  · obtain ⟨haccepted, hrefused⟩ := accepted_without_refused entries
    -- what is left is decodable, and puts the same definitions in the same order
    refine (ofValue_map_eq_ok_iff hw).mpr ⟨fun e he => hdecodable e (List.mem_filter.mp he).1, ?_⟩
    rw [haccepted, hrefused]
    rfl
  · intro term haccepted hrefused
    obtain ⟨e, he, hterm, x, hread⟩ := keepsBy_accepted?.mem_iff.mp haccepted
    obtain ⟨e', he', hterm', ps, hread'⟩ := keepsBy_refused?.mem_iff.mp hrefused
    -- a term of both kinds would come from one entry, which has one outcome
    have hsymm : Std.Symm fun e e' : Value × Value => termOf e.1 ≠ termOf e'.1 :=
      ⟨fun _ _ => Ne.symm⟩
    have hsame : e = e' := by
      by_contra hne
      exact hdistinct.forall he he' hne (hterm.trans hterm'.symm)
    subst hsame
    exact absurd (hread.symm.trans hread') (by simp)
  · rw [keepsBy_accepted?.collect_eq hdistinct, keepsBy_refused?.collect_eq hdistinct]
    exact length_accepted_refused hdecodable

/-- A mapping that is not decoded has an entry with a number that is too long. -/
theorem addEntries_eq_error {err : DecodeError} (h : d.addEntries entries = .error err) :
    ∃ e, err = .numeral e := by
  induction entries generalizing d with
  | nil => exact absurd h (by simp [addEntries])
  | cons e entries ih =>
      obtain ⟨key, raw⟩ := e
      rw [addEntries] at h
      cases hadd : d.addEntry key raw with
      | ok between =>
          rw [hadd] at h
          exact ih h
      | error err' =>
          rw [hadd] at h
          obtain rfl := Except.error.inj h
          unfold addEntry at hadd
          split at hadd
          · exact ⟨_, (Except.error.inj hadd).symm⟩
          · split at hadd
            · exact absurd hadd (by simp)
            · exact absurd hadd (by simp)
            · exact ⟨_, (Except.error.inj hadd).symm⟩

end Decoded

namespace Glossary

/--
**Every entry of a block is accounted for.**

A block that holds a mapping is decoded exactly if each of its entries can be, and then what comes
out accounts for all of them. Otherwise a number that is too long for a text ends the decoding.
-/
theorem decode_accounts {block : Text} {v : Value} {entries : Entries}
    (hload : Yaml.load block = .ok v) (hmap : v.head = .map entries) :
    ((∃ d, decode block = .ok d) ↔ ∀ e ∈ entries, Decoded.IsDecodable e)
      ∧ (∀ d, decode block = .ok d → d.Accounts entries)
      ∧ ∀ err, decode block = .error err → ∃ e, err = .numeral e := by
  have hdecode : decode block = Decoded.ofValue v := by rw [decode, hload]
  rw [hdecode]
  refine ⟨?_, fun d => Decoded.accounts_of_ofValue hmap, fun err herr => ?_⟩
  · simp only [Decoded.ofValue_map_eq_ok_iff hmap, exists_and_left, exists_eq, and_true]
  · rw [Decoded.ofValue, hmap] at herr
    exact Decoded.addEntries_eq_error herr

/-- Three entries under one term, and one that has no name of its own. -/
def paddedTerms : Text := "1: gold\n' 1':\n  type: x\n~: lost\n'1 ':\n  desc: 5\n".toList

theorem decode_accounts_paddedTerms :
    ∃ v entries d, Yaml.load paddedTerms = .ok v ∧ v.head = .map entries
      ∧ decode paddedTerms = .ok d ∧ d.Accounts entries
      ∧ d.glossary = [("1".toList, .lore "5".toList none),
        ("None".toList, .lore "lost".toList none)]
      ∧ d.entryErrors = [("1".toList,
        [⟨[], .unknownKind "x".toList ["entity".toList, "lore".toList]⟩])] := by
  obtain ⟨v, entries, hload, hmap⟩ :
      ∃ v entries, Yaml.load paddedTerms = .ok v ∧ v.head = .map entries := by
    have hmapping : (Yaml.load paddedTerms).toOption.any (Value.isMap ∘ Value.head) = true := by
      decide +kernel
    obtain ⟨v, hload, hhead⟩ := (Option.any_eq_true ..).mp hmapping
    cases hmap : v.head with
    | map entries => exact ⟨v, entries, Fallible.toOption_eq_some_iff.mp hload, hmap⟩
    | _ => exact absurd hhead (by simp [hmap, Value.isMap])
  obtain ⟨-, haccounts, -⟩ := decode_accounts hload hmap
  have hparts : ((decode paddedTerms).toOption.map fun d => (d.glossary, d.entryErrors))
      = some ([("1".toList, .lore "5".toList none), ("None".toList, .lore "lost".toList none)],
        [("1".toList, [⟨[], .unknownKind "x".toList ["entity".toList, "lore".toList]⟩])]) := by
    decide +kernel
  obtain ⟨d, hdecode, hd⟩ := Option.map_eq_some_iff.mp hparts
  have hok : decode paddedTerms = .ok d := Fallible.toOption_eq_some_iff.mp hdecode
  exact ⟨v, entries, d, hload, hmap, hok, haccounts d hok, (Prod.mk.inj hd).1, (Prod.mk.inj hd).2⟩

end Glossary

namespace Decoded

/-- An accepted entry, and one whose number has too many digits for a text. -/
def orcAndGem : Entries :=
  [(.text "Orc".toList, .text "green".toList),
    (.text "Gem".toList, .map [(.text "desc".toList, .int (10 ^ digitLimit : Nat))])]

/-- **A number that is too long is not a problem of its entry**: it takes the definitions of all
the others with it. -/
theorem lost_gem :
    (∀ e ∈ orcAndGem, ∃ term, termOf e.1 = .ok term)
      ∧ Definition.read (.text "green".toList) = .ok (.lore "green".toList none)
      ∧ ofValue (.map orcAndGem) = .error (.numeral .tooLongToWrite) := by
  have hread : Definition.read (.map [(.text "desc".toList, .int (10 ^ digitLimit : Nat))])
      = .error (.numeral .tooLongToWrite) :=
    Definition.read_cutShort_iff.mpr ⟨⟨_, List.mem_singleton.mpr rfl, Value.isOverlong_power⟩, rfl⟩
  have horc : termOf (.text "Orc".toList) = .ok "Orc".toList := rfl
  have hgem : termOf (.text "Gem".toList) = .ok "Gem".toList := rfl
  have hgreen : Definition.read (.text "green".toList) = .ok (.lore "green".toList none) := rfl
  refine ⟨?_, hgreen, ?_⟩
  · simp only [orcAndGem, List.forall_mem_cons, List.not_mem_nil, false_imp_iff, implies_true,
      and_true]
    exact ⟨⟨_, horc⟩, ⟨_, hgem⟩⟩
  · show empty.addEntries orcAndGem = _
    simp only [orcAndGem, addEntries, addEntry, horc, hgreen, hgem, hread]

end Decoded

end Gamebook
