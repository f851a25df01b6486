import Gamebook.Proofs.Yaml.Cursor
import Gamebook.Yaml.Resolve
import Gamebook.Yaml.Scalar

/-!
# Tame blocks

Three things in a block can end the reading of the whole document: a tag of the author's, an
escape that names a character by a number out of all bounds, and a floating number to base
sixty with very many parts. A block without them is tame.

Most exclamation marks are no tags, for a tag stands where a token can begin: at the start
of a line, or behind a blank, a bracket, a comma, a colon, a question mark or a closing
quote. A scan is followed from place to place (`Keeps`), so that it never comes to an
exclamation mark when it looks for the next token.
-/

namespace Gamebook.Yaml

open Cursor (Leads Passes)

/-- The number that figures to base sixteen denote. -/
def hexValue (digits : Text) : Nat := digits.foldl (fun n x => 16 * n + hexDigitValue x) 0

/-- Whether a token may begin right behind a character, or a byte order mark. -/
def endsToken (x : Char) : Bool :=
  Cursor.isBlankOrEnd x || isFlowIndicator x || [':', '?', '\'', '"', '\ufeff'].contains x

/-- A block with no tag of the author's, no escape that is too large to be looked at, and no
floating number to base sixty of so many parts that it is too large. -/
structure Tame (block : Text) : Prop where
  untagged : ∀ x, endsToken x = true → ¬[x, '!'] <:+: '\n' :: block
  escapes : ∀ digits : Text, digits.length = 8 → (∀ x ∈ digits, Text.isHexDigit x = true) →
    '\\' :: 'U' :: digits <:+: block → hexValue digits < 0x80000000
  sixtieths : ∀ t, t <:+: block → isFloatForm t = true → t.count ':' < 174

/-- A tame block in which nothing is taken for its end. -/
structure Legible (block : Text) : Prop extends Tame block where
  unended : Cursor.endMark ∉ block

/-- No tag begins at the place. -/
def Untagged (c : Cursor) : Prop := c.peek ≠ '!'

/-- A way to another place. If no tag begins at the first place, none begins at the second. -/
def Keeps (block : Text) (c c' : Cursor) : Prop :=
  Leads c c' ∧ (c.rest <:+ block → Untagged c → Untagged c')

variable {block : Text} {c c' c'' : Cursor}

theorem Keeps.refl (block : Text) (c : Cursor) : Keeps block c c := ⟨.refl c, fun _ h => h⟩

theorem Keeps.leads (h : Keeps block c c') : Leads c c' := h.1

theorem Keeps.trans (h : Keeps block c c') (h' : Keeps block c' c'') : Keeps block c c'' :=
  ⟨h.leads.trans h'.leads,
    fun hc hclear => h'.2 (List.IsSuffix.trans h.leads hc) (h.2 hc hclear)⟩

theorem Keeps.of_untagged (h : Leads c c') (h' : Untagged c') : Keeps block c c' :=
  ⟨h, fun _ _ => h'⟩

theorem keeps_ite {p : Prop} [Decidable p] (h : Keeps block c c') :
    Keeps block c (if p then c' else c) := by
  split
  · exact h
  · exact .refl block c

/-- The end of the block is no tag. -/
theorem untagged_of_nil (h : c.rest = []) : Untagged c := by
  rw [Untagged, Cursor.peek, h]
  decide

/-- A test that an exclamation mark fails. -/
theorem untagged_of_test {p : Char → Bool} (hp : p '!' = false) (h : p c.peek = true) :
    Untagged c := by
  intro hbang
  rw [hbang, hp] at h
  exact absurd h (by decide)

/-- Characters are skipped up to one that is none of them. -/
theorem untagged_skipWhile {p : Char → Bool} (hp : p '!' = true) (c : Cursor) :
    Untagged (c.skipWhile p) := by
  rw [Untagged, Cursor.peek, Cursor.skipWhile_rest]
  cases hrest : c.rest.dropWhile p with
  | nil => decide
  | cons x t =>
      rintro rfl
      have hhead := @List.head_dropWhile_not _ p c.rest (by rw [hrest]; simp)
      simp only [hrest, List.head_cons, hp] at hhead
      exact absurd hhead (by decide)

/-- Behind a character that a token may follow there is no tag. -/
theorem Tame.untagged_next (ht : Tame block) (hc : c.rest <:+ block) (hne : c.rest ≠ [])
    (hx : endsToken c.peek = true) : Untagged c.next := by
  intro hbang
  have hrest := Cursor.rest_of_peek hne
  have hnext : c.next.rest ≠ [] := Cursor.rest_ne_nil_of_peek (by rw [hbang]; decide)
  rw [Cursor.rest_of_peek hnext, hbang] at hrest
  have hpair : [c.peek, '!'] <:+: c.rest := ⟨[], c.next.next.rest, by rw [hrest]; rfl⟩
  exact ht.untagged _ hx (hpair.trans (hc.isInfix.trans (List.suffix_cons '\n' block).isInfix))

theorem Tame.keeps_next (ht : Tame block) (hx : endsToken c.peek = true) :
    Keeps block c c.next := by
  by_cases hne : c.rest = []
  · refine .of_untagged (Cursor.leads_next c) (untagged_of_nil ?_)
    rw [Cursor.next_rest, hne, List.tail_nil]
  · exact ⟨Cursor.leads_next c, fun hc _ => ht.untagged_next hc hne hx⟩

theorem Tame.keeps_skipWhile (ht : Tame block) {p : Char → Bool}
    (hp : ∀ x, p x = true → endsToken x = true) (c : Cursor) :
    Keeps block c (c.skipWhile p) := by
  show Keeps block c (c.forward (c.rest.takeWhile p).length)
  generalize hrest : c.rest = t
  induction t generalizing c with
  | nil => exact .refl block c
  | cons x t ih =>
      rw [List.takeWhile_cons]
      split
      · rename_i hx
        have hpeek : c.peek = x := by rw [Cursor.peek, hrest]; rfl
        exact (ht.keeps_next (hpeek ▸ hp x hx)).trans
          (ih c.next (by rw [Cursor.next_rest, hrest]; rfl))
      · exact .refl block c

theorem endsToken_of_isBreak {x : Char} (h : isBreak x = true) : endsToken x = true := by
  rw [endsToken, isBlankOrEnd_of_isBreak h]
  rfl

theorem Tame.keeps_lineBreak (ht : Tame block) {b : Text} (h : c.lineBreak = (b, c')) :
    Keeps block c c' := by
  unfold Cursor.lineBreak at h
  split at h
  · rename_i hrest
    injection h with h1 h2
    subst h2
    have hfirst : c.peek = '\r' := by rw [Cursor.peek, hrest]; rfl
    have hsecond : c.next.peek = '\n' := by rw [Cursor.peek, Cursor.next_rest, hrest]; rfl
    exact (ht.keeps_next (by rw [hfirst]; decide)).trans
      (ht.keeps_next (by rw [hsecond]; decide))
  · rename_i x _ _ hrest
    have hpeek : c.peek = x := by rw [Cursor.peek, hrest]; rfl
    split at h
    · rename_i hx
      injection h with h1 h2
      subst h2
      refine ht.keeps_next ?_
      rw [hpeek]
      exact endsToken_of_isBreak (by simp only [isBreak]; grind)
    · split at h
      · rename_i hx
        injection h with h1 h2
        subst h2
        exact ht.keeps_next (hpeek ▸ endsToken_of_isBreak hx)
      · injection h with h1 h2
        subst h2
        exact .refl block c
  · injection h with h1 h2
    subst h2
    exact .refl block c

end Gamebook.Yaml
