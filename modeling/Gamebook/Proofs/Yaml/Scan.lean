import Gamebook.Proofs.Yaml.Reader
import Gamebook.Yaml.Scan

/-!
# The scan of a tame block

Every step of a scan makes tokens that the block can have. Unless it is the last one it
moves the cursor on, to a place where no tag begins. So a scan of a block ends: with the
token for the end of the block, or with a fault at its place (`ofText_spec`).
-/

namespace Gamebook.Yaml

open Cursor (Leads Passes)

/-- The last token is the one for the end of a block. -/
def EndsStream (ts : List Token) : Prop := ∃ t ∈ ts.getLast?, t.kind = .streamEnd

namespace ScanState

/-- A scan that goes on at a place, with tokens that the block can have. -/
structure Scanning (block : Text) (c : Cursor) (s : ScanState) : Prop where
  cursor : s.cursor = c
  tokens : ∀ t ∈ s.tokens, TameToken block t.kind
  going : s.done = false

/-- A scan that goes on behind a place, where no tag begins. -/
def Advances (block : Text) (c : Cursor) (s : ScanState) : Prop :=
  ∃ c', Passes c c' ∧ Untagged c' ∧ Scanning block c' s

/-- A scan that has come to its end. -/
structure Ended (block : Text) (s : ScanState) : Prop where
  tokens : ∀ t ∈ s.tokens, TameToken block t.kind
  done : s.done = true
  ends : EndsStream s.tokens.toList

variable {block : Text} {c : Cursor} {s : ScanState}

/-! ## Tokens -/

theorem Scanning.push (h : Scanning block c s) {k : TokenKind} (hk : TameToken block k)
    (start stop : Mark) : Scanning block c (s.push k start stop) := by
  refine ⟨h.cursor, ?_, h.going⟩
  intro t ht
  rcases Array.mem_push.mp ht with ht | rfl
  · exact h.tokens t ht
  · exact hk

theorem Scanning.pushEmpty (h : Scanning block c s) {k : TokenKind}
    (hk : TameToken block k) : Scanning block c (s.pushEmpty k) :=
  h.push hk s.cursor.mark s.cursor.mark

theorem Scanning.pushMark (h : Scanning block c s) {k : TokenKind} (hk : TameToken block k)
    {width : Nat} (hw : width ≠ 0) (hne : c.rest ≠ []) (hclear : Untagged (c.forward width)) :
    Advances block c (s.pushMark k width) := by
  refine ⟨c.forward width, Cursor.passes_forward hw hne, hclear, ?_⟩
  obtain ⟨-, htokens, hgoing⟩ := h.push hk s.cursor.mark (s.cursor.forward width).mark
  exact ⟨by rw [ScanState.pushMark, h.cursor], htokens, hgoing⟩

theorem Scanning.pushRead (h : Scanning block c s) {read : Cursor → Reading (Token × Cursor)}
    (hread : ReadsToken block c (read c)) : Yields (Advances block c) (s.pushRead read) := by
  unfold ScanState.pushRead
  rw [h.cursor]
  refine hread.bind ?_
  rintro ⟨t, c'⟩ ⟨htame, hpass, hclear⟩
  refine ⟨c', hpass, hclear, rfl, ?_, h.going⟩
  intro u hu
  rcases Array.mem_push.mp hu with hu | rfl
  · exact h.tokens u hu
  · exact htame

theorem Scanning.insertToken (h : Scanning block c s) {k : TokenKind} (hk : TameToken block k)
    (position : Nat) (mark : Mark) : Scanning block c (s.insertToken position k mark) := by
  refine ⟨h.cursor, ?_, h.going⟩
  intro t ht
  unfold ScanState.insertToken Array.insertIdxIfInBounds at ht
  dsimp only at ht
  split at ht
  · rcases Array.mem_insertIdx.mp ht with rfl | ht
    · exact hk
    · exact h.tokens t ht
  · exact h.tokens t ht

/-! ## Keys and indentation -/

theorem Scanning.dropStaleKeys (h : Scanning block c s) :
    Yields (Scanning block c) s.dropStaleKeys := by
  unfold ScanState.dropStaleKeys
  dsimp only
  split
  · exact .placed _
  · exact ⟨h.cursor, h.tokens, h.going⟩

theorem Scanning.dropKey (h : Scanning block c s) :
    Yields (fun s' => Scanning block c s' ∧ s'.level = s.level) s.dropKey := by
  unfold ScanState.dropKey
  split
  · exact ⟨h, rfl⟩
  · split
    · exact .placed _
    · exact ⟨⟨h.cursor, h.tokens, h.going⟩, rfl⟩

theorem Scanning.saveKey (h : Scanning block c s) :
    Yields (fun s' => Scanning block c s' ∧ s'.level = s.level) s.saveKey := by
  unfold ScanState.saveKey
  split
  · refine h.dropKey.bind ?_
    rintro s' ⟨h', hlevel⟩
    exact ⟨⟨h'.cursor, h'.tokens, h'.going⟩, hlevel⟩
  · exact ⟨h, rfl⟩

theorem Scanning.unwind (h : Scanning block c s) (column : Int) (outer : List Int) :
    Scanning block c (s.unwind column outer) := by
  induction outer generalizing s with
  | nil => exact h
  | cons o outer ih =>
      unfold ScanState.unwind
      split
      · refine ih ?_
        have hend : Scanning block c (s.pushEmpty .blockEnd) := h.pushEmpty trivial
        exact ⟨hend.cursor, hend.tokens, hend.going⟩
      · exact h

theorem Scanning.openAt (h : Scanning block c s) {column : Int} {s' : ScanState}
    (hopen : s.openAt column = some s') : Scanning block c s' := by
  unfold ScanState.openAt at hopen
  split at hopen
  · injection hopen with hopen
    subst hopen
    exact ⟨h.cursor, h.tokens, h.going⟩
  · exact absurd hopen (by simp)

theorem Scanning.openBlock (h : Scanning block c s) {k : TokenKind}
    (hk : TameToken block k) (problem : Text) :
    Yields (Scanning block c) (s.openBlock k problem) := by
  unfold ScanState.openBlock
  split
  · split
    · exact .placed _
    · split
      · rename_i s' hopen
        exact (h.openAt hopen).pushEmpty hk
      · exact h
  · exact h

theorem Scanning.skipToToken (h : Scanning block c s) (ht : Tame block) (fuel : Nat) :
    ∃ c', Keeps block c c' ∧ Scanning block c' (s.skipToToken fuel) := by
  induction fuel generalizing c s with
  | zero => exact ⟨c, .refl block c, h⟩
  | succ fuel ih =>
      unfold ScanState.skipToToken
      rw [h.cursor]
      extract_lets c₁ c₂
      have hc₁ : Keeps block c c₁ := ht.keeps_skipWhile (p := (· == ' ')) (by simp; decide) c
      -- a comment goes on to the end of its line, whatever stands in it
      have hcomment : Keeps block c₁ (c₁.skipWhile fun x => !isBreak x) :=
        .of_untagged (Cursor.leads_skipWhile _ c₁) (untagged_skipWhile (by decide) c₁)
      have hc₂ : Keeps block c c₂ := hc₁.trans (keeps_ite hcomment)
      split
      · exact ⟨c₂, hc₂, rfl, h.tokens, h.going⟩
      · rename_i b c₃ _ hbreak
        obtain ⟨c', hc', hscan⟩ := @ih c₃
          { s with cursor := c₃, keyAllowed := s.keyAllowed || s.inBlock } ⟨rfl, h.tokens, h.going⟩
        exact ⟨c', hc₂.trans ((ht.keeps_lineBreak hbreak).trans hc'), hscan⟩

theorem Scanning.skipBlanks (h : Scanning block c s) (ht : Tame block) :
    ∃ c', Keeps block c c' ∧ Scanning block c' s.skipBlanks := by
  unfold ScanState.skipBlanks
  rw [h.cursor]
  extract_lets c₀ c₁
  have hc₁ : Keeps block c c₁ := by
    show Keeps block c (if c.mark.index == 0 && c.peek == '\ufeff' then c.next else c)
    split
    · rename_i hmark
      refine ht.keeps_next ?_
      rw [eq_of_beq (Bool.and_eq_true_iff.mp hmark).2]
      decide
    · exact .refl block c
  obtain ⟨c', hc', hscan⟩ := @Scanning.skipToToken block c₁ { s with cursor := c₁ }
    ⟨rfl, h.tokens, h.going⟩ ht (c₁.rest.length + 1)
  exact ⟨c', hc₁.trans hc', hscan⟩

/-! ## One token -/

theorem Scanning.fetchStreamEnd (h : Scanning block c s) :
    Yields (Ended block) s.fetchStreamEnd := by
  unfold ScanState.fetchStreamEnd
  refine (h.unwind (-1) s.outerIndents).dropKey.bind ?_
  rintro s' ⟨h', -⟩
  refine ⟨(h'.pushEmpty (k := .streamEnd) trivial).tokens, rfl, ?_⟩
  refine ⟨⟨.streamEnd, s'.cursor.mark, s'.cursor.mark⟩, ?_, rfl⟩
  show _ ∈ (s'.tokens.push _).toList.getLast?
  rw [Array.toList_push, List.getLast?_concat]
  rfl

theorem Scanning.fetchDirective (h : Scanning block c s) (ht : Tame block)
    (hc : c.rest <:+ block) (hne : c.rest ≠ []) : Yields (Advances block c) s.fetchDirective := by
  unfold ScanState.fetchDirective
  refine (h.unwind (-1) s.outerIndents).dropKey.bind ?_
  rintro s' ⟨h', -⟩
  refine Scanning.pushRead ?_ (directive_reads ht hc hne)
  exact ⟨h'.cursor, h'.tokens, h'.going⟩

/-- A token of fixed text. Before it the possible keys are looked after, which gives `keys`, and
`change` gives the state another depth or lets keys begin behind the token or not. -/
theorem pushMark_after {keys : Reading ScanState} {change : ScanState → ScanState}
    {p : ScanState → Prop} {k : TokenKind} (width : Nat)
    (hkeys : Yields (fun s' => Scanning block c s' ∧ p s') keys)
    (hchange : ∀ s', Scanning block c s' → Scanning block c (change s'))
    (hk : TameToken block k) (hw : width ≠ 0) (hne : c.rest ≠ [])
    (hclear : Untagged (c.forward width)) :
    Yields (Advances block c) (keys >>= fun s => pure ((change s).pushMark k width)) := by
  refine hkeys.bind ?_
  rintro s' ⟨h', -⟩
  exact (hchange s' h').pushMark hk hw hne hclear

theorem Scanning.fetchDocumentMark (h : Scanning block c s) (hne : c.rest ≠ [])
    (hclear : Untagged (c.forward 3)) {k : TokenKind} (hk : TameToken block k) :
    Yields (Advances block c) (s.fetchDocumentMark k) := by
  refine pushMark_after 3 (h.unwind (-1) s.outerIndents).dropKey ?_ hk (by decide) hne hclear
  exact fun _ h' => ⟨h'.cursor, h'.tokens, h'.going⟩

theorem Scanning.fetchFlowStart (h : Scanning block c s) (hne : c.rest ≠ [])
    (hclear : Untagged c.next) {k : TokenKind} (hk : TameToken block k) :
    Yields (Advances block c) (s.fetchFlowStart k) := by
  refine pushMark_after 1 h.saveKey ?_ hk (by decide) hne hclear
  exact fun _ h' => ⟨h'.cursor, h'.tokens, h'.going⟩

theorem Scanning.fetchFlowEnd (h : Scanning block c s) (hne : c.rest ≠ [])
    (hclear : Untagged c.next) {k : TokenKind} (hk : TameToken block k) :
    Yields (Advances block c) (s.fetchFlowEnd k) := by
  refine pushMark_after 1 h.dropKey ?_ hk (by decide) hne hclear
  exact fun _ h' => ⟨h'.cursor, h'.tokens, h'.going⟩

/-- The last two steps of every mark that ends a possible key. -/
theorem Scanning.dropKey_pushMark (h : Scanning block c s) (hne : c.rest ≠ [])
    (hclear : Untagged c.next) {k : TokenKind} (hk : TameToken block k) :
    Yields (Advances block c) (s.dropKey >>= fun s => pure (s.pushMark k 1)) :=
  pushMark_after 1 h.dropKey (fun _ h' => h') hk (by decide) hne hclear

theorem Scanning.fetchFlowEntry (h : Scanning block c s) (hne : c.rest ≠ [])
    (hclear : Untagged c.next) :
    Yields (Advances block c) s.fetchFlowEntry := by
  refine Scanning.dropKey_pushMark (k := .flowEntry) ?_ hne hclear trivial
  exact ⟨h.cursor, h.tokens, h.going⟩

theorem Scanning.fetchBlockEntry (h : Scanning block c s) (hne : c.rest ≠ [])
    (hclear : Untagged c.next) :
    Yields (Advances block c) s.fetchBlockEntry := by
  unfold ScanState.fetchBlockEntry
  refine (h.openBlock (k := .blockSequenceStart) trivial _).bind ?_
  intro s' h'
  refine Scanning.dropKey_pushMark (k := .blockEntry) ?_ hne hclear trivial
  exact ⟨h'.cursor, h'.tokens, h'.going⟩

theorem Scanning.fetchKey (h : Scanning block c s) (hne : c.rest ≠ [])
    (hclear : Untagged c.next) :
    Yields (Advances block c) s.fetchKey := by
  unfold ScanState.fetchKey
  refine (h.openBlock (k := .blockMappingStart) trivial _).bind ?_
  intro s' h'
  refine Scanning.dropKey_pushMark (k := .key) ?_ hne hclear trivial
  exact ⟨h'.cursor, h'.tokens, h'.going⟩

theorem Scanning.fetchValue (h : Scanning block c s) (hne : c.rest ≠ [])
    (hclear : Untagged c.next) :
    Yields (Advances block c) s.fetchValue := by
  unfold ScanState.fetchValue
  split
  · rename_i k _
    extract_lets s₁ s₂ s₃
    have h₂ : Scanning block c s₂ := by
      refine Scanning.insertToken (k := .key) ?_ trivial _ _
      exact ⟨h.cursor, h.tokens, h.going⟩
    have h₃ : Scanning block c s₃ := by
      unfold s₃
      split
      · split
        · rename_i s' hopen
          exact (h₂.openAt hopen).insertToken (k := .blockMappingStart) trivial _ _
        · exact h₂
      · exact h₂
    refine Scanning.pushMark (k := .value) ?_ trivial (by decide) hne hclear
    exact ⟨h₃.cursor, h₃.tokens, h₃.going⟩
  · refine (h.openBlock (k := .blockMappingStart) trivial _).bind ?_
    intro s' h'
    refine Scanning.dropKey_pushMark (k := .value) ?_ hne hclear trivial
    exact ⟨h'.cursor, h'.tokens, h'.going⟩

theorem Scanning.fetchNode (h : Scanning block c s) {read : Cursor → Reading (Token × Cursor)}
    (hread : ReadsToken block c (read c)) : Yields (Advances block c) (s.fetchNode read) := by
  unfold ScanState.fetchNode
  refine h.saveKey.bind ?_
  rintro s' ⟨h', -⟩
  refine Scanning.pushRead ?_ hread
  exact ⟨h'.cursor, h'.tokens, h'.going⟩

theorem Scanning.fetchBlockScalar (h : Scanning block c s) (ht : Tame block)
    (hc : c.rest <:+ block) (hne : c.rest ≠ []) (folded : Bool) :
    Yields (Advances block c) (s.fetchBlockScalar folded) := by
  unfold ScanState.fetchBlockScalar
  have h₁ : Scanning block c { s with keyAllowed := true } := ⟨h.cursor, h.tokens, h.going⟩
  refine h₁.dropKey.bind ?_
  rintro s' ⟨h', -⟩
  exact h'.pushRead (blockScalar_reads ht folded s'.indent hc hne)

theorem ne_of_not_isIndicator {x : Char} (h : isIndicator x = false) :
    x ≠ '#' ∧ x ≠ ':' ∧ x ≠ '?' ∧ isFlowIndicator x = false := by
  have hlist : isIndicator x
      = ['-', '?', ':', ',', '[', ']', '\x7b', '\x7d', '#', '&', '*', '!', '|', '>', '\'', '"', '%',
        '@', '\x60'].contains x := rfl
  rw [hlist] at h
  simp only [List.contains_cons, Bool.or_eq_false_iff, beq_eq_false_iff_ne] at h
  simp [isFlowIndicator, h]

/-- Where a plain scalar begins, it has at least one character. -/
theorem run_of_atPlain (h : s.atPlain = true) (hne : s.cursor.rest ≠ []) :
    s.cursor.peek ≠ '#' ∧ plainRunLength (!s.inBlock) s.cursor.rest ≠ 0 := by
  have hafter : s.cursor.peekAt 1 = s.cursor.next.rest.headD Cursor.endMark :=
    Cursor.peekAt_eq 1 s.cursor
  unfold atPlain at h
  rw [hafter] at h
  rw [Cursor.rest_of_peek hne, plainRunLength]
  generalize s.cursor.peek = x at h ⊢
  generalize s.cursor.next.rest.headD Cursor.endMark = after at h ⊢
  generalize s.inBlock = inBlock at h ⊢
  rcases Bool.or_eq_true_iff.mp h with hplain | hdense
  · obtain ⟨hblank, hindicator⟩ : Cursor.isBlankOrEnd x = false ∧ isIndicator x = false := by
      simpa using hplain
    obtain ⟨hcomment, hcolon, hquestion, hflow⟩ := ne_of_not_isIndicator hindicator
    exact ⟨hcomment, by simp [hblank, hcolon, hquestion, hflow]⟩
  · -- an indicator begins a scalar only if no blank follows
    obtain ⟨hfollowed, hx⟩ : Cursor.isBlankOrEnd after = false
        ∧ (x = '-' ∨ inBlock = true ∧ (x = '?' ∨ x = ':')) := by simpa using hdense
    rcases hx with rfl | ⟨rfl, rfl | rfl⟩
    · have hdash : Cursor.isBlankOrEnd '-' = false ∧ isFlowIndicator '-' = false := by decide
      exact ⟨by decide, by simp [hdash]⟩
    · have hquestion : Cursor.isBlankOrEnd '?' = false := by decide
      exact ⟨by decide, by simp [hquestion]⟩
    · have hcolon : Cursor.isBlankOrEnd ':' = false := by decide
      exact ⟨by decide, by simp [hcolon, hfollowed]⟩

theorem Scanning.fetchPlain (h : Scanning block c s) (ht : Tame block) (hc : c.rest <:+ block)
    (hne : c.rest ≠ []) (hclear : Untagged c) (hplain : s.atPlain = true) :
    Yields (Advances block c) s.fetchPlain := by
  obtain ⟨hcomment, hrun⟩ := run_of_atPlain hplain (by rw [h.cursor]; exact hne)
  unfold ScanState.fetchPlain
  refine h.saveKey.bind ?_
  rintro s' ⟨h', hlevel⟩
  have hblock : s'.inBlock = s.inBlock := by rw [inBlock, inBlock, hlevel]
  rw [h.cursor] at hcomment hrun
  obtain ⟨⟨t, hkind, htext⟩, ⟨-, hkeep⟩, hpass⟩ :=
    plainScalar_spec ht (!s'.inBlock) s'.indent hc
  rw [h'.cursor]
  refine ⟨_, hpass hcomment (by rw [hblock]; exact hrun), hkeep hc hclear, rfl, ?_, h'.going⟩
  intro u hu
  rcases Array.mem_push.mp hu with hu | rfl
  · exact h'.tokens u hu
  · show TameToken block (plainScalar (!s'.inBlock) s'.indent c).1.kind
    rw [hkind]
    exact ⟨t, rfl, htext⟩

/-- A mark for a document ends before a blank. -/
theorem untagged_of_atMarker {marker : Text} (h : c.atMarker marker = true) :
    Untagged (c.forward 3) := by
  have hblank : Cursor.isBlankOrEnd (c.peekAt 3) = true := (Bool.and_eq_true_iff.mp h).2
  rw [Cursor.peekAt_eq] at hblank
  exact untagged_of_test (by decide) hblank

/-- **One token.** A step makes tokens that the block can have. It is the last one, or the cursor
has moved on. -/
theorem Scanning.fetch (h : Scanning block c s) (hb : Legible block) (hc : c.rest <:+ block)
    (hclear : Untagged c) : Yields (fun s' => Ended block s' ∨ Advances block c s') s.fetch := by
  have ht : Tame block := hb.toTame
  unfold ScanState.fetch
  obtain ⟨c', ⟨hlead, hkeep⟩, hblanks⟩ := h.skipBlanks ht
  have hc' : c'.rest <:+ block := List.IsSuffix.trans hlead hc
  have hclear' : Untagged c' := hkeep hc hclear
  refine hblanks.dropStaleKeys.bind ?_
  intro s₁ h₁
  have h₂ : Scanning block c' (s₁.unwindTo s₁.cursor.column) := h₁.unwind _ _
  dsimp only
  generalize s₁.unwindTo s₁.cursor.column = s₂ at h₂ ⊢
  rw [h₂.cursor]
  -- all steps but the last one move on from the place that was skipped to
  have moves {r : Reading ScanState} (hr : Yields (Advances block c') r) :
      Yields (fun s' => Ended block s' ∨ Advances block c s') r :=
    hr.mono fun s' ⟨c'', hpass, hs'⟩ => .inr ⟨c'', hlead.trans_passes hpass, hs'⟩
  by_cases hne : c'.rest = []
  · rw [if_pos (by rw [hne]; rfl)]
    exact h₂.fetchStreamEnd.mono fun s' => .inl
  · rw [if_neg (by simpa using hne)]
    have behind {x : Char} (hx : (c'.peek == x) = true) (hends : endsToken x = true) :
        Untagged c'.next := ht.untagged_next hc' hne (by rw [eq_of_beq hx]; exact hends)
    have behind' {x : Char} {p : Bool} (hx : (c'.peek == x && p) = true)
        (hends : endsToken x = true) : Untagged c'.next :=
      behind (Bool.and_eq_true_iff.mp hx).1 hends
    have separated {p : Bool} (h : (p && Cursor.isBlankOrEnd (c'.peekAt 1)) = true) :
        Untagged c'.next := by
      have hblank := (Bool.and_eq_true_iff.mp h).2
      rw [Cursor.peekAt_eq] at hblank
      exact untagged_of_test (by decide) hblank
    refine .ite (fun _ => moves (h₂.fetchDirective ht hc' hne)) fun _ => ?_
    refine .ite (fun hmark => moves (h₂.fetchDocumentMark hne
      (untagged_of_atMarker (Bool.and_eq_true_iff.mp hmark).2) trivial)) fun _ => ?_
    refine .ite (fun hmark => moves (h₂.fetchDocumentMark hne
      (untagged_of_atMarker (Bool.and_eq_true_iff.mp hmark).2) trivial)) fun _ => ?_
    refine .ite (fun hx => moves (h₂.fetchFlowStart hne (behind hx rfl) trivial)) fun _ => ?_
    refine .ite (fun hx => moves (h₂.fetchFlowStart hne (behind hx rfl) trivial)) fun _ => ?_
    refine .ite (fun hx => moves (h₂.fetchFlowEnd hne (behind hx rfl) trivial)) fun _ => ?_
    refine .ite (fun hx => moves (h₂.fetchFlowEnd hne (behind hx rfl) trivial)) fun _ => ?_
    refine .ite (fun hx => moves (h₂.fetchFlowEntry hne (behind hx rfl))) fun _ => ?_
    refine .ite (fun hdash => moves (h₂.fetchBlockEntry hne (separated hdash))) fun _ => ?_
    refine .ite (fun hx => moves (h₂.fetchKey hne (behind' hx rfl))) fun _ => ?_
    refine .ite (fun hx => moves (h₂.fetchValue hne (behind' hx rfl))) fun _ => ?_
    refine .ite (fun _ => moves (h₂.fetchNode ?_)) fun _ => ?_
    · exact anchorToken_reads hne _ fun _ => trivial
    refine .ite (fun _ => moves (h₂.fetchNode ?_)) fun _ => ?_
    · exact anchorToken_reads hne _ fun _ => trivial
    -- a tag would begin here
    refine .ite (fun hbang => absurd (eq_of_beq hbang) hclear') fun _ => ?_
    refine .ite (fun _ => moves (h₂.fetchBlockScalar ht hc' hne false)) fun _ => ?_
    refine .ite (fun _ => moves (h₂.fetchBlockScalar ht hc' hne true)) fun _ => ?_
    have quoted {q : Char} (hq : q = '\'' ∨ q = '"') :=
      moves (h₂.fetchNode (quotedScalar_reads hb hq hc' hne))
    refine .ite (fun _ => quoted (.inl rfl)) fun _ => ?_
    refine .ite (fun _ => quoted (.inr rfl)) fun _ => ?_
    exact .ite (fun hplain => moves (h₂.fetchPlain ht hc' hne hclear' hplain)) fun _ => .placed _

/-! ## All tokens -/

theorem tokens_of_mem_settled {t : Token} (h : t ∈ s.settled) : t ∈ s.tokens := by
  unfold settled at h
  split at h
  · exact Array.mem_toList_iff.mp (List.mem_of_mem_take h)
  · exact Array.mem_toList_iff.mp h

/-- **A whole scan.** A scan with as many steps as there are characters left, and one more, comes to
its end. -/
theorem runScan_spec (hb : Legible block) (fuel : Nat) {c : Cursor} {s : ScanState}
    (h : Scanning block c s) (hc : c.rest <:+ block) (hclear : Untagged c)
    (hfuel : c.rest.length < fuel) :
    (∀ t ∈ (s.runScan fuel).tokens, TameToken block t.kind)
      ∧ match (s.runScan fuel).fault with
        | none => EndsStream (s.runScan fuel).tokens
        | some f => f.isContained = true := by
  induction fuel generalizing c s with
  | zero => exact absurd hfuel (by omega)
  | succ fuel ih =>
      have hfetch := h.fetch hb hc hclear
      unfold runScan
      rw [h.going]
      cases hstep : s.fetch with
      | error f =>
          rw [hstep] at hfetch
          exact ⟨fun t hs => h.tokens t (tokens_of_mem_settled hs), hfetch⟩
      | ok next =>
          rw [hstep] at hfetch
          rcases hfetch with hended | ⟨c', hpass, hclear', hnext⟩
          · simp only [Bool.false_eq_true, if_false, hended.done, if_true]
            exact ⟨fun t hs => hended.tokens t (Array.mem_toList_iff.mp hs), hended.ends⟩
          · have hstale := hnext.dropStaleKeys
            simp only [Bool.false_eq_true, if_false, hnext.going]
            cases hdrop : next.dropStaleKeys with
            | error f =>
                rw [hdrop] at hstale
                exact ⟨fun t hs => h.tokens t (tokens_of_mem_settled hs), hstale⟩
            | ok next =>
                rw [hdrop] at hstale
                have hlength := hpass.2
                exact ih hstale (List.IsSuffix.trans hpass.leads hc) hclear' (by omega)

end ScanState

/-- **The tokens of a tame block** are ones that it can have. The last of them is the one for the
end of the block, unless a contained fault ended the scan. -/
theorem Scan.ofText_spec {block : Text} (hb : Legible block) :
    (∀ t ∈ (Scan.ofText block).tokens, TameToken block t.kind)
      ∧ match (Scan.ofText block).fault with
        | none => EndsStream (Scan.ofText block).tokens
        | some f => f.isContained = true := by
  have hstart : ScanState.Scanning block (Cursor.start block) (ScanState.start block) :=
    ⟨rfl, fun t h => absurd h (by simp [ScanState.start]), rfl⟩
  refine ScanState.runScan_spec hb (block.length + 2) hstart (List.suffix_refl block) ?_ ?_
  · -- the block begins a line
    intro hbang
    have hne := Cursor.rest_ne_nil_of_peek (c := Cursor.start block) (by rw [hbang]; decide)
    have hrest : block = '!' :: (Cursor.start block).next.rest := by
      rw [← hbang]
      exact Cursor.rest_of_peek hne
    refine hb.untagged '\n' (by decide) ⟨[], (Cursor.start block).next.rest, ?_⟩
    rw [List.nil_append, List.cons_append, List.cons_append, List.nil_append, ← hrest]
  · show block.length < block.length + 2
    omega

end Gamebook.Yaml
