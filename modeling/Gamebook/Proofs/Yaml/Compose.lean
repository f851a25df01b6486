import Gamebook.Proofs.Yaml.Form
import Gamebook.Proofs.Yaml.Scan
import Gamebook.Yaml.Node

/-!
# The nodes of a tame block

A tame block has no tags of the author's, so a node has one of the tags whose contents are
not checked only if it is a plain scalar, and then for its form. This holds of every node
that is composed of the tokens of a tame block (`ofScan_yields`).

Composing never runs out. Each node takes a token at least, and the functions call each
other at most three times between two tokens, so three steps for each token are enough
(`Enough`). The last token is never taken.
-/

namespace Gamebook.Yaml

/-- A node with an unchecked tag is a plain scalar that got the tag for its form. -/
def TameNode (block : Text) (n : Node) : Prop :=
  n.tag ∈ uncheckedTags → ∃ t, n.content = .scalar (codesOf t) ∧ n.tag = plainTag t
    ∧ PlainText block t

theorem TameNode.of_notMem {block : Text} {n : Node} (h : n.tag ∉ uncheckedTags) :
    TameNode block n :=
  fun hmem => absurd hmem h

namespace Compose

/-! ## States -/

/-- There is a token to look at, or else a contained fault is met. -/
def Live (c : Composition) : Prop := c.ending.isContained = true ∨ EndsStream c.tokens

/-- What holds of a composition of a tame block at any time. -/
structure Composing (block : Text) (c : Composition) : Prop where
  tokens : ∀ t ∈ c.tokens, TameToken block t.kind
  graph : ∀ n ∈ c.graph, TameNode block n
  live : Live c

/-- The steps that are left are enough: three for each token, and some more. -/
def Enough (more steps : Nat) (c : Composition) : Prop :=
  c.ending.isContained = true ∨ 3 * c.tokens.length + more ≤ steps

/-- What a reading of nodes does to a composition: it takes some tokens, and leaves the tags of the
nodes as they are. -/
structure Later (block : Text) (taken : Nat) (c c' : Composition) : Prop where
  composing : Composing block c'
  tokens : c'.tokens.length + taken ≤ c.tokens.length
  ending : c'.ending = c.ending
  tags : ∀ (id : Nat) (n : Node), c.graph[id]? = some n →
    ∃ n', c'.graph[id]? = some n' ∧ n'.tag = n.tag

/-- The node with a number has a tag whose contents are checked, or none are read. -/
def Checked (id : Nat) (c : Composition) : Prop :=
  ∃ n, c.graph[id]? = some n ∧ n.tag ∉ uncheckedTags

variable {α : Type} {block : Text} {c c' c'' : Composition} {post : α → Composition → Prop}
  {t : Token} {rest : List Token}

theorem Composing.refl (h : Composing block c) : Later block 0 c c :=
  ⟨h, Nat.le_refl _, rfl, fun _ n hn => ⟨n, hn, rfl⟩⟩

theorem Later.trans {m n : Nat} (h : Later block m c c') (h' : Later block n c' c'') :
    Later block (m + n) c c'' := by
  refine ⟨h'.composing, ?_, h'.ending.trans h.ending, ?_⟩
  · have hfirst := h.tokens
    have hsecond := h'.tokens
    omega
  · intro id k hk
    obtain ⟨k', hk', htag⟩ := h.tags id k hk
    obtain ⟨k'', hk'', htag'⟩ := h'.tags id k' hk'
    exact ⟨k'', hk'', htag'.trans htag⟩

theorem Later.weaken {m n : Nat} (h : Later block m c c') (hle : n ≤ m) : Later block n c c' :=
  ⟨h.composing, by have := h.tokens; omega, h.ending, h.tags⟩

theorem Later.enough {m more more' steps steps' : Nat} (h : Later block m c c')
    (he : Enough more steps c) (hle : steps + more' ≤ steps' + more + 3 * m) :
    Enough more' steps' c' := by
  rcases he with he | he
  · exact .inl (by rw [h.ending]; exact he)
  · have htokens := h.tokens
    exact .inr (by omega)

/-- What a composition knows of anchors and handles does not matter. -/
theorem Later.aside {m : Nat} (h : Later block m c c') (htokens : c''.tokens = c'.tokens)
    (hgraph : c''.graph = c'.graph) (hending : c''.ending = c'.ending) : Later block m c c'' := by
  refine ⟨⟨?_, ?_, ?_⟩, ?_, hending.trans h.ending, ?_⟩
  · rw [htokens]
    exact h.composing.tokens
  · rw [hgraph]
    exact h.composing.graph
  · rw [Live, hending, htokens]
    exact h.composing.live
  · rw [htokens]
    exact h.tokens
  · rw [hgraph]
    exact h.tags

theorem Later.checked {m id : Nat} (h : Later block m c c') (hc : Checked id c) :
    Checked id c' := by
  obtain ⟨n, hn, htag⟩ := hc
  obtain ⟨n', hn', htag'⟩ := h.tags id n hn
  exact ⟨n', hn', by rw [htag']; exact htag⟩

/-! ## Tokens -/

theorem peek_does (h : Live c) :
    Does c (fun t c' => c' = c ∧ ∃ rest, c.tokens = t :: rest) peek := by
  unfold peek
  refine Does.get_bind ?_
  split
  · rename_i t rest htokens
    exact ⟨rfl, rest, htokens⟩
  · rename_i htokens
    rcases h with h | ⟨t, ht, -⟩
    · exact h
    · rw [htokens] at ht
      exact absurd ht (by simp)

/-- A token is looked at. -/
theorem peek_bind {k : Token → Compose α} (h : Live c)
    (hk : ∀ t rest, c.tokens = t :: rest → Does c post (k t)) : Does c post (peek >>= k) :=
  (peek_does h).bind fun t _ ⟨hsame, rest, ht⟩ => hsame ▸ hk t rest ht

theorem at_bind {p : TokenKind → Bool} {k : Bool → Compose α} (h : Live c)
    (hk : ∀ t rest, c.tokens = t :: rest → Does c post (k (p t.kind))) :
    Does c post (at? p >>= k) := by
  rw [at?, bind_assoc]
  refine peek_bind h fun t rest ht => ?_
  rw [pure_bind]
  exact hk t rest ht

/-- The composition without its first token. -/
def behind (rest : List Token) (c : Composition) : Composition := { c with tokens := rest }

/-- A token other than the last one is taken. -/
theorem take_bind {k : Token → Compose α} (hc : Composing block c) (ht : c.tokens = t :: rest)
    (hend : t.kind ≠ .streamEnd)
    (hk : Later block 1 c (behind rest c) → Does (behind rest c) post (k t)) :
    Does c post (take >>= k) := by
  have hlive : Live (behind rest c) := by
    rcases hc.live with hcontained | ⟨u, hu, hkind⟩
    · exact .inl hcontained
    · rw [ht] at hu
      cases rest with
      | nil =>
          injection hu with hu
          subst hu
          exact absurd hkind hend
      | cons v rest => exact .inr ⟨u, by rwa [List.getLast?_cons_cons] at hu, hkind⟩
  have hlater : Later block 1 c (behind rest c) := by
    refine ⟨⟨fun u hu => hc.tokens u ?_, hc.graph, hlive⟩, ?_, rfl, fun _ n hn => ⟨n, hn, rfl⟩⟩
    · rw [ht]
      exact List.mem_cons_of_mem _ hu
    · rw [ht]
      exact Nat.le_refl _
  have htake : Does c (fun u c' => u = t ∧ c' = behind rest c) take := by
    unfold take
    refine peek_bind hc.live fun u rest' hu => ?_
    rw [ht] at hu
    injection hu with h1 h2
    subst h1
    refine ⟨rfl, ?_⟩
    show ({ c with tokens := c.tokens.tail } : Composition) = _
    rw [ht]
    rfl
  refine htake.bind ?_
  rintro u c' ⟨rfl, rfl⟩
  exact hk hlater

theorem fail_does (stage : Stage) (context : Option (Text × Mark)) (problem : Text) (mark : Mark) :
    Does c post (fail stage context problem mark) := rfl

theorem unexpectedToken_does (h : Live c) (what : Text) (began : Mark) (expected : Text) :
    Does c post (unexpectedToken what began expected) :=
  peek_bind h fun _ _ _ => fail_does _ _ _ _

/-! ## Nodes -/

theorem addNode_does (hc : Composing block c) {n : Node} (hn : TameNode block n) :
    Does c (fun id c' => Later block 0 c c' ∧ c'.tokens = c.tokens ∧ c'.graph[id]? = some n)
      (addNode n) := by
  refine ⟨⟨⟨hc.tokens, ?_, hc.live⟩, Nat.le_refl _, rfl, ?_⟩, rfl, ?_⟩
  · intro m hm
    rcases Array.mem_push.mp hm with hm | rfl
    · exact hc.graph m hm
    · exact hn
  · intro id m hm
    refine ⟨m, ?_, rfl⟩
    obtain ⟨hlt, hget⟩ := Array.getElem?_eq_some_iff.mp hm
    show (c.graph.push n)[id]? = _
    rw [Array.getElem?_push_lt hlt, hget]
  · show (c.graph.push n)[c.graph.size]? = _
    rw [Array.getElem?_push_size]

/-- A tag that the composer gives to a collection is checked. -/
theorem collectionTag_notMem {default : Text} (h : default ∈ [seqTag, mapTag]) :
    collectionTag none default ∉ uncheckedTags := by
  have hall : ∀ tag ∈ [seqTag, mapTag], tag ∉ uncheckedTags := by decide
  exact hall default h

theorem textOf_codesOf (t : Text) : textOf (codesOf t) = t := by
  rw [textOf, codesOf, List.map_map]
  exact (List.map_congr_left fun c _ => Char.ofNat_toNat c).trans (List.map_id t)

/-- A scalar without a tag of the author's is a tame node. -/
theorem tameNode_scalar {codes : List Nat} {style : ScalarStyle}
    (h : TameToken block (.scalar codes style)) (start : Mark) :
    TameNode block ⟨scalarTag none style (textOf codes), .scalar codes, start⟩ := by
  intro hmem
  cases style with
  | quoted =>
      have hstr : strTag ∉ uncheckedTags := by decide
      exact absurd hmem hstr
  | plain =>
      obtain ⟨t, rfl, htext⟩ := h
      refine ⟨t, rfl, ?_, htext⟩
      show plainTag (textOf (codesOf t)) = plainTag t
      rw [textOf_codesOf]

theorem noteAnchor_does (hc : Composing block c) (anchor : Option Text) (id : Nat) :
    Does c (fun _ c' => Later block 0 c c' ∧ c'.tokens = c.tokens) (noteAnchor anchor id) := by
  cases anchor with
  | none => exact ⟨hc.refl, rfl⟩
  | some name => exact ⟨hc.refl.aside rfl rfl rfl, rfl⟩

theorem checkAnchor_does (anchor : Option Text) (start : Mark) :
    Does c (fun _ c' => c' = c) (checkAnchor anchor start) := by
  cases anchor with
  | none => exact rfl
  | some name =>
      refine Does.get_bind ?_
      dsimp only
      cases c.anchors.find? fun a => a.1 == name with
      | none => exact rfl
      | some found => exact fail_does _ _ _ _

/-- The contents of a checked node may be anything. -/
theorem setContent_does (hc : Composing block c) {id : Nat} (h : Checked id c)
    (content : NodeContent) : Does c (fun _ c' => Later block 0 c c') (setContent id content) := by
  obtain ⟨n, hn, htag⟩ := h
  refine ⟨⟨hc.tokens, ?_, hc.live⟩, Nat.le_refl _, rfl, ?_⟩
  · intro m hm
    obtain ⟨i, hi⟩ := Array.mem_iff_getElem?.mp hm
    rw [Array.getElem?_modify] at hi
    by_cases hid : id = i
    · subst hid
      rw [if_pos rfl, hn] at hi
      injection hi with hi
      subst hi
      exact TameNode.of_notMem htag
    · rw [if_neg hid] at hi
      exact hc.graph m (Array.mem_of_getElem? hi)
  · intro i m hm
    show ∃ n', (c.graph.modify id fun n => { n with content := content })[i]? = some n' ∧ _
    rw [Array.getElem?_modify]
    by_cases hid : id = i
    · exact ⟨{ m with content := content }, by rw [if_pos hid, hm]; rfl, rfl⟩
    · exact ⟨m, by rw [if_neg hid, hm], rfl⟩

/-- Adding a node with its anchor. -/
theorem addAnchored_does (hc : Composing block c) {n : Node} (hn : TameNode block n)
    (anchor : Option Text) (start : Mark) :
    Does c (fun id c' => Later block 0 c c' ∧ c'.tokens = c.tokens ∧
        (n.tag ∉ uncheckedTags → Checked id c'))
      (do
        checkAnchor anchor start
        let id ← addNode n
        noteAnchor anchor id
        pure id) := by
  refine (checkAnchor_does anchor start).bind ?_
  rintro _ _ rfl
  refine (addNode_does hc hn).bind ?_
  rintro id c₁ ⟨hadd, htokens, hget⟩
  refine (noteAnchor_does hadd.composing anchor id).bind ?_
  rintro _ c₂ ⟨hnote, htokens'⟩
  exact ⟨hadd.trans hnote, htokens'.trans htokens, fun htag => hnote.checked ⟨n, hget, htag⟩⟩

/-- The last steps of every collection: its parts are noted, and its number is returned. -/
theorem setContent_pure (hc : Composing block c) {m id : Nat} (h : Later block m c' c)
    (hid : Checked id c) (content : NodeContent) :
    Does c (fun _ c'' => Later block m c' c'')
      (do
        setContent id content
        pure id) := by
  refine (setContent_does hc hid content).bind ?_
  intro _ c'' hset
  exact h.trans hset

theorem emptyNode_does (hc : Composing block c) (mark : Mark) :
    Does c (fun _ c' => Later block 0 c c') (emptyNode mark) := by
  refine (addNode_does hc (TameNode.of_notMem ?_)).mono fun _ _ h => h.1
  show plainTag [] ∉ uncheckedTags
  decide

/-- What stands before a node: it has no tag, and if it has an anchor, a token has been taken. -/
theorem properties_does (hc : Composing block c) :
    Does c (fun p c' => Later block 0 c c' ∧ p.tag = none
        ∧ (p.anchor.isSome = true → Later block 1 c c')) properties := by
  unfold properties
  refine peek_bind hc.live fun t rest ht => ?_
  have htame := hc.tokens t (by rw [ht]; simp)
  cases hkind : t.kind with
  | anchor name =>
      dsimp only
      refine take_bind hc ht (by simp [hkind]) fun h => ?_
      refine peek_bind h.composing.live fun u rest' hu => ?_
      have htame' := h.composing.tokens u (by rw [hu]; simp)
      cases hkind' : u.kind with
      | tag handle suffix =>
          rw [hkind'] at htame'
          exact htame'.elim
      | _ => exact ⟨h.weaken (by omega), rfl, fun _ => h⟩
  | tag handle suffix =>
      rw [hkind] at htame
      exact htame.elim
  | _ => exact ⟨hc.refl, rfl, fun h => absurd h (by simp)⟩

/-! ## One more step -/

/-- What a number of steps is enough for: each function composes its part from tokens that are few
enough for it. -/
structure Composes (block : Text) (steps : Nat) : Prop where
  node : ∀ (setting : Setting) (c : Composition), Composing block c → Enough 1 steps c →
    Does c (fun _ c' => Later block 1 c c') (node setting steps)
  blockItems : ∀ (began : Mark) (c : Composition), Composing block c → Enough 0 steps c →
    Does c (fun _ c' => Later block 0 c c') (blockItems began steps)
  looseItems : ∀ (c : Composition), Composing block c → Enough 0 steps c →
    Does c (fun _ c' => Later block 0 c c'
      ∧ ∀ t rest, c.tokens = t :: rest → isBlockEntry t.kind = true → Later block 1 c c')
      (looseItems steps)
  blockEntries : ∀ (began : Mark) (c : Composition), Composing block c → Enough 0 steps c →
    Does c (fun _ c' => Later block 0 c c') (blockEntries began steps)
  flowItems : ∀ (began : Mark) (first : Bool) (c : Composition), Composing block c →
    Enough 2 steps c → Does c (fun _ c' => Later block 0 c c') (flowItems began first steps)
  soloMapping : ∀ (c : Composition), Composing block c → Enough 1 steps c →
    (∃ t rest, c.tokens = t :: rest ∧ isKey t.kind = true) →
    Does c (fun _ c' => Later block 1 c c') (soloMapping steps)
  flowEntries : ∀ (began : Mark) (first : Bool) (c : Composition), Composing block c →
    Enough 2 steps c → Does c (fun _ c' => Later block 0 c c') (flowEntries began first steps)

variable {steps : Nat}

theorem ne_streamEnd {p : TokenKind → Bool} (hp : p .streamEnd = false) {k : TokenKind}
    (h : p k = true) : k ≠ .streamEnd := by
  rintro rfl
  rw [hp] at h
  exact absurd h (by decide)

/-- A part that may be missing: a node, or one with no characters. -/
theorem part_bind (h : Composes block steps) (hc : Composing block c) (he : Enough 1 steps c)
    {setting : Setting} {mark : Mark} {missing : Bool} {k : Nat → Compose α}
    (hk : ∀ id c', Later block 0 c c' → Does c' post (k id)) :
    Does c post
      (if missing = true then do
        let id ← emptyNode mark
        k id
      else do
        let id ← node setting steps
        k id) := by
  cases missing with
  | true => exact (emptyNode_does hc mark).bind hk
  | false => exact (h.node setting c hc he).bind fun id c' h' => hk id c' (h'.weaken (by omega))

/-- The value of an entry, which may be missing with its colon or without. -/
theorem value_bind (h : Composes block steps) (hc : Composing block c) (he : Enough 1 steps c)
    {setting : Setting} {missing : TokenKind → Bool} {k : Nat → Compose α}
    (hk : ∀ id c', Later block 0 c c' → Does c' post (k id)) :
    Does c post (do
      let u ← peek
      if isValue u.kind = true then do
        let _ ← take
        let b ← at? missing
        if b = true then do
          let id ← emptyNode u.stop
          k id
        else do
          let id ← node setting steps
          k id
      else do
        let id ← emptyNode u.start
        k id) := by
  refine peek_bind hc.live fun u rest hu => ?_
  by_cases hvalue : isValue u.kind = true
  · rw [if_pos hvalue]
    refine take_bind hc hu (ne_streamEnd rfl hvalue) fun h₁ => ?_
    refine at_bind h₁.composing.live fun _ _ _ => ?_
    refine part_bind h h₁.composing (h₁.enough he (by omega)) fun id c' h₂ => ?_
    exact hk id c' ((h₁.trans h₂).weaken (by omega))
  · rw [if_neg hvalue]
    exact (emptyNode_does hc u.start).bind hk

theorem endBlock_does {α : Type} {t : Token} {rest : List Token} (hc : Composing block c)
    (ht : c.tokens = t :: rest) (what : Text) (began : Mark) :
    Does c (fun _ c' => Later block 0 c c') (endBlock t what began : Compose (List α)) := by
  unfold endBlock
  refine .ite (fun hend => ?_) fun _ => unexpectedToken_does hc.live _ _ _
  exact take_bind hc ht (ne_streamEnd rfl hend) fun h₁ => h₁.weaken (by omega)

theorem blockItems_step (h : Composes block steps) (began : Mark) (hc : Composing block c)
    (he : Enough 0 (steps + 1) c) :
    Does c (fun _ c' => Later block 0 c c') (blockItems began (steps + 1)) := by
  unfold Compose.blockItems
  refine peek_bind hc.live fun t rest ht => ?_
  by_cases hentry : isBlockEntry t.kind = true
  · rw [if_pos hentry]
    refine take_bind hc ht (ne_streamEnd rfl hentry) fun h₁ => ?_
    refine at_bind h₁.composing.live fun _ _ _ => ?_
    refine part_bind h h₁.composing (h₁.enough he (by omega)) fun item c₂ h₂ => ?_
    have h₂' := h₁.trans h₂
    refine (h.blockItems began c₂ h₂'.composing (h₂'.enough he (by omega))).bind ?_
    intro items c₃ h₃
    exact (h₂'.trans h₃).weaken (by omega)
  · rw [if_neg hentry]
    exact endBlock_does hc ht _ _

theorem looseItems_step (h : Composes block steps) (hc : Composing block c)
    (he : Enough 0 (steps + 1) c) :
    Does c (fun _ c' => Later block 0 c c'
      ∧ ∀ t rest, c.tokens = t :: rest → isBlockEntry t.kind = true → Later block 1 c c')
      (looseItems (steps + 1)) := by
  unfold Compose.looseItems
  refine peek_bind hc.live fun t rest ht => ?_
  by_cases hentry : isBlockEntry t.kind = true
  · rw [if_pos hentry]
    refine take_bind hc ht (ne_streamEnd rfl hentry) fun h₁ => ?_
    refine at_bind h₁.composing.live fun _ _ _ => ?_
    refine part_bind h h₁.composing (h₁.enough he (by omega)) fun item c₂ h₂ => ?_
    have h₂' := h₁.trans h₂
    refine (h.looseItems c₂ h₂'.composing (h₂'.enough he (by omega))).bind ?_
    rintro items c₃ ⟨h₃, -⟩
    have h₃' := h₂'.trans h₃
    exact ⟨h₃'.weaken (by omega), fun _ _ _ _ => h₃'.weaken (by omega)⟩
  · rw [if_neg hentry]
    refine ⟨hc.refl, fun u rest' hu hkind => absurd hkind ?_⟩
    rw [ht] at hu
    injection hu with h1 h2
    subst h1
    exact hentry

theorem blockEntries_step (h : Composes block steps) (began : Mark) (hc : Composing block c)
    (he : Enough 0 (steps + 1) c) :
    Does c (fun _ c' => Later block 0 c c') (blockEntries began (steps + 1)) := by
  unfold Compose.blockEntries
  refine peek_bind hc.live fun t rest ht => ?_
  by_cases hkey : isKey t.kind = true
  · rw [if_pos hkey]
    refine take_bind hc ht (ne_streamEnd rfl hkey) fun h₁ => ?_
    refine at_bind h₁.composing.live fun _ _ _ => ?_
    refine part_bind h h₁.composing (h₁.enough he (by omega)) fun key c₂ h₂ => ?_
    have h₂' := h₁.trans h₂
    refine value_bind h h₂'.composing (h₂'.enough he (by omega)) fun value c₃ h₃ => ?_
    have h₃' := h₂'.trans h₃
    refine (h.blockEntries began c₃ h₃'.composing (h₃'.enough he (by omega))).bind ?_
    intro entries c₄ h₄
    exact (h₃'.trans h₄).weaken (by omega)
  · rw [if_neg hkey]
    exact endBlock_does hc ht _ _

theorem soloMapping_step (h : Composes block steps) (hc : Composing block c)
    (he : Enough 1 (steps + 1) c) (hkey : ∃ t rest, c.tokens = t :: rest ∧ isKey t.kind = true) :
    Does c (fun _ c' => Later block 1 c c') (soloMapping (steps + 1)) := by
  obtain ⟨t, rest, ht, hkind⟩ := hkey
  have hmap : mapTag ∉ uncheckedTags := by decide
  unfold Compose.soloMapping
  refine take_bind hc ht (ne_streamEnd rfl hkind) fun h₁ => ?_
  refine (addNode_does h₁.composing (TameNode.of_notMem hmap)).bind ?_
  rintro id c₂ ⟨h₂, -, hid⟩
  have h₂' := h₁.trans h₂
  have hchecked : Checked id c₂ := ⟨_, hid, hmap⟩
  refine at_bind h₂'.composing.live fun _ _ _ => ?_
  refine part_bind h h₂'.composing (h₂'.enough he (by omega)) fun key c₃ h₃ => ?_
  have h₃' := h₂'.trans h₃
  refine value_bind h h₃'.composing (h₃'.enough he (by omega)) fun value c₄ h₄ => ?_
  have h₄' := h₃'.trans h₄
  exact setContent_pure h₄'.composing h₄' (h₄.checked (h₃.checked hchecked)) _

/-- Between two parts in brackets stands a comma. -/
theorem separator_bind (hc : Composing block c) {first : Bool} {what expected : Text} {began : Mark}
    {k : PUnit → Compose α} (hk : ∀ c', Later block 0 c c' → Does c' post (k ⟨⟩)) :
    Does c post
      (if (!first) = true then do
        let b ← at? isFlowEntry
        if b = true then do
          let _ ← take
          k ⟨⟩
        else do
          let r ← unexpectedToken what began expected
          k r
      else k ⟨⟩) := by
  cases first with
  | true => exact hk c hc.refl
  | false =>
      refine at_bind hc.live fun t rest ht => ?_
      by_cases hcomma : isFlowEntry t.kind = true
      · rw [if_pos hcomma]
        exact take_bind hc ht (ne_streamEnd rfl hcomma) fun h₁ => hk _ (h₁.weaken (by omega))
      · rw [if_neg hcomma]
        have hfails : Does c (fun (_ : PUnit) _ => False) (unexpectedToken what began expected) :=
          unexpectedToken_does hc.live what began expected
        exact hfails.bind fun _ _ => False.elim

/-- Parts in brackets end at the closing one, behind the last part or behind a comma. -/
theorem brackets_does {β : Type} (hc : Composing block c) {isEnd : TokenKind → Bool}
    (hstream : isEnd .streamEnd = false) {first : Bool} {what expected : Text} {began : Mark}
    {parts : Compose (List β)}
    (hparts : ∀ c₁, Later block 0 c c₁ → Does c₁ (fun _ c' => Later block 0 c c') parts) :
    Does c (fun _ c' => Later block 0 c c') (do
      if ← at? isEnd then
        let _ ← take
        return []
      else
        if !first then
          if ← at? isFlowEntry then let _ ← take
          else unexpectedToken what began expected
        if ← at? isEnd then
          let _ ← take
          return []
        else parts) := by
  have ends {c₀ : Composition} (h₀ : Later block 0 c c₀) {m : Compose (List β)}
      (hm : Does c₀ (fun _ c' => Later block 0 c c') m) :
      Does c₀ (fun _ c' => Later block 0 c c') (do
        if ← at? isEnd then
          let _ ← take
          return []
        else m) := by
    refine at_bind h₀.composing.live fun t rest ht => ?_
    by_cases hend : isEnd t.kind = true
    · rw [if_pos hend]
      refine take_bind h₀.composing ht (ne_streamEnd hstream hend) fun h₁ => ?_
      exact (h₀.trans h₁).weaken (by omega)
    · rw [if_neg hend]
      exact hm
  refine ends hc.refl ?_
  dsimp only
  exact separator_bind hc fun c₁ h₁ => ends h₁ (hparts c₁ h₁)

theorem flowItems_step (h : Composes block steps) (began : Mark) (first : Bool)
    (hc : Composing block c) (he : Enough 2 (steps + 1) c) :
    Does c (fun _ c' => Later block 0 c c') (flowItems began first (steps + 1)) := by
  unfold Compose.flowItems
  refine brackets_does hc rfl fun c₁ h₁ => ?_
  have goesOn (item : Nat) (c₂ : Composition) (h₂ : Later block 1 c₁ c₂) :
      Does c₂ (fun _ c' => Later block 0 c c') (do
        let items ← flowItems began false steps
        pure (item :: items)) := by
    have h₂' := h₁.trans h₂
    refine (h.flowItems began false c₂ h₂'.composing (h₂'.enough he (by omega))).bind ?_
    intro items c₃ h₃
    exact (h₂'.trans h₃).weaken (by omega)
  have he₁ : Enough 1 steps c₁ := h₁.enough he (by omega)
  refine at_bind h₁.composing.live fun u rest hu => ?_
  by_cases hkey : isKey u.kind = true
  · rw [if_pos hkey]
    exact (h.soloMapping c₁ h₁.composing he₁ ⟨u, rest, hu, hkey⟩).bind goesOn
  · rw [if_neg hkey]
    exact (h.node .flow c₁ h₁.composing he₁).bind goesOn

theorem flowEntries_step (h : Composes block steps) (began : Mark) (first : Bool)
    (hc : Composing block c) (he : Enough 2 (steps + 1) c) :
    Does c (fun _ c' => Later block 0 c c') (flowEntries began first (steps + 1)) := by
  unfold Compose.flowEntries
  refine brackets_does hc rfl fun c₁ h₁ => ?_
  have goesOn (entry : Nat × Nat) (c₂ : Composition) (h₂ : Later block 1 c₁ c₂) :
      Does c₂ (fun _ c' => Later block 0 c c') (do
        let entries ← flowEntries began false steps
        pure (entry :: entries)) := by
    have h₂' := h₁.trans h₂
    refine (h.flowEntries began false c₂ h₂'.composing (h₂'.enough he (by omega))).bind ?_
    intro entries c₃ h₃
    exact (h₂'.trans h₃).weaken (by omega)
  have he₁ : Enough 1 steps c₁ := h₁.enough he (by omega)
  refine peek_bind h₁.composing.live fun u rest hu => ?_
  by_cases hkey : isKey u.kind = true
  · rw [if_pos hkey]
    refine take_bind h₁.composing hu (ne_streamEnd rfl hkey) fun h₂ => ?_
    refine at_bind h₂.composing.live fun _ _ _ => ?_
    refine part_bind h h₂.composing (h₂.enough he₁ (by omega)) fun key c₃ h₃ => ?_
    have h₃' := h₂.trans h₃
    refine value_bind h h₃'.composing (h₃'.enough he₁ (by omega)) fun value c₄ h₄ => ?_
    exact goesOn (key, value) c₄ (h₃'.trans h₄)
  · rw [if_neg hkey]
    refine (h.node .flow c₁ h₁.composing he₁).bind fun key c₂ h₂ => ?_
    refine peek_bind h₂.composing.live fun v _ _ => ?_
    refine (emptyNode_does h₂.composing v.start).bind fun value c₃ h₃ => ?_
    exact goesOn (key, value) c₃ (h₂.trans h₃)

/-- A collection between marks: its node, the first mark, its parts up to the last mark. -/
theorem collection_does {β : Type} {begin_ : Compose Nat} {parts : Token → Compose β}
    {content : β → NodeContent} (ht : c.tokens = t :: rest) (hend : t.kind ≠ .streamEnd)
    (hbegin :
      Does c (fun id c' => Later block 0 c c' ∧ c'.tokens = c.tokens ∧ Checked id c') begin_)
    (hparts : ∀ c', Later block 1 c c' → Does c' (fun _ c'' => Later block 0 c' c'') (parts t)) :
    Does c (fun _ c' => Later block 1 c c') (do
      let id ← begin_
      let first ← take
      let x ← parts first
      setContent id (content x)
      pure id) := by
  refine hbegin.bind ?_
  rintro id c₁ ⟨h₁, htokens, hid⟩
  refine take_bind h₁.composing (htokens.trans ht) hend fun h₂ => ?_
  have h₂' : Later block 1 c (behind rest c₁) := (h₁.trans h₂).weaken (by omega)
  refine (hparts _ h₂').bind ?_
  intro x c₃ h₃
  have h₃' : Later block 1 c c₃ := h₂'.trans h₃
  exact setContent_pure h₃.composing h₃' (h₃.checked (h₂.checked hid)) (content x)

theorem wholeTag_does {p : Properties} (h : p.tag = none) :
    Does c (fun tag c' => tag = none ∧ c' = c) (wholeTag p) := by
  unfold wholeTag
  rw [h]
  exact ⟨rfl, rfl⟩

theorem node_step (h : Composes block steps) (setting : Setting) (hc : Composing block c)
    (he : Enough 1 (steps + 1) c) :
    Does c (fun _ c' => Later block 1 c c') (node setting (steps + 1)) := by
  unfold Compose.node
  refine peek_bind hc.live fun t rest ht => ?_
  split
  · rename_i name hkind
    refine take_bind hc ht (by simp [hkind]) fun h₁ => ?_
    refine Does.get_bind ?_
    split
    · exact h₁
    · exact fail_does _ _ _ _
  · refine (properties_does hc).bind ?_
    rintro p c₀ ⟨h₁, htag, hanchor⟩
    refine (wholeTag_does htag).bind ?_
    rintro tag c₁ ⟨rfl, rfl⟩
    refine peek_bind h₁.composing.live fun u rest' hu => ?_
    extract_lets start begin_ what
    have hbegin {content : NodeContent} {default : Text} (hdefault : default ∈ [seqTag, mapTag]) :
        Does c₁ (fun id c' => Later block 0 c₁ c' ∧ c'.tokens = c₁.tokens ∧ Checked id c')
          (begin_ content default) := by
      have htag := collectionTag_notMem hdefault
      refine (addAnchored_does h₁.composing (TameNode.of_notMem htag) p.anchor start).mono ?_
      exact fun id c' h => ⟨h.1, h.2.1, h.2.2 htag⟩
    clear_value begin_
    have later {r : Compose Nat} (hr : Does c₁ (fun _ c' => Later block 1 c₁ c') r) :
        Does c₁ (fun _ c' => Later block 1 c c') r :=
      hr.mono fun _ _ h' => (h₁.trans h').weaken (by omega)
    have he₁ {more : Nat} (hmore : more ≤ 2) {c' : Composition} (h' : Later block 1 c₁ c') :
        Enough more steps c' := (h₁.trans h').enough he (by omega)
    split
    · rename_i codes style hkind
      have htame := h₁.composing.tokens u (by rw [hu]; simp)
      rw [hkind] at htame
      refine later (take_bind h₁.composing hu (by simp [hkind]) fun h₂ => ?_)
      exact (addAnchored_does h₂.composing (tameNode_scalar htame start) p.anchor start).mono
        fun _ _ h₃ => h₂.trans h₃.1
    · rename_i hkind
      refine later (collection_does hu (by simp [hkind]) (hbegin (by simp)) fun c₂ h₂ => ?_)
      exact h.flowItems u.start true c₂ h₂.composing (he₁ (by omega) h₂)
    · rename_i hkind
      refine later (collection_does hu (by simp [hkind]) (hbegin (by simp)) fun c₂ h₂ => ?_)
      exact h.flowEntries u.start true c₂ h₂.composing (he₁ (by omega) h₂)
    · split
      · rename_i hloose
        have hentry : isBlockEntry u.kind = true := (Bool.and_eq_true_iff.mp hloose).2
        refine (hbegin (by simp)).bind ?_
        rintro id c₂ ⟨h₂, htokens, hid⟩
        have h₂' := h₁.trans h₂
        refine (h.looseItems c₂ h₂.composing (h₂'.enough he (by omega))).bind ?_
        rintro items c₃ ⟨-, htakes⟩
        have h₃ := htakes u rest' (htokens.trans hu) hentry
        exact setContent_pure h₃.composing ((h₂'.trans h₃).weaken (by omega)) (h₃.checked hid) _
      · split
        · rename_i hkind _
          refine later (collection_does hu (by simp [hkind]) (hbegin (by simp)) fun c₂ h₂ => ?_)
          exact h.blockItems u.start c₂ h₂.composing (he₁ (by omega) h₂)
        · rename_i hkind _
          refine later (collection_does hu (by simp [hkind]) (hbegin (by simp)) fun c₂ h₂ => ?_)
          exact h.blockEntries u.start c₂ h₂.composing (he₁ (by omega) h₂)
        · split
          · rename_i hproperty
            rw [htag] at hproperty
            have hnull : plainTag [] ∉ uncheckedTags := by decide
            have h₂ := hanchor (by simpa using hproperty)
            exact (addAnchored_does h₁.composing (TameNode.of_notMem hnull) p.anchor start).mono
              fun _ _ h₃ => h₂.trans h₃.1
          · exact unexpectedToken_does h₁.composing.live _ _ _

/-- Without a step left there is no token left either, and a contained fault is met. -/
theorem ending_does {more : Nat} (hc : Composing block c) (he : Enough more 0 c) :
    Does c post (do throw (← get).ending) := by
  rcases he with he | he
  · exact he
  · rcases hc.live with hlive | ⟨t, ht, -⟩
    · exact hlive
    · have hnil : c.tokens = [] := List.length_eq_zero_iff.mp (by omega)
      rw [hnil] at ht
      exact absurd ht (by simp)

/-- **Any number of steps is enough for as many tokens as it is three times as large as.** -/
theorem composes (block : Text) (steps : Nat) : Composes block steps := by
  induction steps with
  | zero =>
      exact
        { node := fun _ _ hc he => ending_does hc he
          blockItems := fun _ _ hc he => ending_does hc he
          looseItems := fun _ hc he => ending_does hc he
          blockEntries := fun _ _ hc he => ending_does hc he
          flowItems := fun _ _ _ hc he => ending_does hc he
          soloMapping := fun _ hc he _ => ending_does hc he
          flowEntries := fun _ _ _ hc he => ending_does hc he }
  | succ steps ih =>
      exact
        { node := fun setting _ hc he => node_step ih setting hc he
          blockItems := fun began _ hc he => blockItems_step ih began hc he
          looseItems := fun _ hc he => looseItems_step ih hc he
          blockEntries := fun began _ hc he => blockEntries_step ih began hc he
          flowItems := fun began first _ hc he => flowItems_step ih began first hc he
          soloMapping := fun _ hc he hkey => soloMapping_step ih hc he hkey
          flowEntries := fun began first _ hc he => flowEntries_step ih began first hc he }

/-! ## Documents -/

theorem directives_does (versionSeen : Bool) (fuel : Nat) (hc : Composing block c) :
    Does c (fun _ c' => Later block 0 c c') (directives versionSeen fuel) := by
  induction fuel generalizing versionSeen c with
  | zero => exact hc.refl
  | succ fuel ih =>
      unfold directives
      refine peek_bind hc.live fun t rest ht => ?_
      split
      · rename_i d hkind
        refine take_bind hc ht (by simp [hkind]) fun h₁ => ?_
        have goesOn {versionSeen : Bool} {c' : Composition} (h' : Later block 1 c c') :
            Does c' (fun _ c'' => Later block 0 c c'') (directives versionSeen fuel) :=
          (ih versionSeen h'.composing).mono fun _ _ h'' => (h'.trans h'').weaken (by omega)
        split
        · split
          · exact fail_does _ _ _ _
          · split
            · exact fail_does _ _ _ _
            · exact goesOn h₁
        · refine Does.get_bind ?_
          split
          · exact fail_does _ _ _ _
          · exact Does.set_bind (goesOn (h₁.aside rfl rfl rfl))
        · exact goesOn h₁
      · exact hc.refl

theorem skipDocumentEnds_does (fuel : Nat) (hc : Composing block c) :
    Does c (fun _ c' => Later block 0 c c') (skipDocumentEnds fuel) := by
  induction fuel generalizing c with
  | zero => exact hc.refl
  | succ fuel ih =>
      unfold skipDocumentEnds
      refine at_bind hc.live fun t rest ht => ?_
      by_cases hend : isDocumentEnd t.kind = true
      · rw [if_pos hend]
        refine take_bind hc ht (ne_streamEnd rfl hend) fun h₁ => ?_
        exact (ih h₁.composing).mono fun _ _ h₂ => (h₁.trans h₂).weaken (by omega)
      · rw [if_neg hend]
        exact hc.refl

theorem documentStart_does (fuel : Nat) (hc : Composing block c) :
    Does c (fun _ c' => Later block 0 c c') (documentStart fuel) := by
  unfold documentStart
  refine (skipDocumentEnds_does fuel hc).bind ?_
  intro _ c₁ h₁
  refine peek_bind h₁.composing.live fun t rest ht => ?_
  by_cases hend : isStreamEnd t.kind = true
  · rw [if_pos hend]
    exact h₁
  · rw [if_neg hend]
    refine Does.modify_bind ?_
    have h₂ : Later block 0 c { c₁ with handles := [] } := h₁.aside rfl rfl rfl
    refine (directives_does false fuel h₂.composing).bind ?_
    intro _ c₃ h₃
    have h₃' := h₂.trans h₃
    refine peek_bind h₃'.composing.live fun u rest' hu => ?_
    by_cases hstart : isDocumentStart u.kind = true
    · rw [if_pos hstart]
      refine take_bind h₃'.composing hu (ne_streamEnd rfl hstart) fun h₄ => ?_
      have h₄' := h₃'.trans h₄
      exact Does.modify_bind ((h₄'.weaken (by omega)).aside rfl rfl rfl)
    · rw [if_neg hstart]
      exact fail_does _ _ _ _

theorem documentContent_does {fuel : Nat} (hc : Composing block c) (he : Enough 1 fuel c) :
    Does c (fun _ c' => Later block 0 c c') (documentContent fuel) := by
  unfold documentContent
  refine peek_bind hc.live fun t rest ht => ?_
  split
  · exact emptyNode_does hc t.start
  · exact ((composes block fuel).node .block c hc he).mono fun _ _ h => h.weaken (by omega)

theorem singleDocument_does {fuel : Nat} (hc : Composing block c) (he : Enough 1 fuel c) :
    Does c (fun _ c' => Later block 0 c c') (singleDocument fuel) := by
  unfold singleDocument
  refine peek_bind hc.live fun t rest ht => ?_
  extract_lets next
  -- behind the first document there may be no other
  have hnext (root : Option Nat) {c' : Composition} (h' : Later block 0 c c') :
      Does c' (fun _ c'' => Later block 0 c c'') (next root) := by
    cases root with
    | none => exact h'
    | some id =>
        refine (documentStart_does fuel h'.composing).bind ?_
        intro second c₂ h₂
        cases second with
        | none => exact h'.trans h₂
        | some mark => exact rfl
  clear_value next
  split
  · refine (documentStart_does fuel hc).bind ?_
    intro start c₁ h₁
    cases start with
    | none => exact hnext none h₁
    | some mark =>
        have he₁ : Enough 1 fuel c₁ := h₁.enough he (by omega)
        have hcontent :
            Does c₁ (fun _ c' => Later block 0 c₁ c') (some <$> documentContent fuel) := by
          refine Does.map ?_
          exact documentContent_does h₁.composing he₁
        exact hcontent.bind fun root c₂ h₂ => hnext root (h₁.trans h₂)
  · have hnode : Does c (fun _ c' => Later block 1 c c') (some <$> node .block fuel) := by
      refine Does.map ?_
      exact (composes block fuel).node .block c hc he
    exact hnode.bind fun root c₂ h₂ => hnext root (h₂.weaken (by omega))

end Compose

/-- **The nodes of a legible block are tame**, or a contained fault is met. -/
theorem ofScan_yields {block : Text} (hb : Legible block) :
    Yields (fun r => ∀ n ∈ r.2, TameNode block n) (Graph.ofScan (Scan.ofText block)) := by
  obtain ⟨htokens, hfault⟩ := Scan.ofText_spec hb
  generalize Scan.ofText block = scan at htokens hfault
  have hlive : (scan.fault.getD .emptyNumber).isContained = true ∨ EndsStream scan.tokens := by
    cases hf : scan.fault with
    | none => exact .inr (by simpa [hf] using hfault)
    | some f => exact .inl (by simpa [hf] using hfault)
  unfold Graph.ofScan
  extract_lets start
  have hstart : Compose.Composing block start :=
    ⟨htokens, fun n hn => absurd hn (by simp [start]), hlive⟩
  have henough : Compose.Enough 1 (3 * scan.tokens.length + 3) start :=
    .inr (by simp only [start]; omega)
  have hdoes := Compose.singleDocument_does hstart henough
  split
  · rename_i root c hrun
    exact (Yields.of_ok hdoes hrun).composing.graph
  · rename_i f hrun
    exact Yields.of_error hdoes hrun

end Gamebook.Yaml
