import Gamebook.Proofs.Document.Block
import Gamebook.Proofs.Text.Pattern

/-!
# Where a block begins and ends

A document is cut at the first place where a block is complete. This file says where that is
without searching for blocks: at the first opening fence that has a line break behind it, and
nowhere else. If no closing fence follows that one, none follows a later one, for the later
opening fence would itself have closed the block (`cut?_of_firstOpening`).

The same cut is told by a pattern with a greedy run of line breaks and a lazy body
(`search?_blockPattern`). Going back into the line breaks never helps, as no fence begins there.
-/

namespace Gamebook

namespace Document

open Text (Pattern Place)

/-! ## The first opening -/

/-- A text goes on with a line break. -/
def BreaksLine (t : Text) : Prop := ∃ c ∈ t.head?, isNewline c = true

/-- The first opening of a document that a line break follows stands behind `before`. -/
structure IsFirstOpening (document before rest : Text) : Prop where
  eq : document = before ++ (opening ++ rest)
  breaksLine : BreaksLine rest
  first : ∀ u v, document = u ++ (opening ++ v) → BreaksLine v → before.length ≤ u.length

theorem IsFirstOpening.unique {document before before' rest rest' : Text}
    (h : IsFirstOpening document before rest) (h' : IsFirstOpening document before' rest') :
    before = before' ∧ rest = rest' := by
  have hlength : before.length = before'.length :=
    Nat.le_antisymm (h.first _ _ h'.eq h'.breaksLine) (h'.first _ _ h.eq h.breaksLine)
  obtain ⟨hbefore, hrest⟩ := List.append_inj (h.eq.symm.trans h'.eq) hlength
  exact ⟨hbefore, List.append_cancel_left hrest⟩

/-- The first opening of a document without its first character, which began none. -/
theorem IsFirstOpening.tail {document before rest : Text} {c : Char}
    (h : IsFirstOpening (c :: document) (c :: before) rest) :
    IsFirstOpening document before rest where
  eq := (List.cons.inj h.eq).2
  breaksLine := h.breaksLine
  first u v hdocument hv :=
    Nat.le_of_succ_le_succ (h.first (c :: u) v (congrArg (c :: ·) hdocument) hv)

/-- A document has a first opening, or none. -/
theorem exists_isFirstOpening_or (document : Text) :
    (∃ before rest, IsFirstOpening document before rest)
      ∨ ∀ u v, document = u ++ (opening ++ v) → ¬BreaksLine v := by
  induction document with
  | nil =>
      refine .inr fun u v hdocument => ?_
      have hopening := (List.append_eq_nil_iff.mp (List.append_eq_nil_iff.mp hdocument.symm).2).1
      exact absurd hopening (by decide)
  | cons c document ih =>
      by_cases hhere : ∃ v, c :: document = opening ++ v ∧ BreaksLine v
      · obtain ⟨v, hdocument, hv⟩ := hhere
        exact .inl ⟨[], v, hdocument, hv, fun _ _ _ _ => Nat.zero_le _⟩
      · -- an opening behind the first character is one of the rest
        have hlater {u v : Text} (hdocument : c :: document = u ++ (opening ++ v))
            (hv : BreaksLine v) : ∃ u', u = c :: u' ∧ document = u' ++ (opening ++ v) := by
          cases u with
          | nil => exact absurd ⟨v, hdocument, hv⟩ hhere
          | cons d u =>
              obtain ⟨rfl, htail⟩ := List.cons.inj hdocument
              exact ⟨u, rfl, htail⟩
        rcases ih with ⟨before, rest, h⟩ | hnone
        · refine .inl ⟨c :: before, rest, congrArg (c :: ·) h.eq, h.breaksLine, ?_⟩
          intro u v hdocument hv
          obtain ⟨u', rfl, hu'⟩ := hlater hdocument hv
          exact Nat.succ_le_succ (h.first u' v hu' hv)
        · refine .inr fun u v hdocument hv => ?_
          obtain ⟨u', -, hu'⟩ := hlater hdocument hv
          exact hnone u' v hu' hv

/-- A block begins with an opening that a line break follows. -/
theorem IsBlock.breaksLine {block : Text} (h : IsBlock block) (rest : Text) :
    ∃ v, block ++ rest = opening ++ v ∧ BreaksLine v := by
  obtain ⟨breaks, body, hne, hbreaks, rfl⟩ := h
  obtain ⟨b, breaks, rfl⟩ := List.exists_cons_of_ne_nil hne
  exact ⟨b :: breaks ++ (body ++ fence) ++ rest, by simp, b, rfl, hbreaks b (by simp)⟩

/-! ## The cut at the first opening -/

theorem cutHere?_opening (rest : Text) (h : BreaksLine rest) :
    cutHere? (opening ++ rest)
      = (Text.cutAt? fence (rest.dropWhile isNewline)).map fun r =>
        ⟨[], rest.takeWhile isNewline, r.1, r.2⟩ := by
  obtain ⟨c, hc, hnewline⟩ := h
  obtain ⟨t, rfl⟩ := List.head?_eq_some_iff.mp hc
  rw [cutHere?, Text.after?_append]
  dsimp only
  rw [List.span_eq_takeWhile_dropWhile, List.takeWhile_cons_of_pos hnewline]

/-- No opening overlaps another one. -/
theorem opening_infix_tail {rest : Text} (h : opening <:+: opening.tail ++ rest) :
    opening <:+: rest := by
  have hskip {c d : Char} {t : Text} (hd : d ≠ '`') (h : opening <:+: c :: '`' :: d :: t) :
      opening <:+: '`' :: d :: t := by
    rcases List.infix_cons_iff.mp h with hstart | h
    · have := (List.cons_prefix_cons.mp (List.cons_prefix_cons.mp hstart).2).2
      exact absurd (List.cons_prefix_cons.mp this).1.symm hd
    · exact h
  have hletters := hskip (by decide) h
  rcases List.infix_cons_iff.mp hletters with hstart | hletters
  · exact absurd (List.cons_prefix_cons.mp (List.cons_prefix_cons.mp hstart).2).1 (by decide)
  · exact Text.infix_of_infix_append (u := "definitions".toList) (by decide) hletters

/-- **A document with an opening is cut at the first one or not at all.** -/
theorem cut?_of_firstOpening {document before rest : Text}
    (h : IsFirstOpening document before rest) :
    cut? document = (Text.cutAt? fence (rest.dropWhile isNewline)).map fun r =>
      ⟨before, rest.takeWhile isNewline, r.1, r.2⟩ := by
  induction before generalizing document with
  | nil =>
      obtain rfl : document = opening ++ rest := h.eq
      show cut? ('`' :: (opening.tail ++ rest)) = _
      rw [cut?]
      have hhere := cutHere?_opening rest h.breaksLine
      rw [show opening ++ rest = '`' :: (opening.tail ++ rest) from rfl] at hhere
      rw [hhere]
      cases hcut : Text.cutAt? fence (rest.dropWhile isNewline) with
      | some r => rfl
      | none =>
          -- a later opening would begin with a fence that closes this one
          have hnone : cut? (opening.tail ++ rest) = none := by
            refine cut?_eq_none_iff.mpr fun block hblock hin => ?_
            obtain ⟨v, hv, -⟩ := hblock.breaksLine []
            rw [List.append_nil] at hv
            have hopening : opening <:+: block := by
              rw [hv]
              exact (List.prefix_append opening v).isInfix
            obtain ⟨u, w, hrest⟩ := opening_infix_tail (hopening.trans hin)
            have hfence := fence_infix_dropWhile u ("definitions".toList ++ w)
            rw [show u ++ (fence ++ ("definitions".toList ++ w)) = rest by
              rw [← hrest, List.append_assoc]; rfl] at hfence
            have hsome := Text.isSome_cutAt?_iff.mpr hfence
            rw [hcut] at hsome
            exact absurd hsome (by simp)
          simp [hnone]
  | cons c before ih =>
      obtain rfl : document = c :: (before ++ (opening ++ rest)) := h.eq
      have hhere : cutHere? (c :: (before ++ (opening ++ rest))) = none := by
        refine Option.eq_none_iff_forall_ne_some.mpr fun cut hcut => ?_
        obtain ⟨-, hdocument, hblock⟩ := cutHere?_eq_some hcut
        obtain ⟨v, hv, hline⟩ := hblock.breaksLine cut.after
        have := h.first [] v (hdocument.trans hv) hline
        exact absurd this (by simp)
      rw [cut?, hhere]
      dsimp only
      rw [ih h.tail, Option.map_map]
      rfl

/-- A document without an opening is not cut. -/
theorem cut?_of_noOpening {document : Text}
    (h : ∀ u v, document = u ++ (opening ++ v) → ¬BreaksLine v) : cut? document = none := by
  refine cut?_eq_none_iff.mpr fun block hblock hin => ?_
  obtain ⟨u, w, hdocument⟩ := hin
  obtain ⟨v, hv, hline⟩ := hblock.breaksLine w
  exact h u v (by rw [← hdocument, List.append_assoc, hv]) hline

/-! ## What a cut is -/

/-- A document is cut at the first opening, behind all the line breaks that follow it and
before the first fence that comes after them. -/
structure IsCut (document : Text) (cut : Cut) : Prop where
  isFirstOpening : IsFirstOpening document cut.before
    (cut.breaks ++ (cut.body ++ (fence ++ cut.after)))
  isNewline : ∀ c ∈ cut.breaks, isNewline c = true
  maximal : ∀ c ∈ (cut.body ++ fence).head?, Document.isNewline c = false
  first : ∀ u v, cut.body ++ (fence ++ cut.after) = u ++ (fence ++ v) →
    cut.body.length ≤ u.length

/-- The line breaks of a cut are all that follow the opening. -/
theorem IsCut.span {document : Text} {cut : Cut} (h : IsCut document cut) :
    (cut.breaks ++ (cut.body ++ (fence ++ cut.after))).takeWhile Document.isNewline = cut.breaks
      ∧ (cut.breaks ++ (cut.body ++ (fence ++ cut.after))).dropWhile Document.isNewline
        = cut.body ++ (fence ++ cut.after) := by
  have hstop : ∀ c ∈ (cut.body ++ (fence ++ cut.after)).head?, Document.isNewline c = false := by
    intro c hc
    refine h.maximal c ?_
    cases hbody : cut.body with
    | nil => rwa [hbody] at hc
    | cons d body => rwa [hbody] at hc
  have hspan := Text.span_append h.isNewline hstop
  rw [List.span_eq_takeWhile_dropWhile, Prod.mk.injEq] at hspan
  exact hspan

theorem cut?_eq_some_iff {document : Text} {cut : Cut} :
    cut? document = some cut ↔ IsCut document cut := by
  constructor
  · intro hcut
    rcases exists_isFirstOpening_or document with ⟨before, rest, hfirst⟩ | hnone
    · rw [cut?_of_firstOpening hfirst] at hcut
      obtain ⟨⟨body, after⟩, hfence, rfl⟩ := Option.map_eq_some_iff.mp hcut
      obtain ⟨hrest, hleast⟩ := Text.cutAt?_eq_some_iff.mp hfence
      have hwhole : rest = rest.takeWhile isNewline ++ (body ++ (fence ++ after)) := by
        rw [← hrest, List.takeWhile_append_dropWhile]
      rw [hrest] at hleast
      refine ⟨?_, fun c hc => List.mem_takeWhile_imp hc, ?_, hleast⟩
      · rwa [← hwhole]
      · intro c hc
        have hhead := List.head?_dropWhile_not isNewline rest
        rw [hrest, ← List.append_assoc, List.head?_append, Option.mem_def.mp hc] at hhead
        simpa using hhead
    · rw [cut?_of_noOpening hnone] at hcut
      exact absurd hcut (by simp)
  · intro h
    obtain ⟨hbreaks, hrest⟩ := h.span
    rw [cut?_of_firstOpening h.isFirstOpening, hbreaks, hrest,
      Text.cutAt?_eq_some_iff.mpr ⟨rfl, h.first⟩]
    rfl

/-- **A document is cut exactly if a fence follows the line breaks of its first opening.** -/
theorem exists_cut?_iff {document : Text} :
    (∃ cut, cut? document = some cut)
      ↔ ∃ before rest, IsFirstOpening document before rest
        ∧ fence <:+: rest.dropWhile isNewline := by
  constructor
  · rintro ⟨cut, hcut⟩
    have h := cut?_eq_some_iff.mp hcut
    refine ⟨_, _, h.isFirstOpening, ?_⟩
    rw [h.span.2]
    exact ⟨cut.body, cut.after, by simp⟩
  · rintro ⟨before, rest, hfirst, hfence⟩
    obtain ⟨r, hr⟩ := Option.isSome_iff_exists.mp (Text.isSome_cutAt?_iff.mpr hfence)
    exact ⟨_, by rw [cut?_of_firstOpening hfirst, hr]; rfl⟩

/-! ## The cut as a pattern -/

/-- A block as a pattern: an opening, a run of line breaks, and a body up to the next fence. -/
def blockPattern : Pattern :=
  (Pattern.word opening).andThen ((Pattern.oneOrMore (.one isNewline)).andThen
    ((Pattern.group (.many false (.one fun _ => true))).andThen (.word fence)))

/-- A body can only end where a fence stands, and no fence begins with a line break. -/
theorem first?_lineBreaks (s : Place) :
    ((Pattern.many true (.one isNewline)).andThen
        ((Pattern.group (.many false (.one fun _ => true))).andThen (.word fence))).first? s
      = (Text.cutAt? fence (s.rest.dropWhile isNewline)).map fun r =>
        s.after (s.rest.takeWhile isNewline ++ (r.1 ++ fence)) r.2 [r.1] := by
  rw [Pattern.first?_run_andThen, Pattern.first?_until, Place.rest_after]
  · simp only [Place.after_after, List.nil_append]
  · intro u t hrest hu hnone
    rw [Pattern.first?_until, Option.map_eq_none_iff] at hnone ⊢
    rw [Place.rest_after] at hnone ⊢
    refine Option.eq_none_iff_forall_ne_some.mpr fun r hr => ?_
    have hfence := fence_infix_dropWhile (u ++ r.1) r.2
    rw [List.append_assoc, ← Text.eq_append_of_cutAt? hr, ← hrest] at hfence
    have hsome := Text.isSome_cutAt?_iff.mpr hfence
    rw [hnone] at hsome
    exact absurd hsome (by simp)

theorem first?_blockPattern (s : Place) :
    blockPattern.first? s
      = (cutHere? s.rest).map fun cut => s.after cut.block cut.after [cut.body] := by
  rw [blockPattern, Pattern.first?_word_andThen, cutHere?]
  cases hafter : Text.after? opening s.rest with
  | none => rfl
  | some rest =>
      dsimp only
      rw [Option.bind_some, Pattern.oneOrMore, Pattern.first?, Pattern.ends_andThen_assoc,
        ← Pattern.first?, Pattern.first?_andThen, List.span_eq_takeWhile_dropWhile]
      cases rest with
      | nil => rfl
      | cons c t =>
          rw [Pattern.ends_one_cons rfl]
          cases hc : isNewline c with
          | false => simp [hc]
          | true =>
              rw [if_pos rfl, List.findSome?_singleton, first?_lineBreaks, Place.rest_after,
                List.takeWhile_cons_of_pos hc, List.dropWhile_cons_of_pos hc]
              dsimp only
              rw [Option.map_map]
              congr 1
              funext r
              simp [Cut.block]

/-- **The cut of a document is what the pattern of a block finds in it**, with the body as the
group. -/
theorem search?_blockPattern (before : Option Char) (t : Text) :
    (blockPattern.search? before t).map (fun r => (r.1, r.2.groups, r.2.rest))
      = (cut? t).map fun cut => (cut.before, [cut.body], cut.after) := by
  induction t generalizing before with
  | nil =>
      rw [Pattern.search?, first?_blockPattern]
      rfl
  | cons c t ih =>
      rw [Pattern.search?, first?_blockPattern, cut?]
      cases hhere : cutHere? (c :: t) with
      | some cut => simp [(cutHere?_eq_some hhere).1, Place.after]
      | none =>
          simp only [Option.map_none, Option.map_map]
          have hlater := congrArg
            (Option.map fun r : Text × List Text × Text => (c :: r.1, r.2)) (ih (some c))
          rw [Option.map_map, Option.map_map] at hlater
          exact hlater

end Document

namespace Split

/-- Splits a document with any decoder for the body of its block. -/
def ofDocumentBy (decode : Text → Except DecodeError Decoded) (document : Text) :
    Except DecodeError Split :=
  match Document.cut? document with
  | none => .ok ⟨Text.trim document, [], none, []⟩
  | some cut =>
    let narrative := Text.trim (cut.before ++ cut.after)
    match decode cut.body with
    | .ok d => .ok ⟨narrative, d.glossary, none, d.entryErrors⟩
    | .error e => if e.isContained then .ok ⟨narrative, [], some e, []⟩ else .error e

/--
**A document is split exactly at its block.**

There is a block if, and only if, a closing fence follows the line breaks behind the first
opening. It is the one that the pattern of a block finds: it begins at that opening, all line
breaks there belong to it, and it ends at the first fence behind them. The decoder is asked
for its body and nothing else, and the narrative is the text around the block, trimmed,
whatever the decoder makes of the body; only a fault that is not contained leaves no narrative
at all. A document without a block is its own narrative, and no decoder is asked.
-/
theorem ofDocument_exact (document : Text) :
    ofDocument document = ofDocumentBy Glossary.decode document
      ∧ (Document.blockPattern.search? none document).map
          (fun r => (r.1, r.2.groups, r.2.rest))
        = (Document.cut? document).map (fun cut => (cut.before, [cut.body], cut.after))
      ∧ ((∃ cut, Document.cut? document = some cut)
        ↔ ∃ before rest, Document.IsFirstOpening document before rest
          ∧ Document.fence <:+: rest.dropWhile Document.isNewline)
      ∧ (∀ cut, Document.cut? document = some cut ↔ Document.IsCut document cut)
      ∧ (Document.cut? document = none → ∀ decode,
        ofDocumentBy decode document = .ok ⟨Text.trim document, [], none, []⟩)
      ∧ ∀ cut, Document.cut? document = some cut → ∀ decode,
        (∀ d, decode cut.body = .ok d → ofDocumentBy decode document
          = .ok ⟨Text.trim (cut.before ++ cut.after), d.glossary, none, d.entryErrors⟩)
        ∧ ∀ e, decode cut.body = .error e → ofDocumentBy decode document
          = if e.isContained then .ok ⟨Text.trim (cut.before ++ cut.after), [], some e, []⟩
            else .error e := by
  refine ⟨rfl, Document.search?_blockPattern none document, Document.exists_cut?_iff,
    fun cut => Document.cut?_eq_some_iff, fun hcut decode => ?_, fun cut hcut decode => ⟨?_, ?_⟩⟩
  · rw [ofDocumentBy, hcut]
  · intro d hd
    rw [ofDocumentBy, hcut]
    dsimp only
    rw [hd]
  · intro e he
    rw [ofDocumentBy, hcut]
    dsimp only
    rw [he]

/-- A block that is opened twice, the first time in the middle of a line, and whose closing fence
is longer than it has to be. -/
def hallAndVault : Text :=
  "Hall ```definitions\r\n\nA: b\n````\n```definitions\nB: c\n```".toList

theorem ofDocument_exact_hallAndVault :
    ∃ cut, Document.cut? hallAndVault = some cut
      ∧ cut.before = "Hall ".toList ∧ cut.breaks = "\r\n\n".toList ∧ cut.body = "A: b\n".toList
      ∧ cut.after = "`\n```definitions\nB: c\n```".toList
      ∧ Document.IsCut hallAndVault cut
      ∧ ∀ decode d, decode cut.body = .ok d → ofDocumentBy decode hallAndVault
        = .ok ⟨"Hall `\n```definitions\nB: c\n```".toList, d.glossary, none, d.entryErrors⟩ := by
  have hcut : Document.cut? hallAndVault
      = some ⟨"Hall ".toList, "\r\n\n".toList, "A: b\n".toList,
        "`\n```definitions\nB: c\n```".toList⟩ := rfl
  obtain ⟨-, -, -, hiff, -, houtcome⟩ := ofDocument_exact hallAndVault
  refine ⟨_, hcut, rfl, rfl, rfl, rfl, (hiff _).mp hcut, fun decode d hd => ?_⟩
  rw [(houtcome _ hcut decode).1 d hd]
  rfl

/-- A block in which a truth value is tagged as one and is no word for it. -/
def greenOrc : Text := "# Hall\n```definitions\nOrc: !!bool green\n```\nA door.".toList

/-- The narrative around a block is lost when the decoder fails with a fault that is not
contained. -/
theorem narrative_lost_greenOrc :
    ∃ cut, Document.cut? greenOrc = some cut
      ∧ Text.trim (cut.before ++ cut.after) = "# Hall\n\nA door.".toList
      ∧ ¬∃ split, ofDocument greenOrc = .ok split := by
  refine ⟨⟨"# Hall\n".toList, "\n".toList, "Orc: !!bool green\n".toList, "\nA door.".toList⟩, rfl,
    rfl, ?_⟩
  rintro ⟨split, h⟩
  have hok : (ofDocument greenOrc).isOk = false := by decide +kernel
  rw [h] at hok
  exact absurd hok (by simp [Except.isOk, Except.toBool])

end Split

end Gamebook
