import Gamebook.Proofs.Html.CharacterReference
import Gamebook.Proofs.Html.Fragment
import Gamebook.Proofs.Html.Refusal
import Gamebook.Proofs.Html.Tag

/-!
# The start tags of a fragment

A fragment is a sequence of texts and of what stands between them (`Source`): tags, scripts and
styles with their contents, comments, and whatever else ends at its first closing bracket. A start
tag is any text that is read as one whatever follows it, so a value between quotes may hold all
characters but its quote. The start tags that a reader meets in such a fragment are those that
it is made of (`Source.IsWellFormed.startTags`).

`Meets` is what the proof carries from the end of a fragment to its beginning: something that holds
of the events from a place on. `Reads` says it of the start tags and nothing about other events,
since text may be cut into events in many ways.
-/

namespace Gamebook.Html

/-- The start tags among events. -/
def startTagsOf (es : List Event) : List StartTag :=
  es.filterMap fun
    | .startTag t => some t
    | _ => none

/-- The start tags that a reader meets in a fragment, in order. -/
def startTags (fragment : Text) : Except HtmlError (List StartTag) :=
  (events fragment).map startTagsOf

/-- A reader that has come to a text meets events in it that have a property. -/
def Meets (p : List Event → Prop) (t : Text) : Prop :=
  ∀ fuel, t.length < fuel → ∃ es, eventsFrom false fuel t = .ok es ∧ p es

/-- A reader that has come to a text meets these start tags in it. -/
def Reads (t : Text) (ts : List StartTag) : Prop := Meets (fun es => startTagsOf es = ts) t

/-- Text between tags: no tag begins in it, what looks like a reference with a number is one, and
its number can be read. -/
structure IsRunning (t : Text) : Prop where
  angle : '<' ∉ t
  numbered : ∀ u v, t = u ++ '&' :: '#' :: v →
    ∃ w rest, IsReference ('&' :: '#' :: w) ∧ v = w ++ rest
  short : ∀ e, ¬HoldsLongNumber t e

variable {c : Char} {t u v rest after : Text} {ts : List StartTag} {es : List Event}
  {p q : List Event → Prop}

theorem startTagsOf_append (es es' : List Event) :
    startTagsOf (es ++ es') = startTagsOf es ++ startTagsOf es' := List.filterMap_append ..

theorem Meets.events (h : Meets p t) : ∃ es, events t = .ok es ∧ p es :=
  h (2 * t.length + 4) (by omega)

theorem Reads.startTags (h : Reads t ts) : startTags t = .ok ts := by
  obtain ⟨es, hes, htags⟩ := Meets.events h
  rw [Html.startTags, hes, ← htags]
  rfl

theorem Meets.nil (h : p []) : Meets p [] := by
  intro fuel hfuel
  obtain ⟨fuel, rfl⟩ : ∃ n, fuel = n + 1 := Nat.exists_eq_succ_of_ne_zero (by omega)
  exact ⟨[], rfl, h⟩

theorem reads_nil : Reads [] [] := Meets.nil rfl

/-- A step that leaves a text puts its events in front of those of the text. -/
theorem eventsFrom_events (hstep : stepAt false c rest = .ok (.events es after))
    (hraw : opensRaw? es = none) (fuel : Nat) :
    eventsFrom false (fuel + 1) (c :: rest) = (eventsFrom false fuel after).map (es ++ ·) := by
  rw [eventsFrom_cons, hstep]
  show goOn false fuel c rest (.events es after) = _
  rw [goOn, hraw]
  dsimp only
  cases eventsFrom false fuel after <;> rfl

/-- What a step that leaves a text makes of a property of the events in the text. -/
theorem Meets.step (hstep : stepAt false c rest = .ok (.events es after))
    (hraw : opensRaw? es = none) (hafter : after <:+ rest) (h : Meets p after)
    (hpq : ∀ es', p es' → q (es ++ es')) : Meets q (c :: rest) := by
  intro fuel hfuel
  obtain ⟨fuel, rfl⟩ : ∃ n, fuel = n + 1 := Nat.exists_eq_succ_of_ne_zero (by omega)
  have hlength := hafter.length_le
  rw [List.length_cons] at hfuel
  obtain ⟨es', hes', hp⟩ := h fuel (by omega)
  refine ⟨es ++ es', ?_, hpq es' hp⟩
  rw [eventsFrom_events hstep hraw, hes']
  rfl

/-- What a tag makes of a property of the events behind it. -/
theorem Meets.tag {tag : Tag} (htag : tag.IsOrdinary) (h : Meets p rest)
    (hpq : ∀ es, p es → q (tag.event :: es)) : Meets q (tag.write ++ rest) := by
  intro fuel hfuel
  obtain ⟨fuel, rfl⟩ : ∃ n, fuel = n + 1 := Nat.exists_eq_succ_of_ne_zero (by omega)
  have hwritten : 0 < tag.write.length := by cases tag <;> exact Nat.succ_pos _
  rw [List.length_append] at hfuel
  obtain ⟨es, hes, hp⟩ := h fuel (by omega)
  refine ⟨tag.event :: es, ?_, hpq es hp⟩
  rw [eventsFrom_tag htag, hes]
  rfl

/-- A step that leaves a text adds its start tags to those of the text. -/
theorem Reads.step (hstep : stepAt false c rest = .ok (.events es after))
    (hraw : opensRaw? es = none) (hafter : after <:+ rest) (h : Reads after ts) :
    Reads (c :: rest) (startTagsOf es ++ ts) := by
  refine Meets.step hstep hraw hafter h fun es' htags => ?_
  rw [startTagsOf_append, htags]

/-- A tag adds its own event. -/
theorem Reads.tag {tag : Tag} (htag : tag.IsOrdinary) (h : Reads rest ts) :
    Reads (tag.write ++ rest) (startTagsOf [tag.event] ++ ts) := by
  refine Meets.tag htag h fun es htags => ?_
  rw [← htags, ← startTagsOf_append]
  rfl

/-- The contents of a script or a style are passed over. -/
theorem Reads.raw {name content behind : Text}
    (hstep : stepAt false c rest = .ok (.events es after)) (hraw : opensRaw? es = some name)
    (htake : takeRaw? name after = some (content, behind)) (hafter : after <:+ rest)
    (h : Reads behind ts) : Reads (c :: rest) (startTagsOf es ++ ts) := by
  intro fuel hfuel
  obtain ⟨fuel, rfl⟩ : ∃ n, fuel = n + 1 := Nat.exists_eq_succ_of_ne_zero (by omega)
  have hlength := ((takeRaw?_suffix htake).trans hafter).length_le
  rw [List.length_cons] at hfuel
  obtain ⟨es', hes', htags⟩ := h fuel (by omega)
  refine ⟨es ++ [.text content, .endTag name] ++ es', ?_, ?_⟩
  · rw [eventsFrom_cons, hstep]
    show goOn false fuel c rest (.events es after) = _
    rw [goOn, hraw]
    dsimp only
    rw [htake]
    dsimp only
    rw [hes']
    rfl
  · show startTagsOf (es ++ [.text content, .endTag name] ++ es') = _
    rw [startTagsOf_append, startTagsOf_append, htags]
    exact congrArg (· ++ ts) (List.append_nil (startTagsOf es))

/-! ## Steps -/

theorem stepAt_angle (t : Text) : stepAt false '<' t = markup t := by
  unfold stepAt
  rw [if_pos (by decide)]

theorem stepAt_number (t : Text) : stepAt false '&' ('#' :: t) = numberReference t := by
  rw [stepAt, if_neg (by decide), if_pos (by decide)]

theorem stepAt_name (ht : ∀ more, t ≠ '#' :: more) :
    stepAt false '&' t = .ok (nameReference false t) := by
  rw [stepAt, if_neg (by decide), if_pos (by decide)]
  · rfl
  · exact ht

theorem stepAt_text (hangle : c ≠ '<') (hamp : c ≠ '&') :
    stepAt false c rest = .ok (.events [.text ((c :: rest).span fun x => x != '<' && x != '&').1]
      ((c :: rest).span fun x => x != '<' && x != '&').2) := by
  unfold stepAt
  rw [if_neg (by simpa using hangle), if_neg (by simpa using hamp)]
  rfl

/-! ## Text -/

/-- A step that meets no start tag. -/
def Step.IsQuiet : Step → Prop
  | .events es _ => startTagsOf es = [] ∧ opensRaw? es = none
  | .unfinished => False
  | .stop es _ => startTagsOf es = []

/-- The figures of a number, whatever its value, and what follows them. -/
theorem quiet_of_number {digits ds : Text} {value : Except NumeralError Nat} {step : Step}
    (h : (match digits.drop ds.length with
      | next :: _ =>
        if ds.isEmpty || Text.isHexDigit next then numberReference.bail t
        else
          match value with
          | .error e => .error (.numeral e)
          | .ok n =>
            let rest := digits.drop ds.length
            .ok (.events [.text [numberedChar n]] (if next == ';' then rest.tail else rest))
      | [] => numberReference.bail t) = .ok step) : step.IsQuiet := by
  have hbail (h : numberReference.bail t = .ok step) : step.IsQuiet := by
    unfold numberReference.bail at h
    split at h <;> (obtain rfl := Except.ok.inj h; exact rfl)
  split at h
  · split at h
    · exact hbail h
    · split at h
      · exact absurd h (by simp)
      · obtain rfl := Except.ok.inj h
        exact ⟨rfl, rfl⟩
  · exact hbail h

theorem numberReference_quiet {step : Step} (h : numberReference t = .ok step) : step.IsQuiet := by
  unfold numberReference at h
  cases t with
  | nil => exact @quiet_of_number [] [] [] (.ok 0) step h
  | cons x t =>
      by_cases hx : (x == 'x' || x == 'X') = true
      · simp only [hx, if_true] at h
        exact @quiet_of_number (x :: t) t (t.takeWhile Text.isHexDigit) (.ok _) step h
      · simp only [hx, if_false, Bool.false_eq_true] at h
        exact @quiet_of_number (x :: t) (x :: t) ((x :: t).takeWhile Text.isAsciiDigit)
          (Number.read _) step h

theorem nameReference_quiet (final : Bool) (t : Text) : (nameReference final t).IsQuiet := by
  have hcut (t : Text) : (nameReference.cutOff final t).IsQuiet := by
    unfold nameReference.cutOff
    split <;> exact rfl
  unfold nameReference
  split
  · exact rfl
  · split
    · dsimp only
      split
      · exact ⟨rfl, rfl⟩
      · split
        · split
          · exact hcut _
          · exact ⟨rfl, rfl⟩
        · exact hcut _
    · exact ⟨rfl, rfl⟩

theorem stepAt_quiet {final : Bool} {step : Step} (hc : c ≠ '<')
    (h : stepAt final c rest = .ok step) : step.IsQuiet := by
  unfold stepAt at h
  rw [if_neg (by simpa using hc)] at h
  split at h
  · split at h
    · exact numberReference_quiet h
    · obtain rfl := Except.ok.inj h
      exact nameReference_quiet final rest
  · obtain rfl := Except.ok.inj h
    exact ⟨rfl, rfl⟩

/-- No start tag is met where no angle bracket opens one. -/
theorem startTagsOf_eq_nil {final : Bool} {fuel : Nat} (ht : '<' ∉ t)
    (h : eventsFrom final fuel t = .ok es) : startTagsOf es = [] := by
  induction fuel generalizing final t es with
  | zero =>
      obtain rfl := Except.ok.inj h
      rfl
  | succ fuel ih =>
      cases t with
      | nil =>
          obtain rfl := Except.ok.inj h
          rfl
      | cons c rest =>
          rw [eventsFrom_cons] at h
          obtain ⟨step, hstep, h⟩ := Fallible.bind_eq_ok_iff.mp h
          have hquiet := stepAt_quiet (fun he => ht (by simp [he])) hstep
          have hwithin := stepAt_within final c rest
          rw [hstep] at hwithin
          have hangle {after : Text} (hafter : after ∈ step.rest?) : '<' ∉ after :=
            fun hm => ht ((hwithin after hafter).subset hm)
          cases step with
          | unfinished => exact absurd hquiet id
          | events es' after =>
              obtain ⟨htags, hraw⟩ := hquiet
              rw [goOn, hraw] at h
              obtain ⟨later, hlater, h⟩ := Fallible.bind_eq_ok_iff.mp h
              obtain rfl := Except.ok.inj h
              rw [startTagsOf_append, htags, ih (hangle rfl) hlater]
              rfl
          | stop es' after =>
              rw [goOn] at h
              split at h
              · obtain rfl := Except.ok.inj h
                rw [startTagsOf_append, show startTagsOf es' = [] from hquiet]
                rfl
              · obtain ⟨later, hlater, h⟩ := Fallible.bind_eq_ok_iff.mp h
                obtain rfl := Except.ok.inj h
                rw [startTagsOf_append, show startTagsOf es' = [] from hquiet,
                  ih (hangle rfl) hlater]
                rfl

/-- Text at the end of a fragment holds no start tag, whatever references stand in it. -/
theorem reads_last (ht : '<' ∉ t) (hshort : ∀ e, ¬HoldsLongNumber t e) : Reads t [] := by
  intro fuel _
  cases hevents : eventsFrom false fuel t with
  | ok es => exact ⟨es, rfl, startTagsOf_eq_nil ht hevents⟩
  | error e =>
      -- what makes a reader fail is a long number or a marked section
      cases refuses_of_eventsFrom hevents with
      | number h => exact absurd h (hshort _)
      | markedSection hrest _ => exact absurd (hrest.subset (by simp)) ht

theorem IsRunning.of_suffix (hu : IsRunning u) (h : v <:+ u) : IsRunning v := by
  obtain ⟨x, rfl⟩ := h
  refine ⟨fun hm => hu.angle (by simp [hm]), fun a b hv => hu.numbered (x ++ a) b (by simp [hv]),
    fun e he => hu.short e (he.mono (List.infix_append' x v [] |> fun h => by simpa using h))⟩

/-- Text without angle brackets and ampersands. -/
theorem isRunning_of_not_mem (hangle : '<' ∉ t) (hamp : '&' ∉ t) : IsRunning t := by
  refine ⟨hangle, fun u v h => absurd (by simp [h]) hamp, ?_⟩
  rintro e ⟨ds, -, -, hin, -⟩
  exact hamp (hin.subset (List.mem_cons_self ..))

/-- A run of characters ends at a character of another kind, if not before. -/
theorem span_before {p : Char → Bool} {d : Char} (hd : p d = false) (u rest : Text) :
    (u ++ d :: rest).span p = (u.takeWhile p, u.dropWhile p ++ d :: rest) := by
  have hrun : ∀ c ∈ u.takeWhile p, p c = true := fun c hc => List.mem_takeWhile_imp hc
  have hstop : ∀ c ∈ (u.dropWhile p ++ d :: rest).head?, p c = false := by
    intro c hc
    have hnot := List.head?_dropWhile_not p u
    cases hdrop : u.dropWhile p with
    | nil =>
        rw [hdrop] at hc
        obtain rfl := Option.some.inj hc
        exact hd
    | cons e after =>
        rw [hdrop] at hc hnot
        obtain rfl := Option.some.inj hc
        simpa using hnot
  have hspan := Text.span_append hrun hstop
  rwa [← List.append_assoc, List.takeWhile_append_dropWhile] at hspan

/-- A reference with a name ends before a tag. -/
theorem nameReference_before (u rest : Text) :
    ∃ text after, after <:+ u
      ∧ nameReference false (u ++ '<' :: rest) = .events [.text text] (after ++ '<' :: rest) := by
  cases u with
  | nil =>
      refine ⟨['&'], [], List.suffix_rfl, ?_⟩
      rw [List.nil_append, nameReference, if_neg (by decide)]
  | cons c u =>
      rw [List.cons_append, nameReference]
      split
      · rw [← List.cons_append, span_before (by decide)]
        dsimp only
        have hsuffix := @List.dropWhile_suffix _ (c :: u) isNameChar
        cases hdrop : (c :: u).dropWhile isNameChar with
        | nil =>
            refine ⟨namedText ((c :: u).takeWhile isNameChar), [], List.nil_suffix, ?_⟩
            rw [List.nil_append]
            dsimp only
            rw [if_neg (by decide)]
        | cons e after =>
            rw [hdrop] at hsuffix
            rw [List.cons_append]
            dsimp only
            split
            · exact ⟨_, after, (List.suffix_cons e after).trans hsuffix, rfl⟩
            · exact ⟨_, e :: after, hsuffix, rfl⟩
      · exact ⟨['&'], c :: u, List.suffix_rfl, rfl⟩

/-- A step in a text before a tag leaves an end of the text. -/
theorem stepAt_running (hu : IsRunning (c :: u)) (rest : Text) :
    ∃ text after, after <:+ u
      ∧ stepAt false c (u ++ '<' :: rest) = .ok (.events [.text text] (after ++ '<' :: rest)) := by
  have hangle : c ≠ '<' := by
    rintro rfl
    exact hu.angle (List.mem_cons_self ..)
  by_cases hc : c = '&'
  · subst hc
    have hname (hnumber : ∀ more, u ++ '<' :: rest ≠ '#' :: more) :
        ∃ text after, after <:+ u ∧ stepAt false '&' (u ++ '<' :: rest)
          = .ok (.events [.text text] (after ++ '<' :: rest)) := by
      obtain ⟨text, after, hafter, hread⟩ := nameReference_before u rest
      exact ⟨text, after, hafter, by rw [stepAt_name hnumber, hread]⟩
    cases u with
    | nil => exact hname (by simp)
    | cons x v =>
        by_cases hx : x = '#'
        · subst hx
          obtain ⟨w, behind, hw, rfl⟩ := hu.numbered [] v rfl
          have hbegin : '&' :: '#' :: w <:+: '&' :: '#' :: (w ++ behind) :=
            List.IsPrefix.isInfix ⟨behind, rfl⟩
          obtain ⟨d, hd⟩ := numberReference_of_reference hw
            (fun e he => hu.short e (he.mono hbegin)) (behind ++ '<' :: rest)
          refine ⟨[d], behind, (List.suffix_append w behind).trans (List.suffix_cons _ _), ?_⟩
          rw [List.cons_append, stepAt_number, List.append_assoc, hd]
        · exact hname fun more he => hx (List.cons.inj he).1
  · rw [stepAt_text hangle hc, ← List.cons_append, span_before (by decide)]
    refine ⟨_, _, ?_, rfl⟩
    rw [List.dropWhile_cons_of_pos (by
      rw [Bool.and_eq_true, bne_iff_ne, bne_iff_ne]
      exact ⟨hangle, hc⟩)]
    exact List.dropWhile_suffix _

/-- **Text before a tag holds no start tag.** -/
theorem IsRunning.reads (hu : IsRunning u) (hrest : ∀ c ∈ rest.head?, c = '<')
    (h : Reads rest ts) : Reads (u ++ rest) ts := by
  cases rest with
  | nil =>
      obtain ⟨es, hes, rfl⟩ := h 1 (by simp)
      obtain rfl : es = [] := (Except.ok.inj hes).symm
      rw [List.append_nil]
      exact reads_last hu.angle hu.short
  | cons d rest =>
      obtain rfl : d = '<' := hrest d rfl
      -- each step leaves an end of the text, and that is shorter
      generalize hn : u.length = n
      induction n using Nat.strongRecOn generalizing u with
      | ind n ih =>
          cases u with
          | nil => exact h
          | cons c u =>
              obtain ⟨text, after, hafter, hstep⟩ := stepAt_running hu rest
              have hlength : after.length < n := by
                have := hafter.length_le
                rw [← hn, List.length_cons]
                omega
              obtain ⟨before, rfl⟩ := hafter
              have hlater := ih after.length hlength
                (hu.of_suffix ((List.suffix_append before after).trans (List.suffix_cons _ _))) rfl
              exact hlater.step hstep rfl ⟨before, by rw [List.append_assoc]⟩

/-! ## Tags -/

/-- A text that is read as a start tag whatever follows it. -/
structure IsStartTag (w : Text) (t : StartTag) : Prop where
  brackets : ∃ body, w = '<' :: (body ++ ['>'])
  read : ∀ rest, stepAt false '<' (w.tail ++ rest) = .ok (.events [.startTag t] rest)

variable {st : StartTag} {w : Text}

theorem IsStartTag.eq_cons (hw : IsStartTag w st) : w = '<' :: w.tail := by
  obtain ⟨body, rfl⟩ := hw.brackets
  rfl

theorem IsStartTag.reads (hw : IsStartTag w st) (hraw : opensRaw? [.startTag st] = none)
    (h : Reads rest ts) : Reads (w ++ rest) (st :: ts) := by
  rw [hw.eq_cons]
  exact h.step (hw.read rest) hraw (List.suffix_append w.tail rest)

theorem IsStartTag.reads_raw {name content behind : Text} (hw : IsStartTag w st)
    (hraw : opensRaw? [.startTag st] = some name)
    (htake : takeRaw? name rest = some (content, behind)) (h : Reads behind ts) :
    Reads (w ++ rest) (st :: ts) := by
  rw [hw.eq_cons]
  exact h.raw (hw.read rest) hraw htake (List.suffix_append w.tail rest)

/-- A start tag with all its values between quotes. -/
structure QuotedTag where
  name : Text
  attributes : List Quoted
  blanks : Text
  selfClosing : Bool

/-- The text of a start tag. -/
def QuotedTag.write (q : QuotedTag) : Text :=
  '<' :: (q.name ++ (q.attributes.flatMap Quoted.write ++ (q.blanks ++ tagEnd q.selfClosing)))

/-- A start tag that is read as it is written. -/
structure QuotedTag.IsWellFormed (q : QuotedTag) : Prop where
  name : IsTagName q.name
  attributes : ∀ a ∈ q.attributes, a.IsWellFormed
  blanks : ∀ c ∈ q.blanks, c ∈ tagBlanks

/-- **A value between quotes may hold every character but its quote**: the tag is read with it,
whatever follows. -/
theorem QuotedTag.isStartTag {q : QuotedTag} (hq : q.IsWellFormed) {values : List (Text × Text)}
    (hvalues : readValues (q.attributes.map fun a => (a.key, some a.value)) = .ok values) :
    IsStartTag q.write ⟨Text.lower q.name, values, q.selfClosing⟩ := by
  have hend : ∃ e, tagEnd q.selfClosing = e ++ ['>'] := by
    cases q.selfClosing
    · exact ⟨[], rfl⟩
    · exact ⟨['/'], rfl⟩
  obtain ⟨e, he⟩ := hend
  refine ⟨⟨q.name ++ (q.attributes.flatMap Quoted.write ++ (q.blanks ++ e)), ?_⟩, fun rest => ?_⟩
  · rw [write, he]
    simp only [List.append_assoc]
  · have hread := StartTag.read_quoted hq.name hq.attributes hq.blanks q.selfClosing rest
    rw [hvalues] at hread
    obtain ⟨c, more, hname, hc, hinner⟩ := hq.name
    have hother : c ≠ '/' ∧ c ≠ '!' ∧ c ≠ '?' := by
      refine ⟨?_, ?_, ?_⟩ <;> (rintro rfl; exact absurd hc (by decide))
    have htext : q.write.tail ++ rest = q.name
        ++ (q.attributes.flatMap Quoted.write ++ (q.blanks ++ (tagEnd q.selfClosing ++ rest))) := by
      simp only [write, List.tail_cons, List.append_assoc]
    rw [stepAt_angle, htext]
    rw [hname, List.cons_append] at hread ⊢
    rw [markup]
    · rw [if_pos hc, hread]
      rfl
    · exact hother.1
    · exact hother.2.1
    · exact hother.2.2

/-! ## What stands between texts -/

/-- A stretch of a fragment between two texts. -/
inductive Part where
  /-- A start tag, as it is written and as it is read. -/
  | tag (w : Text) (t : StartTag)
  /-- The start tag of a script or a style, and its contents with their end tag. -/
  | raw (w : Text) (t : StartTag) (contents : Text)
  /-- An end tag, a declaration or an instruction. -/
  | bracketed (inner : Text)
  | comment (body : Text)

namespace Part

/-- The text of a part. -/
def text : Part → Text
  | tag w _ => w
  | raw w _ contents => w ++ contents
  | bracketed inner => '<' :: (inner ++ ['>'])
  | comment body => '<' :: '!' :: '-' :: '-' :: (body ++ ['-', '-', '>'])

/-- The start tag of a part. -/
def tag? : Part → Option (Text × StartTag)
  | tag w t => some (w, t)
  | raw w t _ => some (w, t)
  | bracketed _ => none
  | comment _ => none

/-- A part is read as what it is, whatever follows it. -/
def IsWellFormed : Part → Prop
  | tag w t => IsStartTag w t ∧ opensRaw? [.startTag t] = none
  | raw w t contents => IsStartTag w t ∧ opensRaw? [.startTag t] = some t.name
      ∧ (∃ body, contents = body ++ ['>'])
      ∧ ∀ rest, ∃ content, takeRaw? t.name (contents ++ rest) = some (content, rest)
  | bracketed inner => '>' ∉ inner ∧ ∃ es, startTagsOf es = [] ∧ opensRaw? es = none
      ∧ ∀ rest, markup (inner ++ '>' :: rest) = .ok (.events es rest)
  | comment body => ∀ rest, afterComment? (body ++ '-' :: '-' :: '>' :: rest) = some rest

variable {p : Part}

/-- Every part stands between angle brackets. -/
theorem IsWellFormed.brackets (hp : p.IsWellFormed) : ∃ body, p.text = '<' :: (body ++ ['>']) := by
  cases p with
  | tag w t => exact hp.1.brackets
  | raw w t contents =>
      obtain ⟨⟨⟨body, rfl⟩, -⟩, -, ⟨inner, rfl⟩, -⟩ := hp
      exact ⟨body ++ '>' :: inner, by simp [text]⟩
  | bracketed inner => exact ⟨inner, rfl⟩
  | comment body => exact ⟨'!' :: '-' :: '-' :: (body ++ ['-', '-']), by simp [text]⟩

end Part

/-- Markup without a start tag. -/
theorem Reads.markup (hmarkup : markup (t ++ rest) = .ok (.events es rest))
    (htags : startTagsOf es = []) (hraw : opensRaw? es = none) (h : Reads rest ts) :
    Reads ('<' :: (t ++ rest)) ts := by
  have hstep : stepAt false '<' (t ++ rest) = .ok (.events es rest) := by
    rw [stepAt_angle, hmarkup]
  have hreads := h.step hstep hraw (List.suffix_append t rest)
  rwa [htags, List.nil_append] at hreads

theorem markup_comment (h : afterComment? t = some rest) :
    Html.markup ('!' :: '-' :: '-' :: t) = .ok (.events [.gap] rest) := by
  rw [Html.markup, declaration, h]

/-- **A reader meets the start tag of a part and goes on behind it.** -/
theorem Part.IsWellFormed.reads {p : Part} (hp : p.IsWellFormed) (h : Reads rest ts) :
    Reads (p.text ++ rest) ((p.tag?.map Prod.snd).toList ++ ts) := by
  cases p with
  | tag w t => exact hp.1.reads hp.2 h
  | raw w t contents =>
      obtain ⟨hw, hraw, -, htake⟩ := hp
      obtain ⟨content, hcontent⟩ := htake rest
      rw [Part.text, List.append_assoc]
      exact hw.reads_raw hraw hcontent h
  | bracketed inner =>
      obtain ⟨-, es, htags, hraw, hmarkup⟩ := hp
      have hread := hmarkup rest
      rw [List.append_cons] at hread
      exact h.markup hread htags hraw
  | comment body =>
      have hread := markup_comment (hp rest)
      have htext : '!' :: '-' :: '-' :: (body ++ '-' :: '-' :: '>' :: rest)
          = '!' :: '-' :: '-' :: (body ++ ['-', '-', '>']) ++ rest := by simp
      rw [htext] at hread
      exact h.markup hread rfl rfl

/-! ## Fragments -/

/-- A fragment: each part behind the text before it, and the text behind the last one. -/
structure Source where
  parts : List (Text × Part)
  last : Text

namespace Source

/-- The text of a fragment. -/
def text (s : Source) : Text := (s.parts.flatMap fun p => p.1 ++ p.2.text) ++ s.last

/-- The start tags of a fragment, as they are written and as they are read. -/
def tags (s : Source) : List (Text × StartTag) := s.parts.filterMap fun p => p.2.tag?

/-- A fragment of which every part is read as what it is. -/
structure IsWellFormed (s : Source) : Prop where
  texts : ∀ p ∈ s.parts, IsRunning p.1
  parts : ∀ p ∈ s.parts, p.2.IsWellFormed
  last : IsRunning s.last

variable {p : Text × Part} {parts : List (Text × Part)} {last : Text}

theorem text_cons : text ⟨p :: parts, last⟩ = p.1 ++ (p.2.text ++ text ⟨parts, last⟩) := by
  simp only [text, List.flatMap_cons, List.append_assoc]

theorem tags_cons : tags ⟨p :: parts, last⟩ = p.2.tag?.toList ++ tags ⟨parts, last⟩ := by
  rw [tags, List.filterMap_cons]
  cases p.2.tag? <;> rfl

theorem isWellFormed_cons : IsWellFormed ⟨p :: parts, last⟩
    ↔ IsRunning p.1 ∧ p.2.IsWellFormed ∧ IsWellFormed ⟨parts, last⟩ := by
  constructor
  · rintro ⟨htexts, hparts, hlast⟩
    rw [List.forall_mem_cons] at htexts hparts
    exact ⟨htexts.1, hparts.1, htexts.2, hparts.2, hlast⟩
  · rintro ⟨htext, hpart, htexts, hparts, hlast⟩
    exact ⟨List.forall_mem_cons.mpr ⟨htext, htexts⟩,
      List.forall_mem_cons.mpr ⟨hpart, hparts⟩, hlast⟩

/-- **A reader meets the start tags that a fragment is made of**, and no others. -/
theorem IsWellFormed.startTags {s : Source} (hs : s.IsWellFormed) :
    startTags s.text = .ok (s.tags.map Prod.snd) := by
  obtain ⟨parts, last⟩ := s
  refine Reads.startTags ?_
  induction parts with
  | nil => exact reads_last hs.last.angle hs.last.short
  | cons p parts ih =>
      obtain ⟨htext, hpart, hrest⟩ := isWellFormed_cons.mp hs
      obtain ⟨body, hbody⟩ := hpart.brackets
      -- the text ends where the part begins, since that begins with a bracket
      have hbefore := htext.reads (by rw [hbody]; rintro c hc; exact (Option.some.inj hc).symm)
        (hpart.reads (ih hrest))
      rw [text_cons, tags_cons, List.map_append]
      cases htag : p.2.tag? <;> simpa [htag] using hbefore

end Source

end Gamebook.Html
