import Gamebook.Proofs.Annotation.Commute
import Gamebook.Proofs.Annotation.DiceTag
import Gamebook.Proofs.Table.Container
import Gamebook.Proofs.Text.Pattern
import Mathlib.Data.Nat.Find

/-!
# Which regions a rendered text has

A text is scanned for regions by hand like this: look for the first opening mark with a closing
mark anywhere behind it, go to the first of those closing marks, and add the paragraph tags
right before and right behind each of the two (`IsRegion`). What lies between gets a container
with the next number, what stands before stays, and the scan goes on behind the region
(`Scanned`).

`materialize_exact` says that this is what `materialize` does to every text, however its marks
are nested, repeated or left without a partner, and that a region is what the pattern of a region
takes. The relation speaks of the whole text and the scan of one place after another: they meet in
`IsRegion.take?_before`, which says that nothing is read at the places before the first region.
-/

namespace Gamebook.TableRegion

open Html (Reads StartTag Tag)
open Reference (IsDigits)
open Text (Pattern Piece Place scan)

variable {idStem t v word : Text} {k : Nat}

/-! ## Paragraph tags at a mark -/

/-- What a mark takes of the text before it: the start tag of a paragraph, or nothing if `before`
ends with none. -/
def IsParagraph (u before : Text) : Prop := u = paragraph ∨ u = [] ∧ ¬paragraph <:+ before

/-- What a mark takes of the text behind it. -/
def IsParagraphEnd (u behind : Text) : Prop := u = paragraphEnd ∨ u = [] ∧ ¬paragraphEnd <+: behind

theorem dropOptional_eq_iff :
    dropOptional word t = v ↔ ∃ u, t = u ++ v ∧ (u = word ∨ u = [] ∧ ¬word <+: v) := by
  constructor
  · intro h
    unfold dropOptional at h
    cases hafter : Text.after? word t with
    | some rest =>
        rw [hafter, Option.getD_some] at h
        exact ⟨word, by rw [Text.after?_eq_some.mp hafter, h], .inl rfl⟩
    | none =>
        rw [hafter, Option.getD_none] at h
        subst h
        refine ⟨[], rfl, .inr ⟨rfl, fun ⟨rest, hrest⟩ => ?_⟩⟩
        rw [Text.after?_eq_some.mpr hrest.symm] at hafter
        exact absurd hafter (by simp)
  · rintro ⟨u, rfl, rfl | ⟨rfl, hno⟩⟩
    · exact dropOptional_append u v
    · have hafter : Text.after? word v = none :=
        Option.eq_none_iff_forall_ne_some.mpr fun rest h =>
          hno ⟨rest, (Text.after?_eq_some.mp h).symm⟩
      rw [List.nil_append, dropOptional, hafter]
      rfl

theorem dropOptionalEnd_eq_iff :
    dropOptionalEnd word t = v ↔ ∃ u, t = v ++ u ∧ (u = word ∨ u = [] ∧ ¬word <:+ v) := by
  constructor
  · intro h
    unfold dropOptionalEnd at h
    split at h
    · rename_i hdrop
      refine ⟨word, ?_, .inl rfl⟩
      rw [← h, ← hdrop, List.length_drop, Nat.sub_sub_self (by
        rw [← hdrop, List.length_drop]; omega), List.take_append_drop]
    · rename_i hdrop
      subst h
      exact ⟨[], by simp, .inr ⟨rfl, fun hsuffix =>
        hdrop (List.suffix_iff_eq_drop.mp hsuffix).symm⟩⟩
  · rintro ⟨u, rfl, rfl | ⟨rfl, hno⟩⟩
    · exact dropOptionalEnd_append u v
    · rw [List.append_nil, dropOptionalEnd, if_neg]
      exact fun hdrop => hno (List.suffix_iff_eq_drop.mpr hdrop.symm)

/-! ## Regions in their text -/

/-- A region with the text around it. -/
structure Extent where
  before : Text
  /-- The paragraph tags before and behind the opening mark. -/
  opened : Text × Text
  die : Text
  content : Text
  /-- The paragraph tags before and behind the closing mark. -/
  closed : Text × Text
  after : Text

namespace Extent

/-- The region that an extent holds. -/
def region (x : Extent) : Region := ⟨x.die, x.content⟩

/-- The closing mark, and all that stands behind it. -/
def fromClosing (x : Extent) : Text := closing ++ (x.closed.2 ++ x.after)

/-- What the two marks enclose. -/
def between (x : Extent) : Text := x.opened.2 ++ (x.content ++ x.closed.1)

/-- The opening mark, and all that stands behind it. -/
def fromOpening (x : Extent) : Text :=
  opening ++ (x.die ++ (openingEnd ++ (x.between ++ x.fromClosing)))

/-- The text that an extent is about. -/
def text (x : Extent) : Text := x.before ++ (x.opened.1 ++ x.fromOpening)

/-- A region ends at the first closing mark behind its opening mark, and each of the two marks takes
the paragraph tags right beside it. -/
structure IsWellFormed (x : Extent) : Prop where
  isDigits : IsDigits x.die
  beforeOpening : IsParagraph x.opened.1 x.before
  behindOpening : IsParagraphEnd x.opened.2 (x.content ++ (x.closed.1 ++ x.fromClosing))
  firstClosing : ∀ u v, x.between ++ x.fromClosing = u ++ (closing ++ v) →
    x.between.length ≤ u.length
  beforeClosing : IsParagraph x.closed.1 x.content
  behindClosing : IsParagraphEnd x.closed.2 x.after

end Extent

/-- An opening mark stands behind `before`, and the word of a closing mark somewhere behind it. -/
structure IsOpened (t before die behind : Text) : Prop where
  eq : t = before ++ (opening ++ (die ++ (openingEnd ++ behind)))
  isDigits : IsDigits die
  isClosed : closing <:+: behind

/-- The first region of a text: it begins at the first opening mark with a closing mark behind
it. -/
structure IsRegion (t : Text) (x : Extent) : Prop where
  eq : t = x.text
  isWellFormed : x.IsWellFormed
  first : ∀ before die behind, IsOpened t before die behind →
    (x.before ++ x.opened.1).length ≤ before.length

/-- A text and the same text with containers for its regions, numbered from `k`. -/
inductive Scanned (idStem : Text) : Nat → Text → Text → Prop where
  | none {k : Nat} {t : Text} : (∀ before die behind, ¬IsOpened t before die behind) →
      Scanned idStem k t t
  | region {k : Nat} {t out : Text} {x : Extent} : IsRegion t x →
      Scanned idStem (k + 1) x.after out →
      Scanned idStem k t (x.before ++ (container (tableId idStem k) x.region ++ out))

variable {before die behind out : Text} {x : Extent} {r : Region}

/-! ## Reading a region -/

theorem Extent.IsWellFormed.cutAt? (hx : x.IsWellFormed) :
    Text.cutAt? closing (x.content ++ (x.closed.1 ++ x.fromClosing))
      = some (x.content ++ x.closed.1, x.closed.2 ++ x.after) := by
  refine Text.cutAt?_eq_some_iff.mpr ⟨by rw [fromClosing, List.append_assoc], fun v more h => ?_⟩
  have hfirst := hx.firstClosing (x.opened.2 ++ v) more (by
    rw [between, List.append_assoc, List.append_assoc, h, List.append_assoc])
  simp only [between, List.length_append] at hfirst ⊢
  omega

/-- A region is read where it begins. -/
theorem Extent.IsWellFormed.take? (hx : x.IsWellFormed) :
    take? (x.opened.1 ++ x.fromOpening) = some (x.region, x.after) := by
  have hopening : dropOptional paragraph (x.opened.1 ++ x.fromOpening) = x.fromOpening := by
    refine dropOptional_eq_iff.mpr ⟨x.opened.1, rfl, ?_⟩
    rcases hx.beforeOpening with h | ⟨h, -⟩
    · exact .inl h
    · exact .inr ⟨h, fun hp => absurd (List.cons_prefix_cons.mp hp).1 (by decide)⟩
  have hbehind : dropOptional paragraphEnd (x.between ++ x.fromClosing)
      = x.content ++ (x.closed.1 ++ x.fromClosing) :=
    dropOptional_eq_iff.mpr ⟨x.opened.2, by rw [between, List.append_assoc, List.append_assoc],
      hx.behindOpening⟩
  have hcontent : dropOptionalEnd paragraph (x.content ++ x.closed.1) = x.content :=
    dropOptionalEnd_eq_iff.mpr ⟨x.closed.1, rfl, hx.beforeClosing⟩
  have hafter : dropOptional paragraphEnd (x.closed.2 ++ x.after) = x.after :=
    dropOptional_eq_iff.mpr ⟨x.closed.2, rfl, hx.behindClosing⟩
  rw [take?_of_cutAt? hopening hx.isDigits.ne_nil hx.isDigits.isDigit
    (by rw [hbehind, hx.cutAt?]), hcontent, hafter, region]

/-- Where a region is read, an opening mark is closed. -/
theorem exists_isOpened_of_take? {rest : Text} (h : take? t = some (r, rest)) :
    ∃ p die behind, (p = paragraph ∨ p = []) ∧ IsOpened t p die behind := by
  obtain ⟨ds, behind, hne, hds, hdrop, hclosed⟩ := marks_of_take? h
  obtain ⟨p, ht, hp⟩ := dropOptional_eq_iff.mp hdrop
  refine ⟨p, ds, behind, hp.imp_right And.left, ?_, ⟨hne, hds⟩, hclosed⟩
  rw [ht]
  simp only [List.append_assoc]

/-- Before a region nothing is read. A mark that began there would be an earlier one, and a
paragraph that began there would belong to the region. -/
theorem IsRegion.take?_before (h : IsRegion t x) {v : Text} (hne : v ≠ []) (hv : v <:+ x.before) :
    take? (v ++ (x.opened.1 ++ x.fromOpening)) = none := by
  refine Option.eq_none_iff_forall_ne_some.mpr ?_
  rintro ⟨r, rest⟩ htake
  obtain ⟨w, hbefore⟩ := hv
  obtain ⟨p, die, behind, hp, hopened⟩ := exists_isOpened_of_take? htake
  have hearlier : IsOpened t (w ++ p) die behind :=
    ⟨by rw [h.eq, Extent.text, ← hbefore, List.append_assoc, hopened.eq, List.append_assoc],
      hopened.isDigits, hopened.isClosed⟩
  have hfirst := h.first _ _ _ hearlier
  rw [← hbefore] at hfirst
  simp only [List.length_append] at hfirst
  have hlength := List.length_pos_iff.mpr hne
  rcases hp with rfl | rfl
  · -- the mark is that of the region, and the paragraph tag before it ends what stands before
    have hprefix : v <+: paragraph := List.prefix_of_prefix_length_le
      ⟨_, rfl⟩ ⟨_, hopened.eq.symm⟩ (by omega)
    obtain ⟨w', hparagraph⟩ := hprefix
    rcases h.isWellFormed.beforeOpening with htag | ⟨htag, hno⟩
    · rw [htag] at hfirst
      omega
    · have hrest := hopened.eq
      rw [htag, List.nil_append, ← hparagraph, List.append_assoc] at hrest
      have hmark := List.append_cancel_left hrest
      cases w' with
      | nil =>
          rw [List.append_nil] at hparagraph
          exact hno ⟨w, by rw [← hparagraph, hbefore]⟩
      | cons c w' =>
          have hc : '\x7b' = c := (List.cons.inj hmark).1
          have hmem : c ∈ paragraph := by simp [← hparagraph]
          exact absurd hmem (by rw [← hc]; decide)
  · rw [List.length_nil] at hfirst
    omega

/-! ## Finding a region -/

/-- From an opening mark to the first closing mark behind it there is a region. -/
theorem IsOpened.exists_extent (h : IsOpened t before die behind) :
    ∃ x : Extent, t = x.text ∧ x.IsWellFormed ∧ x.before ++ x.opened.1 = before := by
  obtain ⟨p, hbefore, hp⟩ := dropOptionalEnd_eq_iff.mp (Eq.refl (dropOptionalEnd paragraph before))
  obtain ⟨q, hbehind, hq⟩ := dropOptional_eq_iff.mp (Eq.refl (dropOptional paragraphEnd behind))
  have hbrace : '\x7b' ∉ q := by
    rcases hq with rfl | ⟨rfl, -⟩ <;> decide
  have hclosed : closing <:+: dropOptional paragraphEnd behind := by
    have hbehind' := h.isClosed
    rw [hbehind] at hbehind'
    exact Text.infix_of_infix_append hbrace hbehind'
  obtain ⟨⟨body, rest⟩, hcut⟩ := Option.isSome_iff_exists.mp (Text.isSome_cutAt?_iff.mpr hclosed)
  obtain ⟨hbody, hfirst⟩ := Text.cutAt?_eq_some_iff.mp hcut
  obtain ⟨p', hcontent, hp'⟩ :=
    dropOptionalEnd_eq_iff.mp (Eq.refl (dropOptionalEnd paragraph body))
  obtain ⟨q', hrest, hq'⟩ := dropOptional_eq_iff.mp (Eq.refl (dropOptional paragraphEnd rest))
  have hfrom : dropOptionalEnd paragraph body ++ (p' ++ (closing ++ (q' ++
      dropOptional paragraphEnd rest))) = dropOptional paragraphEnd behind := by
    rw [← hrest, ← List.append_assoc, ← hcontent, hbody]
  refine ⟨⟨dropOptionalEnd paragraph before, (p, q), die, dropOptionalEnd paragraph body, (p', q'),
    dropOptional paragraphEnd rest⟩, ?eq, ⟨h.isDigits, hp, ?behind, ?first, hp', hq'⟩, hbefore.symm⟩
  case eq =>
    simp only [Extent.text, Extent.fromOpening, Extent.between, Extent.fromClosing,
      List.append_assoc]
    rw [hfrom, ← hbehind, ← List.append_assoc, ← hbefore, h.eq]
  case behind =>
    show q = paragraphEnd ∨ _
    rw [Extent.fromClosing, hfrom]
    exact hq
  case first =>
    intro u v huv
    simp only [Extent.between, Extent.fromClosing, List.append_assoc] at huv ⊢
    rw [hfrom] at huv
    obtain ⟨more, rfl, hmore⟩ := Text.eq_append_of_stop huv.symm fun c hc => by
      obtain rfl := Option.some.inj hc
      exact hbrace
    have := hfirst more v hmore
    rw [← hcontent, List.length_append, List.length_append]
    omega

theorem exists_isRegion_or (t : Text) :
    (∃ x, IsRegion t x) ∨ ∀ before die behind, ¬IsOpened t before die behind := by
  by_cases h : ∃ n before die behind, before.length = n ∧ IsOpened t before die behind
  · classical
    obtain ⟨before, die, behind, hlength, hopened⟩ := Nat.find_spec h
    obtain ⟨x, ht, hx, hbefore⟩ := hopened.exists_extent
    refine .inl ⟨x, ht, hx, fun before' die' behind' hopened' => ?_⟩
    rw [hbefore, hlength]
    exact Nat.find_min' h ⟨before', die', behind', rfl, hopened'⟩
  · exact .inr fun before die behind hopened => h ⟨_, before, die, behind, rfl, hopened⟩

/-! ## The scan -/

theorem scan_isRegion (h : IsRegion t x) :
    scan recognise t = x.before.map .plain ++ .found x.region :: scan recognise x.after := by
  have hread := h.isWellFormed.take?
  obtain ⟨word, hne, hword⟩ :
      ∃ word, word ≠ [] ∧ x.opened.1 ++ x.fromOpening = word ++ x.after := by
    refine ⟨x.opened.1 ++ (opening ++ (x.die ++ (openingEnd ++ (x.between ++ (closing ++
      x.closed.2))))), ?_, by simp only [Extent.fromOpening, Extent.fromClosing, List.append_assoc]⟩
    exact List.append_ne_nil_of_right_ne_nil _ (List.append_ne_nil_of_left_ne_nil (by decide) _)
  rw [h.eq, Extent.text, Text.scan_passed_word forgets_recognise _ fun v hne hv => by
    rw [recognise, h.take?_before hne hv]; rfl]
  rw [hword] at hread ⊢
  rw [scan_region hne hread]

theorem scan_of_not_isOpened (h : ∀ before die behind, ¬IsOpened t before die behind) :
    scan recognise t = t.map .plain := by
  refine Text.scan_eq_map_plain forgets_recognise fun u _ hu => ?_
  rw [recognise, Option.map_eq_none_iff]
  refine Option.eq_none_iff_forall_ne_some.mpr ?_
  rintro ⟨r, rest⟩ htake
  obtain ⟨w, ht⟩ := hu
  obtain ⟨p, die, behind, -, hopened⟩ := exists_isOpened_of_take? htake
  exact h (w ++ p) die behind
    ⟨by rw [← ht, hopened.eq, List.append_assoc], hopened.isDigits, hopened.isClosed⟩

theorem Scanned.eq (h : Scanned idStem k t out) : out = materializeFrom idStem k t := by
  induction h with
  | none h =>
      have hplain := Piece.renderFrom_plain
        (fun k r => container (tableId idStem k) r) ‹_› ‹_› []
      rw [List.append_nil] at hplain
      rw [materializeFrom, scan_of_not_isOpened h, hplain]
      exact (List.append_nil _).symm
  | region h _ ih =>
      rw [materializeFrom, scan_isRegion h, Piece.renderFrom_plain, Piece.renderFrom, ih]
      rfl

theorem exists_scanned (idStem : Text) (k : Nat) (t : Text) : ∃ out, Scanned idStem k t out := by
  -- every region has an opening mark, so what stands behind it is shorter
  induction hn : t.length using Nat.strongRecOn generalizing k t with
  | ind n ih =>
      rcases exists_isRegion_or t with ⟨x, hx⟩ | hnone
      · have hlength : x.after.length < n := by
          rw [← hn, hx.eq, Extent.text, Extent.fromOpening, Extent.fromClosing]
          simp only [List.length_append]
          have : 0 < opening.length := by decide
          omega
        obtain ⟨out, hout⟩ := ih _ hlength (k + 1) x.after rfl
        exact ⟨_, .region hx hout⟩
      · exact ⟨t, .none hnone⟩

/-- **The scan by hand gives one text, the one that `materialize` writes.** -/
theorem scanned_iff : Scanned idStem k t out ↔ out = materializeFrom idStem k t := by
  refine ⟨Scanned.eq, ?_⟩
  rintro rfl
  obtain ⟨out, hout⟩ := exists_scanned idStem k t
  rwa [← hout.eq]

/-! ## The region as a pattern -/

/-- The end of a region: the closing mark with the paragraph tags beside it. -/
def closingPattern : Pattern :=
  (Pattern.word paragraph).optional.andThen
    ((Pattern.word closing).andThen (Pattern.word paragraphEnd).optional)

/-- What lies between the marks, up to the first place where a region can end. -/
def bodyPattern : Pattern :=
  (Pattern.group (.many false (.one fun _ => true))).andThen closingPattern

/-- A region as a pattern, with the digits and what lies between the marks as groups. -/
def regionPattern : Pattern :=
  (Pattern.word paragraph).optional.andThen ((Pattern.word opening).andThen
    (Pattern.digits.andThen ((Pattern.word openingEnd).andThen
      ((Pattern.word paragraphEnd).optional.andThen bodyPattern))))

/-- What an optional word takes. -/
def optionalWord (word t : Text) : Text := if Text.startsWith word t then word else []

variable {q : Pattern} {s : Place}

theorem dropOptionalEnd_cons {c : Char} {u : Text} (h : c :: u ≠ word) :
    dropOptionalEnd word (c :: u) = c :: dropOptionalEnd word u := by
  obtain ⟨p, hu, hp⟩ := dropOptionalEnd_eq_iff.mp (Eq.refl (dropOptionalEnd word u))
  refine dropOptionalEnd_eq_iff.mpr ⟨p, congrArg (c :: ·) hu, hp.imp_right fun ⟨hnil, hno⟩ => ?_⟩
  refine ⟨hnil, fun hword => ?_⟩
  rw [hnil, List.append_nil] at hu
  rw [← hu] at hno hword
  rcases List.suffix_cons_iff.mp hword with hword | hword
  · exact h hword.symm
  · exact hno hword

/-- An optional word is taken where it stands, unless only what follows it can go through without
it. -/
theorem first?_optionalWord_andThen
    (h : ∀ t, s.rest = word ++ t → q.first? (s.after word t []) = none → q.first? s = none) :
    ((Pattern.word word).optional.andThen q).first? s
      = q.first? (s.after (optionalWord word s.rest) (dropOptional word s.rest) []) := by
  rw [Pattern.first?_optional_andThen, Pattern.first?_word_andThen, optionalWord, dropOptional,
    Text.startsWith]
  cases hafter : Text.after? word s.rest with
  | none => simp [Place.after_nil]
  | some t =>
      simp only [Option.bind_some, Option.isSome_some, if_true, Option.getD_some]
      cases hq : q.first? (s.after word t []) with
      | some e => rfl
      | none => exact h t (Text.after?_eq_some.mp hafter) hq

theorem first?_optionalWord (word : Text) (s : Place) :
    (Pattern.word word).optional.first? s
      = some (s.after (optionalWord word s.rest) (dropOptional word s.rest) []) := by
  rw [Pattern.first?, Pattern.ends, List.head?_append, ← Pattern.first?, Pattern.first?_word,
    optionalWord, dropOptional, Text.startsWith]
  cases hafter : Text.after? word s.rest <;> simp [Place.after_nil]

theorem after?_opening_paragraph (t : Text) : Text.after? opening (paragraph ++ t) = none :=
  Text.after?_cons_of_ne (by decide) _ ('p' :: '>' :: t)

theorem after?_closing_paragraph (t : Text) : Text.after? closing (paragraph ++ t) = none :=
  Text.after?_cons_of_ne (by decide) _ ('p' :: '>' :: t)

theorem first?_closingPattern (s : Place) :
    closingPattern.first? s = (Text.after? closing (dropOptional paragraph s.rest)).map fun t =>
      s.after (optionalWord paragraph s.rest ++ (closing ++ optionalWord paragraphEnd t))
        (dropOptional paragraphEnd t) [] := by
  rw [closingPattern, first?_optionalWord_andThen, Pattern.first?_word_andThen, Place.rest_after]
  · cases Text.after? closing (dropOptional paragraph s.rest) with
    | none => rfl
    | some t => simp [first?_optionalWord]
  · intro t hs _
    rw [Pattern.first?_word_andThen, hs, after?_closing_paragraph]
    rfl

/-- **A lazy run ends where the first closing mark and the paragraph before it begin.** -/
theorem firstBehind?_closingPattern (s : Place) (u t : Text) :
    (closingPattern.firstBehind? s u t).map (fun x => (x.groups, x.rest))
      = (Text.cutAt? closing t).map fun r =>
        (s.groups ++ [u ++ dropOptionalEnd paragraph r.1], dropOptional paragraphEnd r.2) := by
  induction t generalizing u with
  | nil =>
      rw [Pattern.firstBehind?, first?_closingPattern]
      rfl
  | cons c t ih =>
      rw [Pattern.firstBehind?, first?_closingPattern, Place.rest_after]
      cases hend : Text.after? closing (dropOptional paragraph (c :: t)) with
      | some rest =>
          obtain ⟨p, ht, hp⟩ := dropOptional_eq_iff.mp (Text.after?_eq_some.mp hend)
          have hbrace : '\x7b' ∉ p := by
            rcases hp with rfl | ⟨rfl, -⟩ <;> decide
          have hcut : Text.cutAt? closing (c :: t) = some (p, rest) := by
            rw [ht]
            exact Text.cutAt?_append hbrace closing.tail rest
          have hdrop : dropOptionalEnd paragraph p = [] :=
            dropOptionalEnd_eq_iff.mpr ⟨p, rfl, hp.imp_right fun h => ⟨h.1, by decide⟩⟩
          simp [hcut, hdrop, Place.after]
      | none =>
          have hnow : Text.after? closing (c :: t) = none := by
            refine Option.eq_none_iff_forall_ne_some.mpr fun rest hrest => ?_
            have hdrop : dropOptional paragraph (closing ++ rest) = closing ++ rest :=
              dropOptional_of_ne (by decide) _ _
            rw [Text.after?_eq_some.mp hrest, hdrop, Text.after?_append] at hend
            exact absurd hend (by simp)
          rw [Text.cutAt?, hnow, Option.map_none, Option.none_or, ih, Option.map_map]
          cases hcut : Text.cutAt? closing t with
          | none => rfl
          | some r =>
              have hno : c :: r.1 ≠ paragraph := by
                intro hp
                have hct : c :: t = paragraph ++ (closing ++ r.2) := by
                  rw [← hp, Text.eq_append_of_cutAt? hcut]
                  rfl
                rw [hct, dropOptional_append, Text.after?_append] at hend
                exact absurd hend (by simp)
              simp [dropOptionalEnd_cons hno]

theorem ends_openingEnd_of_digit (q : Pattern) (h : ∃ c ∈ s.rest.head?, Text.isDigit c = true) :
    ((Pattern.word openingEnd).andThen q).ends s = [] := by
  obtain ⟨c, hc, hd⟩ := h
  obtain ⟨t, ht⟩ := List.head?_eq_some_iff.mp hc
  have hne : '\x7d' ≠ c := by
    rintro rfl
    exact absurd hd (by decide)
  have hafter : Text.after? openingEnd (c :: t) = none := Text.after?_cons_of_ne hne _ t
  rw [Pattern.ends, Pattern.ends_word, ht, hafter]
  rfl

theorem first?_bodyPattern (s : Place) :
    (bodyPattern.first? s).map (fun x => (x.groups, x.rest))
      = (Text.cutAt? closing s.rest).map fun r =>
        (s.groups ++ [dropOptionalEnd paragraph r.1], dropOptional paragraphEnd r.2) := by
  rw [bodyPattern, Pattern.first?_lazy_andThen, firstBehind?_closingPattern]
  rfl

/-- The tag that closes a paragraph holds nothing of a closing mark. -/
theorem first?_bodyPattern_paragraphEnd {t : Text} (hs : s.rest = paragraphEnd ++ t)
    (h : bodyPattern.first? (s.after paragraphEnd t []) = none) :
    bodyPattern.first? s = none := by
  have hcut (s : Place) : bodyPattern.first? s = none ↔ ¬closing <:+: s.rest := by
    have hbody := first?_bodyPattern s
    rw [← Text.isSome_cutAt?_iff, Bool.not_eq_true, Option.isSome_eq_false_iff,
      Option.isNone_iff_eq_none]
    cases hf : bodyPattern.first? s <;> cases hc : Text.cutAt? closing s.rest <;>
      simp [hf, hc] at hbody ⊢
  rw [hcut] at h ⊢
  rw [hs]
  exact fun hin => h (Text.infix_of_infix_append (by decide) hin)

/-- **A region is what its pattern takes.** -/
theorem first?_regionPattern (s : Place) :
    (regionPattern.first? s).map (fun x => (x.groups, x.rest))
      = (take? s.rest).map fun r => (s.groups ++ [r.1.die, r.1.content], r.2) := by
  rw [regionPattern, first?_optionalWord_andThen, Pattern.first?_word_andThen, Place.rest_after,
    take?]
  · cases Text.after? opening (dropOptional paragraph s.rest) with
    | none => rfl
    | some rest =>
      simp only [Option.bind_some, bind]
      rw [Pattern.first?_digits_andThen fun _ => ends_openingEnd_of_digit _, Place.rest_after]
      cases Text.takeDigits? rest with
      | none => rfl
      | some r =>
        simp only [Option.bind_some]
        rw [Pattern.first?_word_andThen, Place.rest_after]
        cases Text.after? openingEnd r.2 with
        | none => rfl
        | some rest =>
          simp only [Option.bind_some]
          rw [first?_optionalWord_andThen fun t ht hnone =>
              first?_bodyPattern_paragraphEnd ht hnone, first?_bodyPattern]
          simp only [Place.rest_after]
          cases Text.cutAt? closing (dropOptional paragraphEnd rest) with
          | none => rfl
          | some cut => simp [Place.after]
  · intro t hs _
    rw [Pattern.first?_word_andThen, hs, after?_opening_paragraph]
    rfl

/-! ## The tags of a container -/

/-- The start tags of a container: the outer one, the button and the inner one. -/
def containerTags (id die : Text) : List StartTag :=
  [⟨"div".toList, [("class".toList, "rollable-table-container".toList),
      ("data-table-id".toList, id)], false⟩,
    ⟨"button".toList, [("class".toList, "roll-table-button".toList),
      ("data-dice".toList, 'd' :: die), ("data-table-id".toList, id)], false⟩,
    ⟨"div".toList, [("class".toList, "rollable-table".toList), ("data-table-id".toList, id)],
      false⟩]

theorem containerStart_eq (id : Text) {die : Text} (hdie : Html.escape die = die) :
    containerStart (Html.escape id) die
      = (Tag.start "div".toList [("class".toList, "rollable-table-container".toList),
          ("data-table-id".toList, id)]).write
        ++ (['\n'] ++ ((Tag.start "button".toList [("class".toList, "roll-table-button".toList),
          ("data-dice".toList, 'd' :: die), ("data-table-id".toList, id)]).write
        ++ (("Roll Table (d".toList ++ die ++ [')']) ++ ((Tag.stop "button".toList).write
        ++ (['\n'] ++ ((Tag.start "div".toList [("class".toList, "rollable-table".toList),
          ("data-table-id".toList, id)]).write ++ ['\n'])))))) := by
  have houter : "<div class=\"".toList ++ (Html.escape "rollable-table-container".toList
      ++ "\" data-table-id=\"".toList)
      = "<div class=\"rollable-table-container\" data-table-id=\"".toList := by decide
  have hinner : "<div class=\"".toList ++ (Html.escape "rollable-table".toList
      ++ "\" data-table-id=\"".toList)
      = "<div class=\"rollable-table\" data-table-id=\"".toList := by decide
  have hstartEnd : "\">\n".toList = "\">".toList ++ ['\n'] := by decide
  have hlabel : "\">Roll Table (d".toList = "\">".toList ++ "Roll Table (d".toList := by decide
  have hlabelEnd : ")</button>\n".toList
      = [')'] ++ (Tag.stop "button".toList).write ++ ['\n'] := by decide
  -- the two sides differ only in how their words are cut and put together
  have hassoc (a e q n c die d t u b g qn qt ubn : Text) (hqn : qn = q ++ n) (hqt : qt = q ++ t)
      (hubn : ubn = u ++ b ++ n) :
      a ++ e ++ qn ++ c ++ die ++ d ++ e ++ qt ++ die ++ ubn ++ g ++ e ++ qn
        = (a ++ (e ++ q)) ++ (n ++ ((c ++ (die ++ (d ++ (e ++ q)))) ++ ((t ++ die ++ u)
          ++ (b ++ (n ++ ((g ++ (e ++ q)) ++ n)))))) := by
    rw [hqn, hqt, hubn]
    simp only [List.append_assoc]
  rw [Rendered.write_divStart id houter, Rendered.write_buttonStart id hdie,
    Rendered.write_divStart id hinner]
  exact hassoc _ _ _ _ _ _ _ _ _ _ _ _ _ _ hstartEnd hlabel hlabelEnd

/-- **A reader meets the tags of a container**, and goes on behind the last of them. -/
theorem reads_container (hdie : IsDigits die) (idStem : Text) (k : Nat)
    {content rest : Text} {ts : List StartTag}
    (h : Reads ('\n' :: (Text.trim content ++ (containerEnd ++ rest))) ts) :
    Reads (container (tableId idStem k) ⟨die, content⟩ ++ rest)
      (containerTags (Rendered.idOf idStem k) die ++ ts) := by
  have hescape : Html.escape die = die := Html.escape_eq_self fun c hc =>
    DiceSpan.escapeChar_of_isFormulaChar (Dice.isFormulaChar_of_isDigit (hdie.isDigit c hc))
  have hfeed : Html.IsRunning ['\n'] := Html.isRunning_of_not_mem (by decide) (by decide)
  have hlabel : Html.IsRunning ("Roll Table (d".toList ++ die ++ [')']) := by
    have hno {c : Char} (hdigit : Text.isDigit c = false) (hc : c ∉ "Roll Table (d)".toList) :
        c ∉ "Roll Table (d".toList ++ die ++ [')'] := by
      have hdigits : c ∉ die := fun hm => by
        rw [hdie.isDigit c hm] at hdigit
        exact absurd hdigit (by decide)
      simp_all
    exact Html.isRunning_of_not_mem (hno (by decide) (by decide)) (hno (by decide) (by decide))
  have hstop : (Tag.stop "button".toList).IsOrdinary := by
    rw [Tag.IsOrdinary]
    decide
  have hangle {tag : Tag} (t : Text) : ∀ c ∈ (tag.write ++ t).head?, c = '<' := fun c hc => by
    cases tag <;> exact (Option.some.inj hc).symm
  have hstart {name rest : Text} {as : List (Text × Text)} {ts : List Html.StartTag}
      (htag : Html.IsOrdinary name as) (h : Html.Reads rest ts) :
      Html.Reads ((Tag.start name as).write ++ rest)
        (Html.startTagsOf [(Tag.start name as).event] ++ ts) := Reads.tag htag h
  -- from behind: the inner start tag, the button with its label, and the outer start tag
  have hinner := hfeed.reads (hangle _)
    (hstart (Rendered.isOrdinary_divNode "rollable-table".toList (Rendered.idOf idStem k)) h)
  have hbutton := hfeed.reads (hangle _)
    (hstart (Rendered.isOrdinary_buttonNode ('d' :: die) (Rendered.idOf idStem k))
      (hlabel.reads (hangle _) (Reads.tag hstop hinner)))
  have houter := hstart
    (Rendered.isOrdinary_divNode "rollable-table-container".toList (Rendered.idOf idStem k)) hbutton
  have hshape (a b c d e f x y rest : Text) :
      (a ++ (b ++ (c ++ (d ++ (e ++ (b ++ (f ++ b))))))) ++ (x ++ y) ++ rest
        = a ++ (b ++ (c ++ (d ++ (e ++ (b ++ (f ++ (b ++ (x ++ (y ++ rest))))))))) := by
    simp only [List.append_assoc]
  rw [container_eq, ← Rendered.escape_idOf, containerStart_eq _ hescape, hshape]
  exact houter

/-! ## The exact result -/

theorem tableId_injective (idStem : Text) : Function.Injective (tableId idStem) := by
  intro j k h
  have hdigits := (List.cons.inj (List.append_cancel_left h)).2
  rw [← Number.digitsValue_writeNat j, hdigits, Number.digitsValue_writeNat]

/--
**What becomes of any rendered text.**

The text with containers is the one that the scan by hand gives, and no other. What is taken for a
region at a place is what the pattern of a region takes there. Different containers have
different identifiers, and the three start tags that a reader meets at the beginning of a container
carry the same one, with the digits of the opening mark on the button.
-/
theorem materialize_exact (rendered idStem : Text) :
    (∀ out, Scanned idStem 1 rendered out ↔ out = materialize rendered idStem)
      ∧ (∀ before t,
        (regionPattern.first? ⟨before.toList, t, []⟩).map
            (fun s => (s.groups, t.length - s.rest.length))
          = (recognise before t).map fun r => ([r.1.die, r.1.content], r.2))
      ∧ Function.Injective (tableId idStem)
      ∧ ∀ k die content rest ts, IsDigits die →
        Reads ('\n' :: (Text.trim content ++ (containerEnd ++ rest))) ts →
        Reads (container (tableId idStem k) ⟨die, content⟩ ++ rest)
          (containerTags (Rendered.idOf idStem k) die ++ ts) := by
  refine ⟨fun out => scanned_iff, fun before t => ?_, tableId_injective idStem,
    fun k die content rest ts hdie => reads_container hdie idStem k⟩
  have hpattern := congrArg (Option.map fun r : List Text × Text => (r.1, t.length - r.2.length))
    (first?_regionPattern ⟨before.toList, t, []⟩)
  rw [Option.map_map, Option.map_map] at hpattern
  rw [recognise, Option.map_map]
  exact hpattern

/-- Marks without a partner, one mark within a region, and two regions side by side. -/
def strayMarks : Text :=
  "a".toList ++ closing ++ paragraph ++ opening ++ "6".toList ++ openingEnd ++ paragraphEnd
    ++ " x".toList ++ opening ++ "8".toList ++ openingEnd ++ paragraph ++ closing ++ paragraphEnd
    ++ opening ++ "4".toList ++ openingEnd ++ closing
    ++ paragraph ++ opening ++ "2".toList ++ openingEnd

theorem materialize_exact_strayMarks :
    IsDigits "6".toList
      ∧ Scanned "t&".toList 1 strayMarks ("a\x7b\x7b/ROLLTABLE\x7d\x7d".toList
        ++ (container "t&amp;-1".toList ⟨"6".toList, " x\x7b\x7bROLLTABLE::d8\x7d\x7d".toList⟩
        ++ (container "t&amp;-2".toList ⟨"4".toList, []⟩
        ++ "<p>\x7b\x7bROLLTABLE::d2\x7d\x7d".toList)))
      ∧ tableId "t&".toList 1 ≠ tableId "t&".toList 2
      ∧ Reads (container (tableId "t&".toList 1)
          ⟨"6".toList, " x\x7b\x7bROLLTABLE::d8\x7d\x7d".toList⟩)
        (containerTags "t&-1".toList "6".toList) := by
  obtain ⟨hscanned, -, hinjective, hreads⟩ := materialize_exact strayMarks "t&".toList
  have hdigits : IsDigits "6".toList := ⟨by decide, List.all_iff_forall_prop.mp (by decide)⟩
  have hstop : (Tag.stop "div".toList).IsOrdinary := by
    rw [Tag.IsOrdinary]
    decide
  have hrunning {u : Text} (hangle : '<' ∉ u) (hamp : '&' ∉ u) : Html.IsRunning u :=
    Html.isRunning_of_not_mem hangle hamp
  have hlast : Reads "\n</div>".toList [] :=
    (hrunning (u := ['\n']) (by decide) (by decide)).reads
      (fun c hc => (Option.some.inj hc).symm) (Reads.tag hstop Html.reads_nil)
  have hbehind : Reads "\nx\x7b\x7bROLLTABLE::d8\x7d\x7d\n</div>\n</div>".toList [] :=
    (hrunning (u := "\nx\x7b\x7bROLLTABLE::d8\x7d\x7d\n".toList) (by decide) (by decide)).reads
      (fun c hc => (Option.some.inj hc).symm) (Reads.tag hstop hlast)
  have hcontainer := hreads 1 "6".toList " x\x7b\x7bROLLTABLE::d8\x7d\x7d".toList [] [] hdigits
    hbehind
  rw [List.append_nil, List.append_nil] at hcontainer
  exact ⟨hdigits, (hscanned _).mpr (by decide +kernel), fun h => absurd (hinjective h) (by decide),
    hcontainer⟩

end Gamebook.TableRegion
