import Mathlib.Data.Bool.AllAny
import Gamebook.Html.Event
import Gamebook.Proofs.Html.Escape
import Gamebook.Proofs.Text.Words

/-!
# Written tags are read back

A reader of tags copes with whatever authors write. What a program writes is much
narrower: names of small letters and hyphens, one blank before each attribute, every
value between double quotes and escaped. This file has that narrow form, `Tag.write`,
and the fact that the reader gets the tag back with its values unescaped and goes on
right behind it.
-/

namespace Gamebook.Html

/-! ## Names -/

/-- The letters of which names of elements are made here. -/
def smallLetters : Text := "abcdefghijklmnopqrstuvwxyz".toList

/-- The characters of the names that a program writes. -/
def nameLetters : Text := '-' :: smallLetters

/-- Whether a text is the name of a tag or an attribute as a program writes it. -/
def isName : Text → Bool
  | [] => false
  | c :: rest => smallLetters.contains c && rest.all nameLetters.contains

theorem isName_iff {name : Text} :
    isName name = true
      ↔ ∃ c rest, name = c :: rest ∧ c ∈ smallLetters ∧ ∀ x ∈ rest, x ∈ nameLetters := by
  cases name with
  | nil => simp [isName]
  | cons c rest => simp [isName]

theorem mem_nameLetters {name : Text} (h : isName name = true) : ∀ c ∈ name, c ∈ nameLetters := by
  obtain ⟨c, rest, rfl, hc, hrest⟩ := isName_iff.mp h
  rintro x (_ | ⟨_, hx⟩)
  · exact List.mem_cons_of_mem _ hc
  · exact hrest x hx

theorem lower_eq_self {name : Text} (h : ∀ c ∈ name, c ∈ nameLetters) : Text.lower name = name := by
  have hlower : ∀ c ∈ nameLetters, (c.toNat == 0x3a3) = false ∧ Text.lowerChar c = [c] :=
    List.all_iff_forall_prop.mp (by decide)
  have hafter (before : Text) : Text.lowerAfter before name = name := by
    induction name generalizing before with
    | nil => rfl
    | cons c name ih =>
        obtain ⟨hsigma, hchar⟩ := hlower c (h c (by simp))
        rw [Text.lowerAfter, ih fun x hx => h x (by simp [hx])]
        simp [hsigma, hchar]
  exact hafter []

/-! ## Tags -/

/-- A tag: at the start of an element with attributes, or at its end. -/
inductive Tag where
  | start (name : Text) (attributes : List (Text × Text))
  | stop (name : Text)

/-- An attribute in double quotes, with the space before it. -/
def writeAttribute (a : Text × Text) : Text := ' ' :: (a.1 ++ '=' :: '"' :: (escape a.2 ++ ['"']))

/-- What stands in a start tag behind its name, the closing bracket included. -/
def writeAttributes (as : List (Text × Text)) : Text := as.flatMap writeAttribute ++ ['>']

/-- The text of a tag. -/
def Tag.write : Tag → Text
  | start name as => '<' :: (name ++ writeAttributes as)
  | stop name => '<' :: '/' :: (name ++ ['>'])

theorem writeAttributes_cons (a : Text × Text) (as : List (Text × Text)) :
    writeAttributes (a :: as)
      = ' ' :: (a.1 ++ '=' :: '"' :: (escape a.2 ++ '"' :: writeAttributes as)) := by
  simp [writeAttributes, writeAttribute]

/-- Whether the names of attributes can be written. -/
def AreNamed (as : List (Text × Text)) : Prop := ∀ a ∈ as, isName a.1 = true

/-! ## Attributes between quotes -/

/-- The blanks that may stand in a tag. -/
def tagBlanks : Text := ['\t', '\n', '\x0c', '\r', ' ']

/-- Whether a character may stand in the name of an attribute. -/
def isKeyChar (c : Char) : Bool := !(Text.isBlank c || c == '/' || c == '=' || c == '>')

/-- An attribute as an author may write it: its name behind blanks, and a text between quotes. -/
structure Quoted where
  gap : Text
  key : Text
  quote : Char
  value : Text

/-- The text of a quoted attribute. -/
def Quoted.write (a : Quoted) : Text :=
  a.gap ++ (a.key ++ '=' :: a.quote :: (a.value ++ [a.quote]))

/-- The text between the quotes may hold every character but the quote. -/
structure Quoted.IsWellFormed (a : Quoted) : Prop where
  gap_ne_nil : a.gap ≠ []
  gap : ∀ c ∈ a.gap, c ∈ tagBlanks
  key_ne_nil : a.key ≠ []
  key : ∀ c ∈ a.key, isKeyChar c = true
  quote : a.quote ∈ ['"', '\'']
  value : a.quote ∉ a.value

/-- Decided part by part, each character on its own. -/
instance (a : Quoted) : Decidable a.IsWellFormed :=
  decidable_of_iff (a.gap ≠ [] ∧ a.gap.all (· ∈ tagBlanks) ∧ a.key ≠ [] ∧ a.key.all isKeyChar
      ∧ a.quote ∈ ['"', '\''] ∧ a.quote ∉ a.value)
    ⟨fun ⟨h1, h2, h3, h4, h5, h6⟩ =>
        ⟨h1, List.all_iff_forall_prop.mp h2, h3, List.all_eq_true.mp h4, h5, h6⟩,
      fun ⟨h1, h2, h3, h4, h5, h6⟩ =>
        ⟨h1, List.all_iff_forall_prop.mpr h2, h3, List.all_eq_true.mpr h4, h5, h6⟩⟩

/-- How a start tag ends: with a slash if it closes its element itself. -/
def tagEnd (selfClosing : Bool) : Text := if selfClosing then ['/', '>'] else ['>']

theorem isBlank_of_mem_tagBlanks {c : Char} (h : c ∈ tagBlanks) :
    Text.isBlank c = true ∧ endsTagName c = true := by
  have hall : ∀ c ∈ tagBlanks, Text.isBlank c = true ∧ endsTagName c = true :=
    List.all_iff_forall_prop.mp (by decide)
  exact hall c h

theorem isKeyChar_iff {c : Char} : isKeyChar c = true
    ↔ Text.isBlank c = false ∧ (c == '/') = false ∧ (c == '=') = false ∧ (c == '>') = false := by
  simp only [isKeyChar, Bool.not_eq_true', Bool.or_eq_false_iff, and_assoc]

/-! ## Reading a start tag -/

/-- The blanks before something that is no gap are dropped. -/
theorem dropGaps_blanks {gap : Text} (hgap : ∀ c ∈ gap, c ∈ tagBlanks) {c : Char} {t : Text}
    (hblank : Text.isBlank c = false) (hslash : c = '/' → t.head? = some '>') (before : Char) :
    ∃ last, dropGaps true before (gap ++ c :: t) = (last, c :: t)
      ∧ (gap ≠ [] → Text.isBlank last = true) := by
  induction gap generalizing before with
  | nil =>
      refine ⟨before, ?_, fun h => absurd rfl h⟩
      rw [List.nil_append, dropGaps, if_neg (by simp [hblank]), if_neg]
      by_cases hc : c = '/'
      · simp [hslash hc]
      · simp [hc]
  | cons d gap ih =>
      obtain ⟨last, hdrop, hlast⟩ := ih (fun x hx => hgap x (by simp [hx])) d
      have hd := (isBlank_of_mem_tagBlanks (hgap d (by simp))).1
      refine ⟨last, by rw [List.cons_append, dropGaps, if_pos hd, hdrop], fun _ => ?_⟩
      cases gap with
      | nil =>
          rw [List.nil_append, dropGaps, if_neg (by simp [hblank])] at hdrop
          split at hdrop
          · rename_i hgone
            by_cases hc : c = '/'
            · simp [hslash hc] at hgone
            · simp [hc] at hgone
          · obtain ⟨rfl, -⟩ := Prod.mk.inj hdrop
            exact hd
      | cons e gap => exact hlast (by simp)

/-- The value of an attribute, after its name. -/
theorem takeValue?_quoted {q : Char} {v : Text} (hq : q ∈ ['"', '\'']) (hv : q ∉ v) (rest : Text) :
    takeValue? plainRules ('=' :: q :: (v ++ q :: rest)) = some (v, q, rest) := by
  have hquote : (q == '\'' || q == '"') = true ∧ (q == '=') = false ∧ Text.isBlank q = false := by
    rcases List.mem_pair.mp hq with rfl | rfl <;> decide
  have hspan : (v ++ q :: rest).span (· != q) = (v, q :: rest) := by
    refine Text.span_append (fun c hc => ?_) (by simp)
    rw [bne_iff_ne]
    rintro rfl
    exact hv hc
  have hquoted : takeQuoted? (q :: (v ++ q :: rest)) = some (v, rest) := by
    rw [takeQuoted?, if_pos hquote.1, hspan]
  have hsigns : (('=' :: q :: (v ++ q :: rest)).dropWhile Text.isBlank).span (· == '=')
      = (['='], q :: (v ++ q :: rest)) :=
    @Text.span_append (· == '=') ['='] (q :: (v ++ q :: rest)) (by simp)
      (by simpa using hquote.2.1)
  unfold takeValue?
  rw [hsigns]
  dsimp only
  rw [List.dropWhile_cons_of_neg (by simp [hquote.2.2]), hquoted]
  rfl

theorem tagEnd_eq (selfClosing : Bool) :
    ∃ c t, tagEnd selfClosing = c :: t ∧ Text.isBlank c = false
      ∧ (c == '/' || c == '>') = true ∧ (c = '/' → t.head? = some '>') := by
  cases selfClosing
  · exact ⟨'>', [], rfl, by decide, by decide, by decide⟩
  · exact ⟨'/', ['>'], rfl, by decide, by decide, by decide⟩

/-- The gaps before the attributes and the attributes, up to the end of the tag. -/
theorem takeAttributes_quoted {as : List Quoted} (h : ∀ a ∈ as, a.IsWellFormed) {blanks : Text}
    (hblanks : ∀ c ∈ blanks, c ∈ tagBlanks) (selfClosing : Bool) (rest : Text) {fuel : Nat}
    (hfuel : as.length ≤ fuel) (before : Char) :
    ∃ last gapEnd,
      dropGaps true before (as.flatMap Quoted.write ++ (blanks ++ (tagEnd selfClosing ++ rest)))
          = (last, gapEnd)
        ∧ (as = [] → gapEnd = tagEnd selfClosing ++ rest)
        ∧ takeAttributes plainRules false fuel last gapEnd
          = (as.map fun a => (a.key, some a.value), tagEnd selfClosing ++ rest) := by
  -- the reader looks back at one character, which is a blank before every attribute
  induction as generalizing fuel before with
  | nil =>
      obtain ⟨c, t, hend, hblank, hstop, hslash⟩ := tagEnd_eq selfClosing
      have hhead : c = '/' → (t ++ rest).head? = some '>' := fun hc => by
        obtain ⟨t', rfl⟩ := List.head?_eq_some_iff.mp (hslash hc)
        rfl
      obtain ⟨last, hdrop, -⟩ := dropGaps_blanks hblanks hblank hhead before
      rw [hend]
      refine ⟨last, c :: (t ++ rest), hdrop, fun _ => rfl, ?_⟩
      have hnone : (!mayPrecedeAttribute last || Text.isBlank c || c == '/' || c == '>'
          || plainRules.refuses c) = true := by
        rw [Bool.or_assoc, Bool.or_assoc, ← Bool.or_assoc (c == '/'), hstop]
        simp
      cases fuel with
      | zero => rfl
      | succ fuel =>
          rw [takeAttributes, if_pos hnone]
          rfl
  | cons a as ih =>
      obtain ⟨gap, key, quote, value⟩ := a
      obtain ⟨hgapNe, hgap, hkeyNe, hkey, hquote, hvalue⟩ := h _ (List.mem_cons_self ..)
      obtain ⟨c, more, rfl⟩ := List.exists_cons_of_ne_nil hkeyNe
      obtain ⟨fuel, rfl⟩ : ∃ n, fuel = n + 1 :=
        Nat.exists_eq_succ_of_ne_zero (by rw [List.length_cons] at hfuel; omega)
      obtain ⟨last', gapEnd', hgaps, -, hattributes⟩ :=
        ih (fun x hx => h x (by simp [hx])) (Nat.le_of_succ_le_succ hfuel) quote
      obtain ⟨hblank, hslash, -, hangle⟩ := isKeyChar_iff.mp (hkey c (List.mem_cons_self ..))
      generalize hbehind : as.flatMap Quoted.write ++ (blanks ++ (tagEnd selfClosing ++ rest))
        = behind at hgaps
      have hwritten : (Quoted.mk gap (c :: more) quote value :: as).flatMap Quoted.write
          ++ (blanks ++ (tagEnd selfClosing ++ rest))
          = gap ++ c :: (more ++ '=' :: quote :: (value ++ quote :: behind)) := by
        rw [← hbehind, List.flatMap_cons, Quoted.write]
        simp
      obtain ⟨last, hdrop, hlast⟩ := @dropGaps_blanks gap hgap c
        (more ++ '=' :: quote :: (value ++ quote :: behind)) hblank
        (fun hc => absurd hc (by simpa using hslash)) before
      refine ⟨last, c :: (more ++ '=' :: quote :: (value ++ quote :: behind)), ?_,
        fun he => absurd he (by simp), ?_⟩
      · rw [hwritten, hdrop]
      · have hspan : (more ++ '=' :: quote :: (value ++ quote :: behind)).span
            (fun x => !(Text.isBlank x || x == '/' || x == '=' || x == '>'))
            = (more, '=' :: quote :: (value ++ quote :: behind)) :=
          Text.span_append (fun x hx => hkey x (List.mem_cons_of_mem c hx)) (by simp)
        have hplace : (!mayPrecedeAttribute last || Text.isBlank c || c == '/' || c == '>'
            || plainRules.refuses c) = false := by
          rw [hblank, hslash, hangle, mayPrecedeAttribute, hlast hgapNe]
          rfl
        rw [takeAttributes, hplace, hspan]
        dsimp only
        rw [takeValue?_quoted hquote hvalue, if_neg (by simp)]
        dsimp only
        rw [if_neg (by simp), hgaps]
        dsimp only
        rw [hattributes, List.map_cons]

theorem length_le_flatMap_write (as : List Quoted) :
    as.length ≤ (as.flatMap Quoted.write).length := by
  induction as with
  | nil => exact Nat.zero_le _
  | cons a as ih =>
      simp only [List.flatMap_cons, Quoted.write, List.length_cons, List.length_append]
      omega

/-- The name of a tag as an author may write it. -/
def IsTagName (name : Text) : Prop :=
  ∃ c more, name = c :: more ∧ isLetter c = true ∧ ∀ x ∈ name, endsTagName x = false

/-- **A start tag with its values between quotes is read as it is written**, if the references in
the values can be read. -/
theorem StartTag.read_quoted {name : Text} {as : List Quoted} (hname : IsTagName name)
    (has : ∀ a ∈ as, a.IsWellFormed) {blanks : Text} (hblanks : ∀ c ∈ blanks, c ∈ tagBlanks)
    (selfClosing : Bool) (rest : Text) :
    StartTag.read plainRules false
        (name ++ (as.flatMap Quoted.write ++ (blanks ++ (tagEnd selfClosing ++ rest))))
      = (readValues (as.map fun a => (a.key, some a.value))).map fun values =>
          .tag ⟨Text.lower name, values, selfClosing⟩ rest := by
  obtain ⟨d, more, -, -, hnone⟩ := hname
  have hspan : (name ++ (as.flatMap Quoted.write ++ (blanks ++ (tagEnd selfClosing ++ rest)))).span
      (fun c => !(endsTagName c || plainRules.refuses c))
      = (name, as.flatMap Quoted.write ++ (blanks ++ (tagEnd selfClosing ++ rest))) := by
    refine Text.span_append (fun c hc => ?_) ?_
    · rw [hnone c hc]
      rfl
    · have hblank {c : Char} (hc : c ∈ tagBlanks) :
          (!(endsTagName c || plainRules.refuses c)) = false := by
        rw [(isBlank_of_mem_tagBlanks hc).2]
        rfl
      cases as with
      | cons a as =>
          obtain ⟨c, gap, hgap⟩ := List.exists_cons_of_ne_nil (has a (by simp)).gap_ne_nil
          have hc := (has a (by simp)).gap c (by simp [hgap])
          simpa [Quoted.write, hgap] using hblank hc
      | nil =>
          cases blanks with
          | cons c blanks => simpa using hblank (hblanks c (by simp))
          | nil => cases selfClosing <;> simp [tagEnd, endsTagName]
  have hfuel : as.length
      ≤ (name ++ (as.flatMap Quoted.write ++ (blanks ++ (tagEnd selfClosing ++ rest)))).length := by
    have hlength := length_le_flatMap_write as
    simp only [List.length_append]
    omega
  obtain ⟨last, gapEnd, hgaps, hnil, hattributes⟩ :=
    takeAttributes_quoted has hblanks selfClosing rest hfuel (lastOr '<' name)
  unfold StartTag.read
  rw [hspan]
  dsimp only
  rw [hgaps]
  dsimp only
  rw [hattributes]
  dsimp only
  -- without attributes the end is looked for behind slashes too
  have hleft : (tagEnd selfClosing ++ rest).take
      ((tagEnd selfClosing ++ rest).length - rest.length) = tagEnd selfClosing := by simp
  have hending : ∃ t, (if (as.map fun a => (a.key, some a.value)).isEmpty
      then (dropGaps false last gapEnd).2
      else (tagEnd selfClosing ++ rest).dropWhile Text.isBlank) = t
        ∧ (t = '>' :: rest ∨ t = '/' :: '>' :: rest) := by
    refine ⟨_, rfl, ?_⟩
    split
    · rename_i hempty
      rw [hnil (by simpa using hempty)]
      cases selfClosing <;> exact .inl rfl
    · cases selfClosing
      · exact .inl rfl
      · exact .inr rfl
  obtain ⟨t, ht, hcases⟩ := hending
  rw [ht]
  have hclosed : (do
      let left := (tagEnd selfClosing ++ rest).take
        ((tagEnd selfClosing ++ rest).length - rest.length)
      let mark := Text.trim left
      if mark == ['>'] || mark == "/>".toList then
        let values ← readValues (as.map fun a => (a.key, some a.value))
        return TagReading.tag ⟨Text.lower name, values, mark == "/>".toList⟩ rest
      else return .junk rest : Except NumeralError TagReading)
      = (readValues (as.map fun a => (a.key, some a.value))).map fun values =>
          .tag ⟨Text.lower name, values, selfClosing⟩ rest := by
    rw [hleft]
    cases selfClosing <;> rfl
  rcases hcases with rfl | rfl <;> exact hclosed

/-! ## Reading what a program writes -/

/-- An attribute that a program writes. -/
def Quoted.ofEscaped (a : Text × Text) : Quoted := ⟨[' '], a.1, '"', escape a.2⟩

theorem writeAttributes_eq (as : List (Text × Text)) :
    writeAttributes as
      = (as.map Quoted.ofEscaped).flatMap Quoted.write ++ ([] ++ (tagEnd false ++ [])) := by
  rw [writeAttributes, List.flatMap_map]
  rfl

theorem readValues_written {as : List (Text × Text)} (h : AreNamed as) :
    readValues (as.map fun a => (a.1, some (escape a.2))) = .ok as := by
  induction as with
  | nil => rfl
  | cons a as ih =>
      rw [List.map_cons, readValues, ih fun x hx => h x (by simp [hx]), Option.getD_some,
        unescape_escape, lower_eq_self (mem_nameLetters (h a (by simp)))]
      rfl

theorem isTagName_of_isName {name : Text} (h : isName name = true) : IsTagName name := by
  have hinner : ∀ c ∈ nameLetters, endsTagName c = false := List.all_iff_forall_prop.mp (by decide)
  have hletter : ∀ c ∈ smallLetters, isLetter c = true := List.all_iff_forall_prop.mp (by decide)
  obtain ⟨c, more, hcons, hc, -⟩ := isName_iff.mp h
  exact ⟨c, more, hcons, hletter c hc, fun x hx => hinner x (mem_nameLetters h x hx)⟩

theorem Quoted.isWellFormed_ofEscaped {a : Text × Text} (h : isName a.1 = true) :
    (Quoted.ofEscaped a).IsWellFormed := by
  have hvalue : '"' ∉ escape a.2 := not_mem_escape (by decide) a.2
  have hinner : ∀ c ∈ nameLetters, isKeyChar c = true := List.all_iff_forall_prop.mp (by decide)
  obtain ⟨c, more, hcons, -⟩ := isName_iff.mp h
  refine ⟨List.cons_ne_nil _ _, by simp [Quoted.ofEscaped, tagBlanks], ?_,
    fun x hx => hinner x (mem_nameLetters h x hx), by simp [Quoted.ofEscaped],
    hvalue⟩
  rw [Quoted.ofEscaped, hcons]
  exact List.cons_ne_nil _ _

/-- **A written start tag is read as itself.** -/
theorem StartTag.read_written {name : Text} {as : List (Text × Text)} (hname : isName name = true)
    (has : AreNamed as) (rest : Text) :
    StartTag.read plainRules false (name ++ (writeAttributes as ++ rest))
      = .ok (.tag ⟨name, as, false⟩ rest) := by
  have hwell : ∀ a ∈ as.map Quoted.ofEscaped, a.IsWellFormed := by
    intro a ha
    obtain ⟨b, hb, rfl⟩ := List.mem_map.mp ha
    exact Quoted.isWellFormed_ofEscaped (has b hb)
  have hread := @StartTag.read_quoted name _ (isTagName_of_isName hname) hwell [] (by simp) false
    rest
  have hvalues : (as.map Quoted.ofEscaped).map (fun a => (a.key, some a.value))
      = as.map fun a => (a.1, some (escape a.2)) := by
    rw [List.map_map]
    rfl
  rw [hvalues, readValues_written has, lower_eq_self (mem_nameLetters hname)] at hread
  rw [writeAttributes_eq, List.append_nil, List.nil_append, List.append_assoc]
  exact hread

/-! ## Reading an end tag -/

/-- **A written end tag is read as itself.** -/
theorem endTag_written {name : Text} (hname : isName name = true) (rest : Text) :
    endTag (name ++ '>' :: rest) = .events [.endTag name] rest := by
  have hmem := mem_nameLetters hname
  obtain ⟨c, more, hcons, hc, hmore⟩ := isName_iff.mp hname
  have hend : afterFirst? '>' (name ++ '>' :: rest) = some rest := by
    have hinner : ∀ c ∈ nameLetters, (c != '>') = true := List.all_iff_forall_prop.mp (by decide)
    rw [afterFirst?, List.dropWhile_append_of_pos fun c hx => hinner c (hmem c hx)]
    rfl
  have hplain : plainEndTag? (name ++ '>' :: rest) = some (name, rest) := by
    have hletter : ∀ c ∈ smallLetters, Text.isBlank c = false ∧ isLetter c = true :=
      List.all_iff_forall_prop.mp (by decide)
    have hinner : ∀ c ∈ nameLetters,
        (c.isAlphanum || c == '-' || c == '.' || c == ':' || c == '_') = true :=
      List.all_iff_forall_prop.mp (by decide)
    have hspan : (more ++ '>' :: rest).span
        (fun x => x.isAlphanum || x == '-' || x == '.' || x == ':' || x == '_')
        = (more, '>' :: rest) :=
      Text.span_append (fun x hx => hinner x (hmore x hx)) (by simp)
    rw [plainEndTag?, hcons, List.cons_append,
      List.dropWhile_cons_of_neg (by simp [(hletter c hc).1])]
    dsimp only
    rw [if_pos (hletter c hc).2, hspan]
    rfl
  rw [endTag, hend]
  dsimp only
  rw [hplain]
  dsimp only
  rw [lower_eq_self hmem]

end Gamebook.Html
