import Gamebook.Cartridge
import Gamebook.Proofs.Fallible
import Gamebook.Proofs.Text.Words

/-!
# Without its block

A definitions block is taken out of a document before anything else looks at the text, and what
stands before and behind it is joined. This file compares the document with the one that never
had the block. `IsBlock` says what a block is without looking for it, and `cut?_eq_none_iff` that
none is overlooked; then loading is split into what depends on the block, which is the glossary
with its errors, and the way from there, on which the decoding error is only handed on
(`ofSplit_withDecodeError`).
-/

namespace Gamebook

namespace Document

/-- A definitions block: an opening fence, line breaks, and all up to a closing fence. -/
def IsBlock (t : Text) : Prop :=
  ∃ breaks body, breaks ≠ [] ∧ (∀ c ∈ breaks, isNewline c = true)
    ∧ t = opening ++ (breaks ++ (body ++ fence))

/-- The block that a document is cut at. -/
def Cut.block (cut : Cut) : Text := opening ++ (cut.breaks ++ (cut.body ++ fence))

theorem cutHere?_eq_some {t : Text} {cut : Cut} (h : cutHere? t = some cut) :
    cut.before = [] ∧ t = cut.block ++ cut.after ∧ IsBlock cut.block := by
  unfold cutHere? at h
  split at h
  · exact absurd h (by simp)
  · rename_i rest hafter
    split at h
    · exact absurd h (by simp)
    · rename_i breaks rest' hbreaksNe hspan
      obtain ⟨⟨body, after⟩, hcut, rfl⟩ := Option.map_eq_some_iff.mp h
      obtain ⟨hrest, hbreaks⟩ := Text.eq_append_of_span hspan
      refine ⟨rfl, ?_, breaks, body, hbreaksNe, hbreaks, rfl⟩
      rw [Text.after?_eq_some.mp hafter, hrest, Text.eq_append_of_cutAt? hcut]
      simp [Cut.block]

/-- **A document that is cut is what stands before its block, the block and what follows.** -/
theorem cut?_eq_some {t : Text} {cut : Cut} (h : cut? t = some cut) :
    t = cut.before ++ (cut.block ++ cut.after) ∧ IsBlock cut.block := by
  induction t generalizing cut with
  | nil => exact absurd h (by simp [cut?])
  | cons c t ih =>
      rw [cut?] at h
      split at h
      · rename_i cut' hhere
        obtain rfl := Option.some.inj h
        obtain ⟨hbefore, ht, hblock⟩ := cutHere?_eq_some hhere
        rw [hbefore]
        exact ⟨ht, hblock⟩
      · obtain ⟨cut', hcut', rfl⟩ := Option.map_eq_some_iff.mp h
        obtain ⟨ht, hblock⟩ := ih hcut'
        exact ⟨congrArg (c :: ·) ht, hblock⟩

/-- The closing fence is still there when line breaks are passed over. -/
theorem fence_infix_dropWhile (body rest : Text) :
    fence <:+: (body ++ (fence ++ rest)).dropWhile isNewline := by
  induction body with
  | nil => exact ⟨[], rest, rfl⟩
  | cons c body ih =>
      rw [List.cons_append, List.dropWhile_cons]
      split
      · exact ih
      · exact ⟨c :: body, rest, by simp⟩

/-- Where a block begins, the text is cut. -/
theorem isSome_cutHere? {block : Text} (h : IsBlock block) (rest : Text) :
    (cutHere? (block ++ rest)).isSome := by
  obtain ⟨breaks, body, hne, hbreaks, rfl⟩ := h
  have htext : opening ++ (breaks ++ (body ++ fence)) ++ rest
      = opening ++ (breaks ++ (body ++ (fence ++ rest))) := by simp
  have hspan : (breaks ++ (body ++ (fence ++ rest))).span isNewline
      = (breaks ++ (body ++ (fence ++ rest)).takeWhile isNewline,
        (body ++ (fence ++ rest)).dropWhile isNewline) := by
    rw [List.span_eq_takeWhile_dropWhile, List.takeWhile_append_of_pos hbreaks,
      List.dropWhile_append_of_pos hbreaks]
  obtain ⟨b, breaks, rfl⟩ := List.exists_cons_of_ne_nil hne
  rw [htext, cutHere?, Text.after?_append]
  dsimp only
  rw [hspan]
  show ((Text.cutAt? fence _).map _).isSome
  rw [Option.isSome_map]
  exact Text.isSome_cutAt?_iff.mpr (fence_infix_dropWhile body rest)

theorem isSome_cut? {block t : Text} (h : IsBlock block) (hin : block <:+: t) :
    (cut? t).isSome := by
  induction t with
  | nil =>
      obtain ⟨breaks, body, -, -, rfl⟩ := h
      exact absurd (List.append_eq_nil_iff.mp (List.infix_nil.mp hin)).1 (by decide)
  | cons c t ih =>
      rw [cut?]
      rcases List.infix_cons_iff.mp hin with ⟨rest, hrest⟩ | hin
      · have hhere := isSome_cutHere? h rest
        rw [hrest] at hhere
        obtain ⟨cut, hcut⟩ := Option.isSome_iff_exists.mp hhere
        rw [hcut]
        rfl
      · split
        · rfl
        · rw [Option.isSome_map]
          exact ih hin

/-- **A document is cut unless no block stands in it.** -/
theorem cut?_eq_none_iff {t : Text} : cut? t = none ↔ ∀ block, IsBlock block → ¬block <:+: t := by
  constructor
  · intro hnone block hblock hin
    have hsome := isSome_cut? hblock hin
    rw [hnone] at hsome
    exact absurd hsome (by simp)
  · intro hblocks
    cases hcut : cut? t with
    | none => rfl
    | some cut =>
        obtain ⟨ht, hblock⟩ := cut?_eq_some hcut
        exact absurd ⟨cut.before, cut.after, by rw [ht, List.append_assoc]⟩ (hblocks _ hblock)

end Document

namespace Split

/-- What a document with a block is split into. -/
theorem ofDocument_eq_ok {document : Text} {cut : Document.Cut} {split : Split}
    (hcut : Document.cut? document = some cut) (h : ofDocument document = .ok split) :
    split.narrative = Text.trim (cut.before ++ cut.after)
      ∧ (split.decodeError.isSome → split.glossary = [] ∧ split.entryErrors = []) := by
  unfold ofDocument at h
  rw [hcut] at h
  dsimp only at h
  split at h
  · obtain rfl := Except.ok.inj h
    exact ⟨rfl, fun hsome => absurd hsome (by simp)⟩
  · split at h
    · obtain rfl := Except.ok.inj h
      exact ⟨rfl, fun _ => ⟨rfl, rfl⟩⟩
    · exact absurd h (by simp)

theorem ofDocument_of_broken {document : Text} {cut : Document.Cut} {e : DecodeError}
    (hcut : Document.cut? document = some cut) (he : Glossary.decode cut.body = .error e)
    (hcontained : e.isContained = true) :
    ofDocument document = .ok ⟨Text.trim (cut.before ++ cut.after), [], some e, []⟩ := by
  unfold ofDocument
  rw [hcut]
  dsimp only
  rw [he]
  dsimp only
  rw [if_pos hcontained]

theorem ofDocument_of_plain {document : Text} (hcut : Document.cut? document = none) :
    ofDocument document = .ok ⟨Text.trim document, [], none, []⟩ := by
  rw [ofDocument, hcut]

end Split

namespace Cartridge

/-- Loads a document that has been split. -/
def ofSplit (render : Renderer) (idStem : Text) (split : Split) : Except LoadError Cartridge := do
  let html ← (Gamebook.enhance render (defines split.glossary) idStem split.narrative).mapError
    LoadError.enhance
  let tables ← (Table.rollTablesOf html).mapError LoadError.html
  return ⟨split.narrative, split.glossary, Outline.ofNarrative split.narrative, html, tables,
    split.decodeError, split.entryErrors⟩

variable {render : Renderer} {idStem document : Text}

theorem load_eq_bind (render : Renderer) (idStem document : Text) :
    load render idStem document
      = (Split.ofDocument document).mapError LoadError.decode >>= ofSplit render idStem := rfl

/-- **A decoding error is handed on and changes nothing else.** -/
theorem ofSplit_withDecodeError (render : Renderer) (idStem : Text) (split : Split)
    (e : Option DecodeError) :
    ofSplit render idStem { split with decodeError := e }
      = (ofSplit render idStem split).map fun c => { c with decodeError := e } := by
  rw [ofSplit, ofSplit, Fallible.map_bind]
  refine bind_congr fun html => ?_
  rw [Fallible.map_bind]
  rfl

/-- What a loaded cartridge takes from its split. -/
theorem ofSplit_eq_ok {split : Split} {c : Cartridge} (h : ofSplit render idStem split = .ok c) :
    c.narrative = split.narrative ∧ c.outline = Outline.ofNarrative split.narrative
      ∧ c.glossary = split.glossary ∧ c.decodeError = split.decodeError
      ∧ c.entryErrors = split.entryErrors := by
  obtain ⟨html, -, h⟩ := Fallible.bind_eq_ok_iff.mp h
  obtain ⟨tables, -, h⟩ := Fallible.bind_eq_ok_iff.mp h
  obtain rfl := Except.ok.inj h
  exact ⟨rfl, rfl, rfl, rfl, rfl⟩

theorem load_eq_ok {c : Cartridge} :
    load render idStem document = .ok c
      ↔ ∃ split, Split.ofDocument document = .ok split ∧ ofSplit render idStem split = .ok c := by
  rw [load_eq_bind, Fallible.bind_eq_ok_iff]
  exact exists_congr fun split => and_congr_left fun _ => Fallible.mapError_eq_ok_iff

/--
**A broken definitions block costs only the glossary.**

Compare a document with a definitions block to the text around the block, where no other block
stands. With any rendering, whatever the block holds, the two have the same narrative and the same
outline once both are loaded. If the block was not decoded, they are the same but for the decoding
error, and have no definitions and no errors of entries. And the broken block is no reason not to
load the document: it is loaded exactly if the text around the block is, or refused for the same
reason.
-/
theorem load_around_block (render : Renderer) (idStem : Text) {document : Text}
    {cut : Document.Cut} (hcut : Document.cut? document = some cut)
    (hrest : ∀ block, Document.IsBlock block → ¬block <:+: cut.before ++ cut.after) :
    document = cut.before ++ (cut.block ++ cut.after) ∧ Document.IsBlock cut.block
      ∧ (∀ c c', load render idStem document = .ok c →
          load render idStem (cut.before ++ cut.after) = .ok c' →
          c.narrative = c'.narrative ∧ c.outline = c'.outline ∧ c'.decodeError = none
            ∧ (c.decodeError.isSome → c = { c' with decodeError := c.decodeError }
              ∧ c.glossary = [] ∧ c.entryErrors = []))
      ∧ ∀ e, Glossary.decode cut.body = .error e → e.isContained = true →
          load render idStem document
            = (load render idStem (cut.before ++ cut.after)).map fun c' =>
              { c' with decodeError := some e } := by
  obtain ⟨hdocument, hblock⟩ := Document.cut?_eq_some hcut
  have hplain := Split.ofDocument_of_plain (Document.cut?_eq_none_iff.mpr hrest)
  have hload' : load render idStem (cut.before ++ cut.after)
      = ofSplit render idStem ⟨Text.trim (cut.before ++ cut.after), [], none, []⟩ := by
    rw [load_eq_bind, hplain]
    rfl
  refine ⟨hdocument, hblock, fun c c' hc hc' => ?_, fun e he hcontained => ?_⟩
  · obtain ⟨⟨narrative, glossary, decodeError, entryErrors⟩, hsplit, hc⟩ := load_eq_ok.mp hc
    obtain ⟨hnarrative, hbroken⟩ := Split.ofDocument_eq_ok hcut hsplit
    rw [hload'] at hc'
    obtain ⟨hn, ho, hg, hd, hee⟩ := ofSplit_eq_ok hc
    obtain ⟨hn', ho', -, hd', -⟩ := ofSplit_eq_ok hc'
    dsimp only at hnarrative hbroken hn ho hg hd hee hn' ho' hd'
    subst hnarrative
    refine ⟨hn.trans hn'.symm, ho.trans ho'.symm, hd', fun hsome => ?_⟩
    rw [hd] at hsome
    obtain ⟨rfl, rfl⟩ := hbroken hsome
    have hsame := ofSplit_withDecodeError render idStem
      ⟨Text.trim (cut.before ++ cut.after), [], none, []⟩ decodeError
    rw [hc'] at hsame
    rw [hd]
    exact ⟨Except.ok.inj (hc.symm.trans hsame), hg, hee⟩
  · rw [hload', ← ofSplit_withDecodeError, load_eq_bind,
      Split.ofDocument_of_broken hcut he hcontained]
    rfl

/-- A block that holds a list is no glossary, and costs no more than that. -/
theorem load_around_listBlock :
    ∃ cut e c, Document.cut? "# Hall\n```definitions\n- Orc\n```\n".toList = some cut
      ∧ Document.cut? (cut.before ++ cut.after) = none
      ∧ Glossary.decode cut.body = .error e
      ∧ load (fun t => .ok t) "table".toList (cut.before ++ cut.after) = .ok c
      ∧ c.narrative = "# Hall".toList
      ∧ load (fun t => .ok t) "table".toList "# Hall\n```definitions\n- Orc\n```\n".toList
        = .ok { c with decodeError := some e } := by
  have hcut : Document.cut? "# Hall\n```definitions\n- Orc\n```\n".toList
      = some ⟨"# Hall\n".toList, "\n".toList, "- Orc\n".toList, "\n".toList⟩ := rfl
  have hrest : Document.cut? ("# Hall\n".toList ++ "\n".toList) = none := rfl
  have hbroken : ((Glossary.decode "- Orc\n".toList).map fun _ => ()).mapError
      DecodeError.isContained = .error true := by decide +kernel
  have hloaded : ((load (fun t => .ok t) "table".toList ("# Hall\n".toList ++ "\n".toList)).map
      narrative).mapError LoadError.message = .ok "# Hall".toList := by decide +kernel
  obtain ⟨e, hdecode, hcontained⟩ := Fallible.mapError_eq_error_iff.mp hbroken
  obtain ⟨c, hc, hnarrative⟩ := Fallible.map_eq_ok_iff.mp (Fallible.mapError_eq_ok_iff.mp hloaded)
  have he := Fallible.map_eq_error_iff.mp hdecode
  have hload := (load_around_block (fun t => .ok t) "table".toList hcut
    (Document.cut?_eq_none_iff.mp hrest)).2.2.2 e he hcontained
  refine ⟨_, e, c, hcut, hrest, he, hc, hnarrative, hload.trans ?_⟩
  exact Fallible.map_eq_ok_iff.mpr ⟨c, hc, rfl⟩

end Cartridge

end Gamebook
