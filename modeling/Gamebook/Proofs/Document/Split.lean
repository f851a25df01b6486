import Gamebook.Proofs.Definition.Decode
import Gamebook.Proofs.Yaml.Construct

/-!
# A broken block costs the definitions only

A document is split whatever its definitions block holds, as long as the block is tame: what
cannot be read in it ends as a decoding error next to an empty glossary. Only a tag of the
author's, an escape of eight figures for a number out of all bounds, or a floating number to
base sixty with very many parts can end the reading of the whole document.
-/

namespace Gamebook

namespace Yaml

/-- A block whose characters are let through has none that stands for its end. -/
theorem checkCharacters_yields (block : Text) :
    Yields (fun _ => Cursor.endMark ∉ block) (checkCharacters block) := by
  unfold checkCharacters
  dsimp only
  split
  · rename_i hdrop
    intro hmem
    have hall : block.takeWhile isAcceptable = block :=
      (List.takeWhile_prefix isAcceptable).eq_of_length_le (List.drop_eq_nil_iff.mp hdrop)
    rw [← hall] at hmem
    exact absurd (List.mem_takeWhile_imp hmem) (by decide)
  · exact rfl

/-- **A tame block has a value**, or a contained fault is met. -/
theorem load_yields {block : Text} (ht : Tame block) : Yields (fun _ => True) (load block) := by
  unfold load
  refine (checkCharacters_yields block).bind fun _ hended => ?_
  refine (ofScan_yields ⟨ht, hended⟩).bind ?_
  rintro ⟨root, g⟩ hg
  cases root with
  | none => trivial
  | some id => exact construct_yields ht hg id

end Yaml

namespace Decoded

/-- Nothing is wrong with a value that costs more than the definitions. -/
theorem ofValue_isContained {v : Value} {e : DecodeError} (h : ofValue v = .error e) :
    e.isContained = true := by
  unfold ofValue at h
  split at h
  · exact absurd h (by simp)
  · obtain ⟨e, rfl⟩ := addEntries_eq_error h
    rfl
  · injection h with h
    subst h
    rfl

end Decoded

/-- A failure to decode a block that costs more than the definitions is a fault of its text. -/
theorem Glossary.load_of_decode {block : Text} {e : DecodeError}
    (h : Glossary.decode block = .error e) (he : e.isContained = false) :
    ∃ f, Yaml.load block = .error f ∧ e = .unreadable block f := by
  unfold Glossary.decode at h
  cases hload : Yaml.load block with
  | error f =>
      rw [hload] at h
      exact ⟨f, rfl, (Except.error.inj h).symm⟩
  | ok v =>
      rw [hload] at h
      have := Decoded.ofValue_isContained h
      rw [he] at this
      exact absurd this (by simp)

/-- **A tame block is decoded**, or a contained failure is met. -/
theorem Glossary.decode_isContained {block : Text} (ht : Yaml.Tame block) {e : DecodeError}
    (h : Glossary.decode block = .error e) : e.isContained = true := by
  by_contra he
  rw [Bool.not_eq_true] at he
  obtain ⟨f, hload, rfl⟩ := Glossary.load_of_decode h he
  have hf := Yaml.load_yields ht
  rw [hload] at hf
  exact absurd (hf.symm.trans he) (by simp)

namespace Split

/-- What a document is split into when its definitions block costs the definitions at most. -/
inductive Degrades (document : Text) : Split → Prop
  /-- A document without a block has no definitions, and nothing is wrong with it. -/
  | plain (hcut : Document.cut? document = none) :
      Degrades document ⟨Text.trim document, [], none, []⟩
  /-- The definitions of a block that is decoded. -/
  | decoded {cut : Document.Cut} {d : Decoded} (hcut : Document.cut? document = some cut)
      (hd : Glossary.decode cut.body = .ok d) :
      Degrades document ⟨Text.trim (cut.before ++ cut.after), d.glossary, none, d.entryErrors⟩
  /-- A block that is not decoded leaves its error and nothing else. -/
  | broken {cut : Document.Cut} {e : DecodeError} (hcut : Document.cut? document = some cut)
      (he : Glossary.decode cut.body = .error e) :
      Degrades document ⟨Text.trim (cut.before ++ cut.after), [], some e, []⟩

/--
**Every document with a tame block is split.**

A failure to decode the block ends as the decoding error of the split, with an empty
glossary and no errors of entries. The document is not split at all only if the block is
not tame and the fault of it is one of a scalar that does not fit its tag, or of a number
that is too large.
-/
theorem ofDocument_degrades (document : Text) :
    (∃ split, ofDocument document = .ok split ∧ Degrades document split)
      ∨ ∃ cut f, Document.cut? document = some cut ∧ ¬Yaml.Tame cut.body
        ∧ Yaml.load cut.body = .error f ∧ f.isContained = false
        ∧ ofDocument document = .error (.unreadable cut.body f) := by
  unfold ofDocument
  cases hcut : Document.cut? document with
  | none => exact .inl ⟨_, rfl, .plain hcut⟩
  | some cut =>
      cases hdec : Glossary.decode cut.body with
      | ok d => exact .inl ⟨_, by simp only [hdec], .decoded hcut hdec⟩
      | error e =>
          cases he : e.isContained with
          | true => exact .inl ⟨_, by simp only [hdec, he, if_true], .broken hcut hdec⟩
          | false =>
              obtain ⟨f, hload, rfl⟩ := Glossary.load_of_decode hdec he
              refine .inr ⟨cut, f, rfl, ?_, hload, he, ?_⟩
              · intro ht
                have := Glossary.decode_isContained ht hdec
                rw [he] at this
                exact absurd this (by simp)
              · simp only [hdec, he, Bool.false_eq_true, if_false]

/-- A truth value that is tagged as one and is no word for it ends the reading. -/
theorem ofDocument_brokenTag :
    ¬∃ split, ofDocument "Intro\n```definitions\nA: !!bool maybe\n```\n".toList = .ok split := by
  rintro ⟨split, h⟩
  have hok : (ofDocument "Intro\n```definitions\nA: !!bool maybe\n```\n".toList).isOk = false := by
    decide +kernel
  rw [h] at hok
  exact absurd hok (by simp [Except.isOk, Except.toBool])

end Split

end Gamebook
