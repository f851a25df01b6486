import Gamebook.Text.Scan

/-!
# Scans

A scan asks its recogniser at every place. Most recognisers do not look at the
character before the place; for those a scan can be restarted anywhere, and the
pieces of a text that is written as a word and a rest are the pieces of the word
followed by those of the rest:

* `scan_found` if the recogniser reads the word;
* `scan_passed` if it reads nothing there.
-/

namespace Gamebook.Text

variable {α : Type}

/-- A recogniser that does not look at the character before a place. -/
def Forgets (find : Recogniser α) : Prop := ∀ b t, find b t = find none t

theorem scanFrom_forgets {find : Recogniser α} (h : Forgets find) (b : Option Char) (skip : Nat)
    (t : Text) : scanFrom find b skip t = scan find (t.drop skip) := by
  induction t generalizing b skip with
  | nil => cases skip <;> simp [scan, scanFrom]
  | cons c t ih =>
      cases skip with
      | succ skip => rw [scanFrom, ih, List.drop_succ_cons]
      | zero =>
          rw [List.drop_zero, scan, scanFrom, scanFrom, h b]

/-- The characters that a finding has taken are passed over. -/
theorem scanFrom_skip (find : Recogniser α) (b : Option Char) (u t : Text) :
    scanFrom find b u.length (u ++ t) = scanFrom find (u.getLast?.or b) 0 t := by
  induction u generalizing b with
  | nil => rfl
  | cons c u ih =>
      rw [List.cons_append, List.length_cons, scanFrom, ih, List.getLast?_cons]
      cases u.getLast? <;> rfl

theorem scanFrom_found {find : Recogniser α} {b : Option Char} {word t : Text} {a : α}
    (hne : word ≠ []) (hf : find b (word ++ t) = some (a, word.length)) :
    scanFrom find b 0 (word ++ t) = .found a :: scanFrom find word.getLast? 0 t := by
  obtain ⟨c, word, rfl⟩ := List.exists_cons_of_ne_nil hne
  rw [List.cons_append] at hf ⊢
  rw [scanFrom, hf]
  dsimp only
  rw [List.length_cons, Nat.add_sub_cancel, scanFrom_skip, List.getLast?_cons]
  cases word.getLast? <;> rfl

theorem scanFrom_passed {find : Recogniser α} {b : Option Char} {c : Char} {t : Text}
    (hf : find b (c :: t) = none) :
    scanFrom find b 0 (c :: t) = .plain c :: scanFrom find (some c) 0 t := by
  rw [scanFrom, hf]

/-- Where a word is found, the scan goes on behind it. -/
theorem scan_found {find : Recogniser α} (h : Forgets find) {word t : Text} {a : α}
    (hne : word ≠ []) (hf : find none (word ++ t) = some (a, word.length)) :
    scan find (word ++ t) = .found a :: scan find t := by
  cases word with
  | nil => exact absurd rfl hne
  | cons c word =>
      rw [List.cons_append] at hf ⊢
      rw [scan, scanFrom, hf]
      dsimp only
      rw [scanFrom_forgets h]
      simp

theorem scan_passed {find : Recogniser α} (h : Forgets find) {c : Char} {t : Text}
    (hf : find none (c :: t) = none) : scan find (c :: t) = .plain c :: scan find t := by
  rw [scan, scanFrom, hf]
  dsimp only
  rw [scanFrom_forgets h, List.drop_zero]

/-- A word in which nothing can begin is passed over. -/
theorem scan_passed_word {find : Recogniser α} (h : Forgets find) {u : Text} (t : Text)
    (hu : ∀ v, v ≠ [] → v <:+ u → find none (v ++ t) = none) :
    scan find (u ++ t) = u.map .plain ++ scan find t := by
  induction u with
  | nil => rfl
  | cons c u ih =>
      have hc : find none (c :: (u ++ t)) = none := hu (c :: u) (by simp) List.suffix_rfl
      rw [List.cons_append, scan_passed h hc,
        ih fun v hne hv => hu v hne (hv.trans (List.suffix_cons c u))]
      rfl

/-- Characters at which nothing can begin are passed over. -/
theorem scan_passed_all {find : Recogniser α} (h : Forgets find) {u : Text} (t : Text)
    (hu : ∀ c ∈ u, ∀ t, find none (c :: t) = none) :
    scan find (u ++ t) = u.map .plain ++ scan find t := by
  refine scan_passed_word h t fun v hne hv => ?_
  obtain ⟨c, v, rfl⟩ := List.exists_cons_of_ne_nil hne
  exact hu c (hv.subset (by simp)) (v ++ t)

/-- A text that is found as a whole has no other piece. -/
theorem scan_whole {find : Recogniser α} {t : Text} {a : α} (hne : t ≠ [])
    (hf : find none t = some (a, t.length)) : scan find t = [.found a] := by
  have hskip (b : Option Char) (u : Text) : scanFrom find b u.length u = [] := by
    induction u generalizing b with
    | nil => rfl
    | cons c u ih => exact ih (some c)
  obtain ⟨c, t, rfl⟩ := List.exists_cons_of_ne_nil hne
  rw [scan, scanFrom, hf]
  dsimp only
  rw [List.length_cons, Nat.add_sub_cancel, hskip]

namespace Piece

theorem mem_findings {ps : List (Piece α)} {a : α} : a ∈ findings ps ↔ .found a ∈ ps := by
  rw [findings, List.mem_filterMap]
  constructor
  · rintro ⟨p, hp, hpa⟩
    cases p with
    | plain c => exact absurd hpa (by simp)
    | found b =>
        obtain rfl := Option.some.inj hpa
        exact hp
  · exact fun h => ⟨.found a, h, rfl⟩

@[simp] theorem findings_append (ps qs : List (Piece α)) :
    findings (ps ++ qs) = findings ps ++ findings qs := List.filterMap_append ..

@[simp] theorem findings_plain (u : Text) : findings (u.map (plain : Char → Piece α)) = [] := by
  induction u with
  | nil => rfl
  | cons c u ih => exact ih

@[simp] theorem render_cons_plain (f : α → Text) (c : Char) (ps : List (Piece α)) :
    render f (plain c :: ps) = c :: render f ps := rfl

@[simp] theorem render_cons_found (f : α → Text) (a : α) (ps : List (Piece α)) :
    render f (found a :: ps) = f a ++ render f ps := rfl

@[simp] theorem render_append (f : α → Text) (ps qs : List (Piece α)) :
    render f (ps ++ qs) = render f ps ++ render f qs := List.flatMap_append ..

theorem render_concat_plain (f : α → Text) (ps : List (Piece α)) (c : Char) :
    render f (ps ++ [plain c]) = render f ps ++ [c] := by
  rw [render_append, render_cons_plain]
  rfl

theorem render_concat_found (f : α → Text) (ps : List (Piece α)) (a : α) :
    render f (ps ++ [found a]) = render f ps ++ f a := by
  rw [render_append, render_cons_found]
  exact congrArg (render f ps ++ ·) (List.append_nil (f a))

@[simp] theorem render_plain (f : α → Text) (u : Text) : render f (u.map plain) = u := by
  induction u with
  | nil => rfl
  | cons c u ih =>
      show c :: render f (u.map plain) = _
      rw [ih]

@[simp] theorem renderFrom_plain (f : Nat → α → Text) (k : Nat) (u : Text)
    (ps : List (Piece α)) : renderFrom f k (u.map plain ++ ps) = u ++ renderFrom f k ps := by
  induction u with
  | nil => rfl
  | cons c u ih =>
      show c :: renderFrom f k (u.map plain ++ ps) = _
      rw [ih]
      rfl

theorem mem_render_of_found {f : α → Text} {ps : List (Piece α)} {a : α} {c : Char}
    (h : .found a ∈ ps) (hc : c ∈ f a) : c ∈ render f ps :=
  List.mem_flatMap.mpr ⟨.found a, h, hc⟩

/-- Two ways to write what is found write different texts, if they differ at everything that can
be found, whatever follows. -/
theorem renderFrom_ne {f g : Nat → α → Text} (h : ∀ k a u v, f k a ++ u ≠ g k a ++ v)
    {ps : List (Piece α)} {a : α} (ha : .found a ∈ ps) (k : Nat) :
    renderFrom f k ps ≠ renderFrom g k ps := by
  induction ps generalizing k with
  | nil => exact absurd ha (by simp)
  | cons p ps ih =>
      cases p with
      | found b => exact h k b (renderFrom f (k + 1) ps) (renderFrom g (k + 1) ps)
      | plain c =>
          rcases List.mem_cons.mp ha with he | ha
          · exact absurd he (by simp)
          · intro he
            injection he with _ he
            exact ih ha k he

theorem render_congr {f g : α → Text} {ps : List (Piece α)}
    (h : ∀ a ∈ findings ps, f a = g a) : render f ps = render g ps := by
  induction ps with
  | nil => rfl
  | cons p ps ih =>
      cases p with
      | plain c => exact congrArg (c :: ·) (ih h)
      | found a =>
          rw [render_cons_found, render_cons_found, h a (List.mem_cons_self ..),
            ih fun b hb => h b (List.mem_cons_of_mem a hb)]

/-- If two ways to write what is found are the same or differ whatever follows, then what is
written tells where they differ, and what follows. -/
theorem eq_of_render_append {f g : α → Text} {ps : List (Piece α)} {x y : Text}
    (h : ∀ a ∈ findings ps, f a = g a ∨ ∀ v w, f a ++ v ≠ g a ++ w)
    (he : render f ps ++ x = render g ps ++ y) : (∀ a ∈ findings ps, f a = g a) ∧ x = y := by
  induction ps with
  | nil => exact ⟨fun a ha => absurd ha List.not_mem_nil, he⟩
  | cons p ps ih =>
      cases p with
      | plain c => exact ih h (List.cons.inj he).2
      | found a =>
          rw [render_cons_found, render_cons_found, List.append_assoc, List.append_assoc] at he
          rcases h a (List.mem_cons_self ..) with ha | ha
          · rw [ha] at he
            obtain ⟨hrest, hxy⟩ :=
              ih (fun b hb => h b (List.mem_cons_of_mem a hb)) (List.append_cancel_left he)
            exact ⟨List.forall_mem_cons.mpr ⟨ha, hrest⟩, hxy⟩
          · exact absurd he (ha _ _)

/-- Where nothing is found, all of the text is passed over. -/
theorem eq_map_plain (f : α → Text) {ps : List (Piece α)} (h : ∀ a, .found a ∉ ps) :
    ps = (render f ps).map plain := by
  induction ps with
  | nil => rfl
  | cons p ps ih =>
      cases p with
      | plain c => exact congrArg (plain c :: ·) (ih fun a ha => h a (by simp [ha]))
      | found a => exact absurd (List.mem_cons_self ..) (h a)

end Piece

/-- Where nothing can be read, nothing is found. -/
theorem scan_eq_map_plain {find : Recogniser α} (h : Forgets find) {t : Text}
    (ht : ∀ u, u ≠ [] → u <:+ t → find none u = none) : scan find t = t.map .plain := by
  have hscan := scan_passed_word h [] fun u hne hu => by
    rw [List.append_nil]
    exact ht u hne hu
  rw [List.append_nil] at hscan
  rw [hscan]
  exact List.append_nil _

/-- Where something can be read, something is found. -/
theorem exists_found {find : Recogniser α} (h : Forgets find) {u t : Text} (hne : t ≠ [])
    (hfind : (find none t).isSome) : ∃ a, .found a ∈ scan find (u ++ t) := by
  have hstart {t : Text} (hne : t ≠ []) (hfind : (find none t).isSome) :
      ∃ a, .found a ∈ scan find t := by
    obtain ⟨c, t, rfl⟩ := List.exists_cons_of_ne_nil hne
    obtain ⟨⟨a, n⟩, hfind⟩ := Option.isSome_iff_exists.mp hfind
    exact ⟨a, by rw [scan, scanFrom, hfind]; simp⟩
  induction u with
  | nil => exact hstart hne hfind
  | cons c u ih =>
      rw [List.cons_append]
      cases hc : find none (c :: (u ++ t)) with
      | some r => exact hstart (by simp) (by rw [hc]; rfl)
      | none =>
          obtain ⟨a, ha⟩ := ih
          exact ⟨a, by rw [scan_passed h hc]; exact List.mem_cons_of_mem _ ha⟩

/-- Where every finding is written from a character on that a word does not hold, the word stands
at the start of what is written only if it stood there before. -/
theorem prefix_of_prefix_renderFrom {find : Recogniser α} (h : Forgets find)
    {f : Nat → α → Text} {d : Char} (hf : ∀ k a, (f k a).head? = some d) {u t : Text} (hu : d ∉ u)
    {k : Nat} (hp : u <+: Piece.renderFrom f k (scan find t)) : u <+: t := by
  induction u generalizing t with
  | nil => exact List.nil_prefix
  | cons c u ih =>
      cases t with
      | nil => exact hp
      | cons e t =>
          cases hfind : find none (e :: t) with
          | none =>
              rw [scan_passed h hfind] at hp
              obtain ⟨hce, hrest⟩ := List.cons_prefix_cons.mp hp
              exact List.cons_prefix_cons.mpr ⟨hce, ih (fun hm => hu (by simp [hm])) hrest⟩
          | some r =>
              obtain ⟨a, n⟩ := r
              rw [scan, scanFrom, hfind] at hp
              obtain ⟨written, hwritten⟩ := List.head?_eq_some_iff.mp (hf k a)
              rw [Piece.renderFrom, hwritten, List.cons_append] at hp
              exact absurd (List.cons_prefix_cons.mp hp).1 fun he => hu (by simp [he])

/-! ## What any scan keeps -/

/-- What is found is read somewhere in the text. -/
theorem find_of_mem_scanFrom {find : Recogniser α} {before : Option Char} {skip : Nat} {t : Text}
    {a : α} (h : .found a ∈ scanFrom find before skip t) :
    ∃ b u n, u <:+ t ∧ find b u = some (a, n) := by
  induction t generalizing before skip with
  | nil => cases skip <;> exact absurd h (by simp [scanFrom])
  | cons c t ih =>
      have later {before : Option Char} {skip : Nat} (h : .found a ∈ scanFrom find before skip t) :
          ∃ b u n, u <:+ c :: t ∧ find b u = some (a, n) := by
        obtain ⟨b, u, n, hu, hfind⟩ := ih h
        exact ⟨b, u, n, hu.trans (List.suffix_cons c t), hfind⟩
      cases skip with
      | succ skip =>
          rw [scanFrom] at h
          exact later h
      | zero =>
          rw [scanFrom] at h
          split at h
          · rename_i a' n hfind
            rcases List.mem_cons.mp h with h | h
            · injection h with h
              subst h
              exact ⟨before, c :: t, n, List.suffix_rfl, hfind⟩
            · exact later h
          · rcases List.mem_cons.mp h with h | h
            · exact absurd h (by simp)
            · exact later h

/-- Where `f` writes what is found as it was read, nothing of the text is lost. -/
theorem render_scanFrom {find : Recogniser α} {f : α → Text}
    (h : ∀ b t a n, find b t = some (a, n) → n ≠ 0 ∧ t.take n = f a) (before : Option Char)
    (skip : Nat) (t : Text) : Piece.render f (scanFrom find before skip t) = t.drop skip := by
  induction t generalizing before skip with
  | nil => cases skip <;> simp [scanFrom, Piece.render]
  | cons c t ih =>
      cases skip with
      | succ skip => rw [scanFrom, ih, List.drop_succ_cons]
      | zero =>
          rw [scanFrom, List.drop_zero]
          split
          · rename_i a n hfind
            obtain ⟨hn, htake⟩ := h before (c :: t) a n hfind
            obtain ⟨n, rfl⟩ := Nat.exists_eq_succ_of_ne_zero hn
            show f a ++ Piece.render f (scanFrom find (some c) n t) = _
            rw [ih, ← htake]
            exact List.take_append_drop (n + 1) (c :: t)
          · show c :: Piece.render f (scanFrom find (some c) 0 t) = _
            rw [ih, List.drop_zero]

end Gamebook.Text
