import Gamebook.Proofs.Fallible
import Gamebook.Proofs.Number.Decimal
import Gamebook.Proofs.Text.Words
import Gamebook.Table.RowKey

/-!
# Row keys up to what they lead to

The roll that leads to a row is read off its first cell, so two cells that are read alike
are as good as each other. What matters is that few characters can stand in a cell that
leads anywhere: digits, blanks and a dash. A cell with any other character leads nowhere,
whatever becomes of the rest of it.

A roll is resolved if every cell can be read, and then to the last row that it leads to.
The rows are told from the end on: the last of them decides, or the rows before it do.
-/

namespace Gamebook.Table

namespace RowKey

theorem read_trim (cell : Text) : read (Text.trim cell) = read cell := by
  rw [read, Text.trim_trim, read]

theorem read_eq_single {cell ds : Text} (h : read cell = .single ds) :
    Text.trim cell = ds ∧ (∀ c ∈ ds, Text.isDigit c = true) ∧ ds ≠ [] := by
  unfold read at h
  split at h
  · exact absurd h (by simp)
  · rename_i low htake
    injection h with h
    subst h
    obtain ⟨ht, hne, hdigits, _⟩ := Text.takeDigits?_eq_some htake
    exact ⟨ht.trans (List.append_nil low), hdigits, hne⟩
  · split at h
    · split at h
      · split at h <;> exact absurd h (by simp)
      · exact absurd h (by simp)
    · exact absurd h (by simp)

theorem read_eq_range {cell low high : Text} (h : read cell = .range low high) :
    ∃ u dash v, Text.trim cell = low ++ (u ++ dash :: (v ++ high))
      ∧ (∀ c ∈ low ++ high, Text.isDigit c = true) ∧ (∀ c ∈ u ++ v, Text.isBlank c = true)
      ∧ isDash dash = true ∧ low ≠ [] ∧ high ≠ [] := by
  unfold read at h
  split at h
  · exact absurd h (by simp)
  · exact absurd h (by simp)
  · rename_i low' rest _ htake
    obtain ⟨ht, hlowNe, hlow, _⟩ := Text.takeDigits?_eq_some htake
    split at h
    · rename_i dash more hrest
      split at h
      · rename_i hdash
        split at h
        · rename_i high' hhigh
          injection h with h1 h2
          subst h1; subst h2
          obtain ⟨hmore, hhighNe, hdigits, _⟩ := Text.takeDigits?_eq_some hhigh
          rw [List.append_nil] at hmore
          refine ⟨rest.takeWhile Text.isBlank, dash, more.takeWhile Text.isBlank, ?_, ?_, ?_, hdash,
            hlowNe, hhighNe⟩
          · rw [ht, ← hmore, Text.trimStart, List.takeWhile_append_dropWhile, ← hrest,
              Text.trimStart, List.takeWhile_append_dropWhile]
          · intro c hc
            rcases List.mem_append.mp hc with hc | hc
            · exact hlow c hc
            · exact hdigits c hc
          · intro c hc
            rcases List.mem_append.mp hc with hc | hc
            · exact List.mem_takeWhile_imp hc
            · exact List.mem_takeWhile_imp hc
        · exact absurd h (by simp)
      · exact absurd h (by simp)
    · exact absurd h (by simp)

/-- **A cell with a character that is no digit, no blank and no dash leads to no roll.** -/
theorem read_eq_other {cell : Text} {c : Char} (h : c ∈ cell) (hdigit : Text.isDigit c = false)
    (hblank : Text.isBlank c = false) (hdash : isDash c = false) : read cell = .other := by
  -- trimming leaves the character in, and every part of a key is made of one of the kinds
  have hmem := Text.mem_trim_of_mem hblank h
  cases hread : read cell with
  | other => rfl
  | single ds =>
      obtain ⟨htrim, hdigits, -⟩ := read_eq_single hread
      rw [htrim] at hmem
      exact absurd (hdigits c hmem) (by rw [hdigit]; decide)
  | range low high =>
      obtain ⟨u, dash, v, htrim, hdigits, hblanks, hdash', -⟩ := read_eq_range hread
      have hnot {p : Char → Bool} {s : Text} (hs : ∀ x ∈ s, p x = true) (hc : p c = false) :
          c ∉ s := fun hm => absurd (hs c hm) (by rw [hc]; decide)
      have hdigits' := hnot hdigits hdigit
      have hblanks' := hnot hblanks hblank
      have hne : c ≠ dash := by
        rintro rfl
        rw [hdash] at hdash'
        exact absurd hdash' (by decide)
      rw [htrim] at hmem
      simp only [List.mem_append, List.mem_cons] at hmem hdigits' hblanks'
      tauto

end RowKey

/-! ## Resolving a roll -/

/-- The last row decides, if a roll leads to it; otherwise the rows before it do. -/
theorem resolveRow_concat (rolled : Int) (cells : List Text) (cell : Text) :
    resolveRow rolled (cells ++ [cell])
      = (do
          let found ← resolveRow rolled cells
          let matched ← rowMatches rolled cell
          return if matched then some cells.length else found) := by
  have hfrom (found : Option Nat) (index : Nat) :
      lastMatchFrom rolled found index (cells ++ [cell])
        = (do
            let found ← lastMatchFrom rolled found index cells
            let matched ← rowMatches rolled cell
            return if matched then some (index + cells.length) else found) := by
    induction cells generalizing found index with
    | nil =>
        simp only [List.nil_append, lastMatchFrom]
        cases rowMatches rolled cell with
        | error e => rfl
        | ok b => cases b <;> rfl
    | cons c cells ih =>
        have hlength : index + (c :: cells).length = index + 1 + cells.length := by
          rw [List.length_cons]
          omega
        simp only [List.cons_append, lastMatchFrom, hlength]
        cases rowMatches rolled c with
        | error e => rfl
        | ok b =>
            cases b with
            | true => exact ih (some index) (index + 1)
            | false => exact ih found (index + 1)
  have h := hfrom none 0
  rwa [Nat.zero_add] at h

theorem resolveRow_concat_ok {rolled : Int} {cells : List Text} {cell : Text} {found : Option Nat}
    {b : Bool} (h : resolveRow rolled cells = .ok found) (hb : rowMatches rolled cell = .ok b) :
    resolveRow rolled (cells ++ [cell]) = .ok (if b then some cells.length else found) := by
  rw [resolveRow_concat, h, hb]
  rfl

/-- A roll is resolved exactly if every row can be read. -/
theorem resolveRow_isOk_iff {rolled : Int} {cells : List Text} :
    (∃ found, resolveRow rolled cells = .ok found)
      ↔ ∀ cell ∈ cells, ∃ b, rowMatches rolled cell = .ok b := by
  induction cells using List.reverseRecOn with
  | nil => simp [resolveRow, lastMatchFrom]
  | append_singleton cells cell ih =>
      rw [List.forall_mem_append, List.forall_mem_singleton, ← ih, resolveRow_concat]
      simp [Fallible.exists_bind_iff, pure, Except.pure]

/-- A roll leads to a row and to no later one. -/
structure IsLastMatch (rolled : Int) (cells : List Text) (row : Nat) : Prop where
  matched : ∃ cell, cells[row]? = some cell ∧ rowMatches rolled cell = .ok true
  last : ∀ later cell, row < later → cells[later]? = some cell →
    rowMatches rolled cell = .ok false

theorem IsLastMatch.lt {rolled : Int} {cells : List Text} {row : Nat}
    (h : IsLastMatch rolled cells row) : row < cells.length := by
  obtain ⟨cell, hcell, _⟩ := h.matched
  exact (List.getElem?_eq_some_iff.mp hcell).1

theorem isLastMatch_concat_true {rolled : Int} {cell : Text}
    (hb : rowMatches rolled cell = .ok true) (cells : List Text) (row : Nat) :
    IsLastMatch rolled (cells ++ [cell]) row ↔ row = cells.length := by
  constructor
  · intro h
    have hlt := h.lt
    rw [List.length_append, List.length_singleton] at hlt
    rcases Nat.lt_or_ge row cells.length with hrow | hrow
    · have hfalse := h.last cells.length cell hrow (by simp)
      rw [hb] at hfalse
      exact absurd hfalse (by simp)
    · omega
  · rintro rfl
    refine ⟨⟨cell, by simp, hb⟩, ?_⟩
    intro later c hlater hc
    have hbound := (List.getElem?_eq_some_iff.mp hc).1
    rw [List.length_append, List.length_singleton] at hbound
    omega

theorem isLastMatch_concat_false {rolled : Int} {cell : Text}
    (hb : rowMatches rolled cell = .ok false) (cells : List Text) (row : Nat) :
    IsLastMatch rolled (cells ++ [cell]) row ↔ IsLastMatch rolled cells row := by
  have hlast {n : Nat} {c : Text} (hc : (cells ++ [cell])[n]? = some c) :
      cells[n]? = some c ∨ c = cell := by
    rcases Nat.lt_or_ge n cells.length with hn | hn
    · exact .inl (by rwa [List.getElem?_append_left hn] at hc)
    · rw [List.getElem?_append_right hn, List.getElem?_singleton] at hc
      split at hc
      · exact .inr (Option.some.inj hc).symm
      · exact absurd hc (by simp)
  have hfirst {n : Nat} {c : Text} (hc : cells[n]? = some c) : (cells ++ [cell])[n]? = some c := by
    rw [List.getElem?_append_left (List.getElem?_eq_some_iff.mp hc).1, hc]
  constructor
  · rintro ⟨⟨c, hc, hmatch⟩, hlater⟩
    refine ⟨⟨c, ?_, hmatch⟩, fun later x hx hc => hlater later x hx (hfirst hc)⟩
    rcases hlast hc with hc | rfl
    · exact hc
    · rw [hb] at hmatch
      exact absurd hmatch (by simp)
  · rintro ⟨⟨c, hc, hmatch⟩, hlater⟩
    refine ⟨⟨c, hfirst hc, hmatch⟩, ?_⟩
    intro later x hx hc
    rcases hlast hc with hc | rfl
    · exact hlater later x hx hc
    · exact hb

/-- **What a roll resolves to is the last row that it leads to.** -/
theorem resolveRow_eq_iff {rolled : Int} {cells : List Text} {found : Option Nat}
    (h : resolveRow rolled cells = .ok found) (row : Nat) :
    found = some row ↔ IsLastMatch rolled cells row := by
  induction cells using List.reverseRecOn generalizing found with
  | nil =>
      injection h with h
      subst h
      exact ⟨by simp, fun hrow => absurd hrow.lt (by simp)⟩
  | append_singleton cells cell ih =>
      obtain ⟨hcells, b, hb⟩ := by
        have hread := resolveRow_isOk_iff.mp ⟨found, h⟩
        rwa [List.forall_mem_append, List.forall_mem_singleton] at hread
      obtain ⟨found', hfound'⟩ := resolveRow_isOk_iff.mpr hcells
      rw [resolveRow_concat_ok hfound' hb] at h
      injection h with h
      subst h
      cases b with
      | true => simp [isLastMatch_concat_true hb, eq_comm]
      | false => simpa [isLastMatch_concat_false hb] using ih hfound'

/-- A roll leads to no row exactly if no row is one that it leads to. -/
theorem resolveRow_eq_none_iff {rolled : Int} {cells : List Text} {found : Option Nat}
    (h : resolveRow rolled cells = .ok found) :
    found = none ↔ ∀ cell ∈ cells, rowMatches rolled cell = .ok false := by
  induction cells using List.reverseRecOn generalizing found with
  | nil =>
      injection h with h
      exact ⟨fun _ => by simp, fun _ => h.symm⟩
  | append_singleton cells cell ih =>
      obtain ⟨hcells, b, hb⟩ := by
        have hread := resolveRow_isOk_iff.mp ⟨found, h⟩
        rwa [List.forall_mem_append, List.forall_mem_singleton] at hread
      obtain ⟨found', hfound'⟩ := resolveRow_isOk_iff.mpr hcells
      rw [resolveRow_concat_ok hfound' hb] at h
      injection h with h
      subst h
      rw [List.forall_mem_append, List.forall_mem_singleton, hb, ← ih hfound']
      cases b <;> simp

/-- All runs of digits of a text are short enough to be read. -/
def ReadableRuns (t : Text) : Prop :=
  ∀ ds, ds <:+: t → (∀ c ∈ ds, Text.isDigit c = true) → ds.length ≤ digitLimit

/-- The runs of digits in such a text can be read. -/
theorem ReadableRuns.read {cell ds : Text} (h : ReadableRuns cell) (hpart : ds <:+: Text.trim cell)
    (hdigits : ∀ c ∈ ds, Text.isDigit c = true) : Number.read ds = .ok (Text.digitsValue ds) :=
  Number.read_of_length (h ds (hpart.trans (Text.isInfix_trim cell)) hdigits)

/-- A cell of readable digits leads to a roll or does not, without an error. -/
theorem rowMatches_ok {cell : Text} (h : ReadableRuns cell) (rolled : Int) :
    ∃ b, rowMatches rolled cell = .ok b := by
  unfold rowMatches
  cases hread : RowKey.read cell with
  | other => exact ⟨false, rfl⟩
  | single ds =>
      obtain ⟨htrim, hdigits, -⟩ := RowKey.read_eq_single hread
      have hwhole : ds <:+: Text.trim cell := htrim ▸ List.infix_rfl
      rw [RowKey.covers, h.read hwhole hdigits]
      exact ⟨_, rfl⟩
  | range low high =>
      obtain ⟨u, dash, v, htrim, hdigits, _⟩ := RowKey.read_eq_range hread
      have hlow : low <:+: Text.trim cell := ⟨[], _, by rw [htrim]; rfl⟩
      have hhigh : high <:+: Text.trim cell := ⟨low ++ (u ++ dash :: v), [], by rw [htrim]; simp⟩
      rw [RowKey.covers, h.read hlow fun c hc => hdigits c (by simp [hc]),
        h.read hhigh fun c hc => hdigits c (by simp [hc])]
      exact ⟨_, rfl⟩

theorem resolveRow_ok {cells : List Text} (h : ∀ cell ∈ cells, ReadableRuns cell) (rolled : Int) :
    ∃ row, resolveRow rolled cells = .ok row :=
  resolveRow_isOk_iff.mpr fun cell hcell => rowMatches_ok (h cell hcell) rolled

/-- **Cells that are read alike resolve every roll alike.** -/
theorem resolveRow_congr {cells cells' : List Text}
    (h : cells.map RowKey.read = cells'.map RowKey.read) (rolled : Int) :
    resolveRow rolled cells = resolveRow rolled cells' := by
  have hfrom (found : Option Nat) (index : Nat) :
      lastMatchFrom rolled found index cells = lastMatchFrom rolled found index cells' := by
    induction cells generalizing cells' found index with
    | nil =>
        cases cells' with
        | nil => rfl
        | cons _ _ => exact absurd h (by simp)
    | cons cell cells ih =>
        cases cells' with
        | nil => exact absurd h (by simp)
        | cons cell' cells' =>
            rw [List.map_cons, List.map_cons] at h
            injection h with hcell hcells
            have hmatches : rowMatches rolled cell = rowMatches rolled cell' := by
              rw [rowMatches, hcell, rowMatches]
            rw [lastMatchFrom, lastMatchFrom, hmatches]
            cases rowMatches rolled cell' with
            | error e => rfl
            | ok b =>
                cases b with
                | true => exact ih hcells (some index) (index + 1)
                | false => exact ih hcells found (index + 1)
  exact hfrom none 0

/-! ## Keys that cannot be read -/

/-- The runs of digits of a row key. -/
def RowKey.numbers : RowKey → List Text
  | single ds => [ds]
  | range low high => [low, high]
  | other => []

/-- A run of digits is a key of its own. -/
theorem RowKey.read_digits {ds : Text} (hne : ds ≠ []) (hdigits : ∀ c ∈ ds, Text.isDigit c = true) :
    read ds = .single ds := by
  have htrim : Text.trim ds = ds :=
    Text.trim_eq_self (fun c hc => Text.isBlank_of_isDigit (hdigits c (List.mem_of_head? hc)))
      fun c hc => Text.isBlank_of_isDigit (hdigits c (List.mem_of_getLast? hc))
  rw [read, htrim, Text.takeDigits?_eq_self hne hdigits]

/-- A key that cannot be read has a run of too many digits. -/
theorem rowMatches_eq_error {rolled : Int} {cell : Text} {e : NumeralError}
    (h : rowMatches rolled cell = .error e) :
    ∃ ds ∈ (RowKey.read cell).numbers, digitLimit < ds.length ∧ e = .tooLongToRead ds.length := by
  unfold rowMatches at h
  cases hread : RowKey.read cell with
  | other => rw [hread] at h; exact absurd h (by simp [RowKey.covers])
  | single ds =>
      rw [hread, RowKey.covers, Fallible.map_eq_error_iff] at h
      rcases Fallible.bind_eq_error_iff.mp h with hds | ⟨n, -, h⟩
      · exact ⟨ds, by simp [RowKey.numbers], Number.read_eq_error_iff.mp hds⟩
      · exact absurd h (by simp [pure, Except.pure])
  | range low high =>
      rw [hread, RowKey.covers] at h
      -- the low end is read first
      rcases Fallible.bind_eq_error_iff.mp h with hlow | ⟨a, -, h⟩
      · exact ⟨low, by simp [RowKey.numbers], Number.read_eq_error_iff.mp hlow⟩
      · rcases Fallible.bind_eq_error_iff.mp h with hhigh | ⟨b, -, h⟩
        · exact ⟨high, by simp [RowKey.numbers], Number.read_eq_error_iff.mp hhigh⟩
        · exact absurd h (by simp [pure, Except.pure])

/-- What stops the resolving of a roll is a key that cannot be read. -/
theorem resolveRow_eq_error {rolled : Int} {cells : List Text} {e : NumeralError}
    (h : resolveRow rolled cells = .error e) :
    ∃ cell ∈ cells, rowMatches rolled cell = .error e := by
  induction cells using List.reverseRecOn with
  | nil => exact absurd h (by simp [resolveRow, lastMatchFrom])
  | append_singleton cells cell ih =>
      rw [resolveRow_concat] at h
      rcases Fallible.bind_eq_error_iff.mp h with hcells | ⟨found, -, h⟩
      · obtain ⟨c, hc, hmatch⟩ := ih hcells
        exact ⟨c, by simp [hc], hmatch⟩
      · rcases Fallible.bind_eq_error_iff.mp h with hcell | ⟨b, -, h⟩
        · exact ⟨cell, by simp, hcell⟩
        · exact absurd h (by simp [pure, Except.pure])

/-- No roll is resolved by a key of too many digits. -/
theorem resolveRow_overlong {n : Nat} (h : digitLimit < n) (rolled : Int) :
    resolveRow rolled [List.replicate n '1'] = .error (.tooLongToRead n) := by
  have hdigits : ∀ c ∈ List.replicate n '1', Text.isDigit c = true := by
    intro c hc
    rw [List.eq_of_mem_replicate hc]
    rfl
  have hne : List.replicate n '1' ≠ [] := by
    rw [ne_eq, List.replicate_eq_nil_iff]
    omega
  have hlong : Number.read (List.replicate n '1') = .error (.tooLongToRead n) :=
    Number.read_eq_error_iff.mpr (by simpa using h)
  rw [resolveRow, lastMatchFrom, rowMatches, RowKey.read_digits hne hdigits, RowKey.covers, hlong]
  rfl

end Gamebook.Table
