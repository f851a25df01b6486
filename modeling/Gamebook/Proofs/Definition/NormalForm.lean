import Gamebook.Proofs.Definition.Stats

/-!
# Definitions written back

A definition can be written in many ways: numbers stand for texts and texts for numbers, a bar may
have one value for its two numbers, and types may be left out. Its normal form has a text or an
integer in each field (`normalForm`). The normal form is read as the definition again, and types
that are left out are implied by the fields (`read_normalForm`). So reading a definition, writing it
back and reading it once more gives nothing new.
-/

namespace Gamebook

open Value (Entries)

namespace Stat

/-- The kind of a stat. -/
def kind : Stat → Kind
  | static .. => .static
  | bar .. => .bar
  | roll .. => .roll

/-- The fields of a stat, but for its type. -/
def fields : Stat → Entries
  | static label value => [(.text "label".toList, .text label), (.text "val".toList, .text value)]
  | bar label current maximum =>
    [(.text "label".toList, .text label), (.text "current".toList, .int current),
      (.text "max".toList, .int maximum)]
  | roll label formula =>
    [(.text "label".toList, .text label), (.text "formula".toList, .text formula)]

/-- A stat as it is written, with its type told or left out. -/
def write (told : Bool) (s : Stat) : Value :=
  .map (Definition.typeEntry told s.kind.name ++ s.fields)

/-- The fields of a stat imply its kind. -/
theorem kindOf_write (told : Bool) (s : Stat) :
    kindOf (Definition.typeEntry told s.kind.name ++ s.fields) = .ok s.kind := by
  cases told <;> cases s <;> rfl

theorem ofEntries_write (told : Bool) (s : Stat) :
    ofEntries s.kind (Definition.typeEntry told s.kind.name ++ s.fields) = .ok (.ok s) := by
  cases told <;> cases s <;> rfl

/-- **A stat that is written back is read as it was.** -/
theorem read_write (told : Bool) (s : Stat) : read (s.write told) = .ok (.ok s) := by
  simp only [read, write, Value.head, kindOf_write, ofEntries_write, Checked.within]

end Stat

namespace Definition

/-- The value of a jump. -/
def writeJump : Option Text → Value
  | none => .null
  | some jump => .text jump

/-- The normal form of a definition. Its type and those of its stats are told or left out. -/
def normalForm (told toldStats : Bool) : Definition → Value
  | .entity stats => entityOf told (stats.map (Stat.write toldStats))
  | .lore description jump =>
    .map (typeEntry told Kind.lore.name
      ++ [(.text "desc".toList, .text description), (.text "jump".toList, writeJump jump)])

/--
**A definition that is written back is read as it was**, whether its type and those of its stats
are told or left out. So every definition that is read from any value has a normal form, which is
read as the same definition.
-/
theorem read_normalForm (d : Definition) (told toldStats : Bool) :
    read (d.normalForm told toldStats) = .ok d := by
  cases d with
  | entity stats =>
      refine read_entityOf_eq_ok_iff.mpr ⟨stats, rfl, ?_⟩
      rw [List.forall₂_map_left_iff, List.forall₂_same]
      exact fun s _ => Stat.read_write toldStats s
  | lore description jump => cases told <;> cases jump <;> rfl

end Definition

end Gamebook
