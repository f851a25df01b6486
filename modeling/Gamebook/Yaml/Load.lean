import Gamebook.Yaml.Construct

/-!
# Loading a block

The value of the text of a block, or what is wrong with the text.
-/

namespace Gamebook.Yaml

/-- Whether a character may stand in a block. -/
def isAcceptable (c : Char) : Bool :=
  let n := c.toNat
  n == 9 || n == 10 || n == 13 || (0x20 ≤ n && n ≤ 0x7e) || n == 0x85 ||
    (0xa0 ≤ n && n ≤ 0xfffd) || 0x10000 ≤ n

/-- Refuses a text with a character that may not stand in a block. -/
def checkCharacters (source : Text) : Except Fault Unit :=
  let good := source.takeWhile isAcceptable
  match source.drop good.length with
  | [] => .ok ()
  | c :: _ => .error (.unacceptable c.toNat good.length)

/-- The value of a block; a block without contents is nothing. -/
def load (source : Text) : Except Fault Value := do
  checkCharacters source
  let (root, g) ← Graph.ofScan (Scan.ofText source)
  match root with
  | none => return .null
  | some id => construct id g

end Gamebook.Yaml
