/-!
# Binary64 numbers

The floating numbers a document can hold, as exact values: a sign, a whole number
of at most 53 bits, and a power of two. Every operation computes the exact result
and rounds it once, to the nearest such number and to the even one of two.
-/

namespace Gamebook

/-- A floating number. A finite one has the value `mantissa * 2 ^ exponent`; its exponent is the
lowest that the mantissa's 53 bits and the bound -1074 allow. -/
inductive Binary64 where
  | finite (negative : Bool) (mantissa : Nat) (exponent : Int)
  | infinite (negative : Bool)
  | nan
deriving DecidableEq

namespace Binary64

/-- The quotient rounded to the nearest whole number, to the even one of two. -/
def roundDiv (num den : Nat) : Nat :=
  let q := num / den
  let twice := 2 * (num % den)
  if twice < den then q
  else if den < twice then q + 1
  else if q % 2 = 0 then q else q + 1

/-- The nearest number to `num / den`, a ratio of natural numbers with `den` not zero. -/
def ofRatio (negative : Bool) (num den : Nat) : Binary64 :=
  if num = 0 then finite negative 0 (-1074)
  else
    -- the quotient lies between 2 ^ (bits - 1) and 2 ^ (bits + 1)
    let bits : Int := (Nat.log2 num : Int) - (Nat.log2 den : Int)
    let atExponent (e : Int) : Nat :=
      if 0 ≤ e then roundDiv num (den * Nat.pow 2 e.toNat)
      else roundDiv (num * Nat.pow 2 (-e).toNat) den
    let low := max (bits - 53) (-1074)
    let e := if atExponent low < Nat.pow 2 53 then low else max (bits - 52) (-1074)
    let m := atExponent e
    let (m, e) := if m = Nat.pow 2 53 then (Nat.pow 2 52, e + 1) else (m, e)
    if 971 < e then infinite negative else finite negative m e

/-- The nearest number to an integer. -/
def ofInt (z : Int) : Binary64 := ofRatio (z < 0) z.natAbs 1

/-- The nearest number to `digits * 10 ^ exponent`. Exponents far outside the range of all
floating numbers are not computed. -/
def ofDecimal (negative : Bool) (digits : Nat) (exponent : Int) : Binary64 :=
  if digits = 0 then finite negative 0 (-1074)
  else
    let magnitude : Int := exponent + ((Nat.log2 digits * 30103 / 100000 : Nat) : Int)
    if 400 < magnitude then infinite negative
    else if magnitude < -400 then finite negative 0 (-1074)
    else if 0 ≤ exponent then ofRatio negative (digits * Nat.pow 10 exponent.toNat) 1
    else ofRatio negative digits (Nat.pow 10 (-exponent).toNat)

/-- The value of a finite number as a signed ratio: numerator and denominator. -/
def ratio (negative : Bool) (mantissa : Nat) (exponent : Int) : Int × Nat :=
  let size : Nat × Nat :=
    if 0 ≤ exponent then (mantissa * Nat.pow 2 exponent.toNat, 1)
    else (mantissa, Nat.pow 2 (-exponent).toNat)
  (if negative then -(size.1 : Int) else size.1, size.2)

/-- The integer a finite number equals, if it equals one. -/
def toInt? : Binary64 → Option Int
  | finite negative m e =>
    let (num, den) := ratio negative m e
    if num % den = 0 then some (num / den) else none
  | _ => none

/-- The number with the other sign. -/
def neg : Binary64 → Binary64
  | finite negative m e => finite (!negative) m e
  | infinite negative => infinite (!negative)
  | nan => nan

/-- The rounded sum. A zero sum of two negative zeros is negative, any other is positive. -/
def add : Binary64 → Binary64 → Binary64
  | nan, _ => nan
  | _, nan => nan
  | infinite a, infinite b => if a = b then infinite a else nan
  | infinite a, _ => infinite a
  | _, infinite b => infinite b
  | finite a m e, finite b n f =>
    let (p, q) := ratio a m e
    let (r, s) := ratio b n f
    let num := p * s + r * q
    if num = 0 then finite (a && b) 0 (-1074) else ofRatio (num < 0) num.natAbs (q * s)

/-- The rounded product. -/
def mul : Binary64 → Binary64 → Binary64
  | nan, _ => nan
  | _, nan => nan
  | infinite a, infinite b => infinite (a != b)
  | infinite a, finite b m _ => if m = 0 then nan else infinite (a != b)
  | finite a m _, infinite b => if m = 0 then nan else infinite (a != b)
  | finite a m e, finite b n f =>
    let (p, q) := ratio a m e
    let (r, s) := ratio b n f
    ofRatio (a != b) (p * r).natAbs (q * s)

/-- Whether a number is neither infinite nor undefined. -/
def isFinite : Binary64 → Bool
  | finite .. => true
  | _ => false

/-- Whether two numbers are equal as numbers: the zeros are, and nothing equals `nan`. -/
def equals : Binary64 → Binary64 → Bool
  | finite a m e, finite b n f => (m == 0 && n == 0) || (a == b && m == n && e == f)
  | infinite a, infinite b => a == b
  | _, _ => false

end Binary64

end Gamebook
