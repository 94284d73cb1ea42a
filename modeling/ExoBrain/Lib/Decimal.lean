import Mathlib.Data.Rat.Defs
import Mathlib.Data.Nat.Digits.Defs

/-!
# Floating-point numbers by their texts

A floating-point number is handled by the text that shows it, the shortest decimal that is read as
that number.  Different numbers have different texts, and the order of the numbers is the order of
the decimals, so nothing is lost for comparisons.

* `ofText` is what a text stands for: a decimal, an infinity, or no number.
* `lt` and `le` are the comparisons.  No number is neither less nor greater than anything.
* `round4` is `round(a / b, 4)` as a number of ten-thousandths, halves going to the even neighbour,
  and `text4` the text of that many ten-thousandths.
-/

set_option autoImplicit false

/-- What a floating-point number is. -/
inductive Decimal
  | nan
  | infinity (negative : Bool)
  | number (q : Rat)
deriving DecidableEq

namespace Decimal

/-! ## Reading -/

/-- A number in base 10. -/
def digits? (cs : List Char) : Option Nat :=
  if cs ≠ [] ∧ cs.all Char.isDigit = true then
    some (cs.foldl (fun n c ↦ 10 * n + (c.toNat - '0'.toNat)) 0)
  else none

/-- Digits, with or without a point among them. -/
def fixed? (cs : List Char) : Option Rat :=
  match cs.dropWhile fun c ↦ c ≠ '.' with
  | [] => (digits? cs).map fun n ↦ (n : Rat)
  | _ :: fraction => do
    let whole ← digits? (cs.takeWhile fun c ↦ c ≠ '.')
    let part ← digits? fraction
    return (whole : Rat) + (part : Rat) / (10 : Rat) ^ fraction.length

/-- A power of ten. -/
def power? : List Char → Option Rat
  | '-' :: cs => (digits? cs).map fun n ↦ 1 / (10 : Rat) ^ n
  | '+' :: cs => (digits? cs).map fun n ↦ (10 : Rat) ^ n
  | cs => (digits? cs).map fun n ↦ (10 : Rat) ^ n

/-- Digits, with or without a power of ten. -/
def unsigned? (cs : List Char) : Option Rat :=
  match cs.dropWhile fun c ↦ c ≠ 'e' with
  | [] => fixed? cs
  | _ :: exponent => do
    let mantissa ← fixed? (cs.takeWhile fun c ↦ c ≠ 'e')
    let power ← power? exponent
    return mantissa * power

/-- What a text stands for. -/
def ofText (text : String) : Decimal :=
  match text.toList with
  | ['i', 'n', 'f'] => infinity false
  | ['-', 'i', 'n', 'f'] => infinity true
  | '-' :: cs => ((unsigned? cs).map fun q ↦ number (-q)).getD nan
  | cs => ((unsigned? cs).map number).getD nan

/-! ## Comparing -/

/-- `a < b`. -/
def lt : Decimal → Decimal → Bool
  | number a, number b => a < b
  | infinity negative, number _ => negative
  | number _, infinity negative => !negative
  | infinity negative, infinity negative' => negative && !negative'
  | nan, _ => false
  | _, nan => false

/-- `a <= b`. -/
def le (a b : Decimal) : Bool := a.lt b || (a ≠ nan && a = b)

example : (ofText "0.65").le (ofText "1.0") = true ∧ (ofText "nan").lt (ofText "0.0") = false ∧
    (ofText "1e-05").lt (ofText "0.0001") = true := by decide +kernel

/-! ## Ratios -/

/-- `round(a / b, 4)`, in ten-thousandths. -/
def round4 (a b : Nat) : Nat :=
  let n := a * 10000 / b
  let rest := a * 10000 % b
  if 2 * rest < b then n
  else if b < 2 * rest then n + 1
  else if n % 2 = 0 then n
  else n + 1

/-- The text of a number of ten-thousandths. -/
def text4 (n : Nat) : String :=
  let fraction := ((Nat.toDigits 10 (10000 + n % 10000)).drop 1).reverse.dropWhile (· = '0')
  toString (n / 10000) ++ "." ++
    if fraction = [] then "0" else String.ofList fraction.reverse

example : text4 (round4 1 8) = "0.125" ∧ text4 (round4 1 32) = "0.0312" ∧
    text4 (round4 3 3) = "1.0" := by decide +kernel

end Decimal
