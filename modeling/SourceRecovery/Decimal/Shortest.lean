/-! # Shortest decimals

A binary floating point number stands for all real numbers that round to it, an interval around
its value. Its **shortest decimal** is the decimal with the fewest digits in that interval, and of
two such the nearer one; a tie goes to the even last digit.

All arithmetic is on natural numbers: a value `m * 2 ^ q` is compared with a decimal `c * 10 ^ k`
by multiplying both with the powers of two and ten that clear the denominators. -/

namespace SourceRecovery

namespace Decimal

/-- A positive binary number `significand * 2 ^ exponent`. -/
structure Binary where
  /-- The significand. -/
  significand : Nat
  /-- The exponent of two. -/
  exponent : Int
  /-- Whether the next smaller number is only half as far away as the next greater one. -/
  narrow : Bool
deriving Repr, DecidableEq

/-- The absolute value of a finite floating point number. -/
def Binary.ofFloat (x : Float) : Binary :=
  let bits := x.toBits.toNat
  let fraction : Nat := bits % Nat.pow 2 52
  let field : Nat := bits / Nat.pow 2 52 % Nat.pow 2 11
  if field = 0 then ⟨fraction, -1074, false⟩
  else ⟨fraction + Nat.pow 2 52, (field : Int) - 1075, fraction = 0 ∧ 1 < field⟩

/-- A positive decimal `digits * 10 ^ exponent`. -/
structure Shortest where
  /-- The digits, read as one number. -/
  digits : Nat
  /-- The exponent of ten. -/
  exponent : Int
deriving Repr, DecidableEq

/-- The greatest multiple of `10 ^ k` that is at most the value, divided by `10 ^ k`. -/
def Binary.floorAt (b : Binary) (k : Int) : Nat :=
  b.significand * Nat.pow 2 b.exponent.toNat * Nat.pow 10 (-k).toNat /
    (Nat.pow 2 (-b.exponent).toNat * Nat.pow 10 k.toNat)

/-- Four times the significand's multiple `x / 4` of `2 ^ exponent`, on the scale on which
`scaledDecimal` puts the decimals with exponent `k`. -/
def Binary.scaledQuarter (b : Binary) (k : Int) (x : Nat) : Nat :=
  let q := b.exponent - 2
  x * Nat.pow 2 q.toNat * Nat.pow 10 (-k).toNat

/-- The decimal `c * 10 ^ k` on the scale of `scaledQuarter`. -/
def Binary.scaledDecimal (b : Binary) (k : Int) (c : Nat) : Nat :=
  let q := b.exponent - 2
  c * Nat.pow 10 k.toNat * Nat.pow 2 (-q).toNat

/-- Whether the decimal `c * 10 ^ k` rounds to the number. The ends of the interval do so when the
significand is even. -/
def Binary.holds (b : Binary) (k : Int) (c : Nat) : Bool :=
  let low := b.scaledQuarter k (4 * b.significand - if b.narrow then 1 else 2)
  let high := b.scaledQuarter k (4 * b.significand + 2)
  let x := b.scaledDecimal k c
  if b.significand % 2 = 0 then low ≤ x ∧ x ≤ high else low < x ∧ x < high

/-- The greatest power of ten that is at most the value. -/
def Binary.magnitude (b : Binary) : Int :=
  ((List.range 640).map fun (i : Nat) => (308 - i : Int)).find? (fun k => 0 < b.floorAt k) |>.getD 0

/-- The decimal with exponent `k` that rounds to the number, the nearer one if there are two. -/
def Binary.decimalAt? (b : Binary) (k : Int) : Option Shortest :=
  let c := b.floorAt k
  match b.holds k c, b.holds k (c + 1) with
  | true, true =>
    let twice := b.scaledQuarter k (8 * b.significand)
    let middle := b.scaledDecimal k (2 * c + 1)
    some ⟨if twice < middle ∨ (twice = middle ∧ c % 2 = 0) then c else c + 1, k⟩
  | true, false => some ⟨c, k⟩
  | false, true => some ⟨c + 1, k⟩
  | false, false => none

/-- The **shortest decimal** of a positive number. Seventeen digits are always enough. -/
def Binary.shortest (b : Binary) : Shortest :=
  let top := b.magnitude
  ((List.range 17).findSome? fun (n : Nat) => b.decimalAt? (top - n)).getD
    ⟨b.floorAt (top - 16), top - 16⟩

/-- Fifteen tenths need two digits. -/
example : (Binary.mk (3 * 2 ^ 51) (-52) false).shortest = ⟨15, -1⟩ := by decide +kernel

/-- The smallest positive number needs one digit, and of `3e-324` and `7e-324` none is nearest. -/
example : (Binary.mk 1 (-1074) false).shortest = ⟨5, -324⟩ := by decide +kernel

end Decimal

end SourceRecovery
