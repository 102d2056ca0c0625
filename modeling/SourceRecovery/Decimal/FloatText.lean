import SourceRecovery.Decimal.Shortest
import SourceRecovery.Text.Basic

/-! # The text of a floating point number

A floating point number is written with the digits of its shortest decimal: positionally, with at
least one digit on either side of the point, while its first digit stands for a power of ten
between `10 ^ -5` and `10 ^ 15`, and with an exponent otherwise. An exponent has a sign and no
zero in front. -/

namespace SourceRecovery

namespace Decimal

/-- The least power of ten that is written positionally. -/
def leastPositional : Int := -5

/-- The greatest power of ten that is written positionally. -/
def greatestPositional : Int := 15

/-- A digit text without the zeros at its end. -/
def dropFinalZeros (digits : Text) : Text := (digits.reverse.dropWhile (· = '0')).reverse

/-- The positional form of digits whose first one stands for `10 ^ power`. -/
def positional (digits : Text) (power : Int) : Text :=
  if power < 0 then "0.".toList ++ List.replicate (-power - 1).toNat '0' ++ digits
  else
    let whole := power.toNat + 1
    if digits.length ≤ whole then
      digits ++ List.replicate (whole - digits.length) '0' ++ ".0".toList
    else digits.take whole ++ '.' :: digits.drop whole

/-- The exponential form of digits whose first one stands for `10 ^ power`. -/
def exponential (digits : Text) (power : Int) : Text :=
  let fraction := if digits.length ≤ 1 then [] else '.' :: digits.drop 1
  digits.take 1 ++ fraction ++ ['e', if power < 0 then '-' else '+'] ++
    Text.ofNat power.natAbs

/-- The text of a positive decimal. -/
def Shortest.text (d : Shortest) : Text :=
  let digits := Text.ofNat d.digits
  let power := d.exponent + digits.length - 1
  let digits := dropFinalZeros digits
  if leastPositional ≤ power ∧ power ≤ greatestPositional then positional digits power
  else exponential digits power

/-- The text of a finite floating point number. -/
def ofFloat (x : Float) : Text :=
  let b := Binary.ofFloat x
  let magnitude := if b.significand = 0 then "0.0".toList else b.shortest.text
  if Nat.pow 2 63 ≤ x.toBits.toNat then '-' :: magnitude else magnitude

/-- Whole numbers have a fraction, great ones an exponent. -/
example : Shortest.text ⟨1, 5⟩ = "100000.0".toList ∧
    Shortest.text ⟨18446744073709552, 3⟩ = "1.8446744073709552e+19".toList ∧
    Shortest.text ⟨25, -7⟩ = "2.5e-6".toList := by decide

end Decimal

end SourceRecovery
