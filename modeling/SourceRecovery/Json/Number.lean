import SourceRecovery.Json.Skip

/-! # Numbers

A number of a document is a whole number if it has neither point nor exponent and fits into 64
bits, and a floating point number otherwise. The digits of a floating point number make a
**significand** below `2 ^ 64`: a digit that would take it beyond is left out, and so are the ones
behind it. Its value is the significand scaled once by a power of ten, or twice if the power is
too small for that; it is not always the nearest floating point number. -/

namespace SourceRecovery

namespace Json

open Skipper (isDigit)

namespace Number

/-- The digits in front. -/
def digits (bytes : Bytes) : Bytes := bytes.takeWhile isDigit

/-- What follows the digits in front. -/
def behindDigits (bytes : Bytes) : Bytes := bytes.dropWhile isDigit

/-- Takes digits up into a significand while it stays below `2 ^ 64`; the digits left out are the
second part. -/
def takeUp (n : Nat) : Bytes → Nat × Bytes
  | [] => (n, [])
  | d :: ds =>
    let m := n * 10 + (d.toNat - 0x30)
    if m < Nat.pow 2 64 then takeUp m ds else (n, d :: ds)

/-- The number that digits stand for. -/
def valueOf (ds : Bytes) : Nat := ds.foldl (fun n d => n * 10 + (d.toNat - 0x30)) 0

/-- A power of ten as a floating point number. -/
def powerOfTen (n : Nat) : Float := Float.ofScientific 1 false n

/-- The greatest power of ten used in one scaling. -/
def greatestPower : Nat := 308

/-- The floating point number with the given sign and significand, scaled by a power of ten. -/
def scale (negative : Bool) (significand : Nat) (power : Int) : Except Error Number :=
  let sign (x : Float) : Number := .float (if negative then -x else x)
  let x := (UInt64.ofNat significand).toFloat
  let n := power.natAbs
  if significand = 0 then .ok (sign 0)
  else if 0 ≤ power then
    if n ≤ greatestPower then
      let y := x * powerOfTen n
      if y.isInf then .error .numberOutOfRange else .ok (sign y)
    else .error .numberOutOfRange
  else if n ≤ greatestPower then .ok (sign (x / powerOfTen n))
  else if n ≤ 2 * greatestPower then
    .ok (sign (x / powerOfTen greatestPower / powerOfTen (n - greatestPower)))
  else .ok (sign 0)

/-- The magnitude at which an exponent is too great to be read. -/
def exponentLimit : Nat := Nat.pow 2 31

/-- Reads the exponent behind its letter. -/
def readExponent (negative : Bool) (significand : Nat) (power : Int) (bytes : Bytes) :
    Except Error Number :=
  let (minus, bytes) :=
    match bytes with
    | [] => (false, [])
    | b :: rest =>
      if b = 0x2B then (false, rest) else if b = 0x2D then (true, rest) else (false, b :: rest)
  if digits bytes = [] then .error (if bytes = [] then .endInValue else .invalidNumber)
  else
    let n := valueOf (digits bytes)
    if n < exponentLimit then scale negative significand (if minus then power - n else power + n)
    else if significand ≠ 0 ∧ !minus then .error .numberOutOfRange
    else scale negative 0 0

/-- Whether the bytes go on with an exponent. -/
def hasExponent (bytes : Bytes) : Bool := bytes.head? == some 0x65 || bytes.head? == some 0x45

/-- Reads what follows the whole part of a floating point number, or its fraction. -/
def readTail (negative : Bool) (significand : Nat) (power : Int) (bytes : Bytes) :
    Except Error Number :=
  if hasExponent bytes then readExponent negative significand power bytes.tail
  else scale negative significand power

/-- Reads the fraction behind the point. -/
def readFraction (negative : Bool) (significand : Nat) (power : Int) (bytes : Bytes) :
    Except Error Number :=
  let ds := digits bytes
  if ds = [] then .error (if bytes = [] then .endInValue else .invalidNumber)
  else
    let (n, leftOut) := takeUp significand ds
    readTail negative n (power - (ds.length - leftOut.length : Nat)) (behindDigits bytes)

/-- The whole number with the given sign and magnitude. Minus zero and what does not fit into 64
bits are floating point numbers. -/
def whole (negative : Bool) (n : Nat) : Number :=
  if !negative then .integer n
  else if n = 0 ∨ Nat.pow 2 63 < n then .float (-(UInt64.ofNat n).toFloat)
  else .integer (-n)

/-- Reads a number behind its minus sign, if it has one. What follows the number is not read. -/
def read (negative : Bool) (bytes : Bytes) : Except Error Number :=
  let ds := digits bytes
  if ds = [] then .error (if bytes = [] then .endInValue else .invalidNumber)
  else if ds.head? = some 0x30 ∧ 1 < ds.length then .error .invalidNumber
  else
    let (n, leftOut) := takeUp 0 ds
    let rest := behindDigits bytes
    if rest.head? = some 0x2E then readFraction negative n leftOut.length rest.tail
    else if leftOut = [] ∧ !hasExponent rest then .ok (whole negative n)
    else readTail negative n leftOut.length rest

/-- A zero in front of other digits is no number. -/
example : (read false (Utf8.encode "01".toList)).toOption = none := by decide

end Number

end Json

end SourceRecovery
