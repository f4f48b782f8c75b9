import Scaffold.Json.Basic

/-!
# Numbers in JSON

An integer between `-2^63` and `2^64 - 1` is kept exactly. Any other number is a double: its
digits as far as they fit 64 bits, scaled by a power of ten. It is written with the fewest digits
that read back as the same double, in positional notation between `10^-5` and `10^16`.
-/

namespace Scaffold.Json

/-! ### Shortest digits -/

/-- A finite positive double as `mantissa * 2^exponent`. -/
structure Binary where
  mantissa : Nat
  exponent : Int

def Binary.ofBits (bits : UInt64) : Binary :=
  let fraction := (bits &&& 0xFFFFFFFFFFFFF).toNat
  let biased := ((bits >>> 52) &&& 0x7FF).toNat
  if biased = 0 then ⟨fraction, -1074⟩ else ⟨fraction + Nat.pow 2 52, (biased : Int) - 1075⟩

/-- Numerator and denominator of `n * 2^e2 / 10^e10`. -/
def scaled (n : Nat) (e2 e10 : Int) : Nat × Nat :=
  (n * Nat.pow 2 e2.toNat * Nat.pow 10 (-e10).toNat, Nat.pow 2 (-e2).toNat * Nat.pow 10 e10.toNat)

/-- The multiple of `10^e10` nearest to the double that still reads back as it, among the two
neighbours of the double, as its factor. The border of what reads back belongs to it when the
mantissa is even. Below a power of two the border is twice as near. -/
def Binary.onGrid? (b : Binary) (e10 : Int) : Option Nat :=
  -- all in units of a quarter of the last binary place
  let inQuarters (k : Nat) : Nat × Nat := scaled k (b.exponent - 2) e10
  let lowerGap := if b.mantissa = Nat.pow 2 52 && b.exponent > -1074 then 1 else 2
  let (value, den) := inQuarters (4 * b.mantissa)
  let (low, _) := inQuarters (4 * b.mantissa - lowerGap)
  let (high, _) := inQuarters (4 * b.mantissa + 2)
  let floor := value / den
  let readsBack (k : Nat) : Bool :=
    let point := k * den
    if b.mantissa % 2 = 0 then low ≤ point && point ≤ high else low < point && point < high
  let below := value - floor * den
  let above := (floor + 1) * den - value
  let nearFirst :=
    if below < above || (below = above && floor % 2 = 0) then [floor, floor + 1]
    else [floor + 1, floor]
  nearFirst.find? fun k => k ≠ 0 && readsBack k

/-- The coarsest grid that holds a number which reads back, from `10^e10` downwards. -/
def Binary.shortestFrom (b : Binary) (e10 : Int) : Nat → Nat × Int
  | 0 => (0, e10)
  | grids + 1 =>
    match b.onGrid? e10 with
    | some k => (k, e10)
    | none => b.shortestFrom (e10 - 1) grids

/-- The text of `digits * 10^e10`: positional if the point is near, with an exponent otherwise. -/
def placePoint (digits : List Char) (e10 : Int) : List Char :=
  let count : Int := digits.length
  let point := count + e10
  if 0 ≤ e10 && point ≤ 16 then
    digits ++ List.replicate e10.toNat '0' ++ ['.', '0']
  else if 0 < point && point ≤ 16 then
    digits.take point.toNat ++ '.' :: digits.drop point.toNat
  else if -5 < point && point ≤ 0 then
    '0' :: '.' :: List.replicate (-point).toNat '0' ++ digits
  else
    let exponent := 'e' :: (toString (point - 1)).toList
    match digits with
    | [d] => d :: exponent
    | d :: more => d :: '.' :: more ++ exponent
    | [] => exponent

/-- The text of a finite double. -/
def floatText (negative : Bool) (magnitude : Float) : String :=
  let sign := if negative then ['-'] else []
  if magnitude == 0.0 then
    String.ofList (sign ++ ['0', '.', '0'])
  else
    let (factor, e10) := (Binary.ofBits magnitude.toBits).shortestFrom 309 640
    String.ofList (sign ++ placePoint (Nat.toDigits 10 factor) e10)

/-! ### Scaling -/

def tenTo (e : Nat) : Float := Float.ofScientific 1 false e

/-- `significand * 10^exponent` rounded to a double, or `none` when it is out of range. Beyond the
largest power of ten a double holds, the scaling takes several steps. -/
def scaleFloat (value : Float) (exponent : Int) : Nat → Option Float
  | 0 => none
  | steps + 1 =>
    if exponent.natAbs ≤ 308 then
      if 0 ≤ exponent then
        let scaled := value * tenTo exponent.toNat
        if scaled.isInf then none else some scaled
      else
        some (value / tenTo exponent.natAbs)
    else if value == 0.0 then some value
    else if 0 ≤ exponent then none
    else scaleFloat (value / tenTo 308) (exponent + 308) steps

/-! ### Reading -/

/-- The parts of a number as written: its sign, the digits before and after the point, and the
exponent. -/
structure NumberParts where
  negative : Bool
  whole : List Char
  fraction : Option (List Char)
  exponent : Option Int

def digitsValue (digits : List Char) : Nat :=
  digits.foldl (fun n d => 10 * n + (d.toNat - '0'.toNat)) 0

/-- Appends digits to a significand while it fits 64 bits; gives how many were left out. -/
def gather (n : Nat) : List Char → Nat × Nat
  | [] => (n, 0)
  | d :: rest =>
    let next := 10 * n + (d.toNat - '0'.toNat)
    if next < Nat.pow 2 64 then gather next rest else (n, rest.length + 1)

/-- The double of a number that is no integer in range. Of the digits beyond 64 bits, those before
the point only raise the exponent and those behind it do not count. -/
def NumberParts.toFloat? (parts : NumberParts) : Option Float :=
  let fraction := parts.fraction.getD []
  let (whole, raised) := gather 0 parts.whole
  let (significand, ignored) := gather whole fraction
  let places : Int := raised - (fraction.length - ignored : Nat)
  let exponent := parts.exponent.getD 0 + places
  scaleFloat significand.toUInt64.toFloat exponent (exponent.natAbs / 308 + 2)

/-- A number as a value: an integer when it is written as one and in range. A number beyond every
double cannot be read, but it can be skipped. -/
def NumberParts.toJson (parts : NumberParts) : Json :=
  let n := digitsValue parts.whole
  let isInteger := parts.fraction.isNone && parts.exponent.isNone
  if isInteger && !parts.negative && n < Nat.pow 2 64 then .int n
  else if isInteger && parts.negative && 0 < n && n ≤ Nat.pow 2 63 then .int (-n)
  else
    match parts.toFloat? with
    | some magnitude => .float (floatText parts.negative magnitude)
    | none => .scrap false .malformed .closed

end Scaffold.Json
