/-!
# Shortest decimals

A binary floating-point number is shown by the decimal with the fewest digits that still reads back
as the same number, and of these by the nearest one. `Binary` is a positive number `m · 2^q` with
the interval of reals that round to it; `shortest` looks for the coarsest grid of decimals
`n · 10^k` that meets the interval and takes the point of it nearest to the number. Everything is
exact arithmetic on natural numbers.
-/

namespace CodeListing.Decimal

/-- A positive double, in quarters of the step to the next one: `quarters · 2^(q - 2)`. -/
structure Binary where
  quarters : Nat
  /-- Distance in quarters to the lower end of the interval that rounds here. -/
  below : Nat
  /-- The power of two of a whole step. -/
  q : Int
  /-- Whether the ends of the interval round here as well. -/
  closed : Bool

/-- The digits and the power of ten of a decimal `digits · 10^exponent`. -/
structure Digits where
  digits : Nat
  exponent : Int
  deriving Repr, DecidableEq

/-- The double with these bits, its sign left aside. -/
def Binary.ofBits (bits : UInt64) : Binary :=
  let biased := (bits >>> 52).toNat % 2048
  let fraction := bits.toNat % Nat.pow 2 52
  let m := if biased = 0 then fraction else fraction + Nat.pow 2 52
  { quarters := 4 * m
    below := if fraction = 0 ∧ 1 < biased then 1 else 2
    q := (max biased 1 : Nat) - 1075
    closed := m % 2 = 0 }

/-- A power with a possibly negative exponent, as numerator and denominator. -/
def ratio (base : Nat) (exponent : Int) : Nat × Nat :=
  (base.pow exponent.toNat, base.pow (-exponent).toNat)

/-- The multiple of `10^k` nearest to `b` among those that round to `b`; of two equally near ones
the even multiple. -/
def Binary.onGrid (b : Binary) (k : Int) : Option Nat :=
  let (tens, tenths) := ratio 10 k
  let (twos, halves) := ratio 2 (b.q - 2)
  let unit := tens * halves
  let quarter := tenths * twos
  let inside (n : Nat) : Bool :=
    let low := (b.quarters - b.below) * quarter
    let high := (b.quarters + 2) * quarter
    if b.closed then low ≤ n * unit && n * unit ≤ high else low < n * unit && n * unit < high
  let value := b.quarters * quarter
  let n := value / unit
  match inside n, inside (n + 1) with
  | true, false => some n
  | false, true => some (n + 1)
  | false, false => none
  | true, true =>
    let down := value - n * unit
    let up := (n + 1) * unit - value
    if down < up || (down == up && n % 2 == 0) then some n else some (n + 1)

/-- The shortest decimal that reads back as `b`. -/
def Binary.shortest (b : Binary) : Digits :=
  let grids := (List.range 700).map fun (i : Nat) => (310 : Int) - i
  match grids.findSome? fun k => (b.onGrid k).map (Digits.mk · k) with
  | some d => d
  | none => ⟨0, 0⟩

/-- Writes `digits · 10^exponent`: positionally from 10^-5 up to 10^16, with at least one decimal,
and else with one digit before the point and a signed exponent. -/
def Digits.render (d : Digits) : String :=
  let ds := Nat.toDigits 10 d.digits
  let point : Int := ds.length + d.exponent
  let zeros (n : Int) : List Char := List.replicate n.toNat '0'
  let text :=
    if 0 ≤ d.exponent ∧ point ≤ 16 then ds ++ zeros d.exponent ++ ['.', '0']
    else if 0 < point ∧ point ≤ 16 then
      ds.take point.toNat ++ '.' :: ds.drop point.toNat
    else if -5 < point ∧ point ≤ 0 then '0' :: '.' :: (zeros (-point) ++ ds)
    else
      let mantissa := if ds.length ≤ 1 then ds else ds.take 1 ++ '.' :: ds.drop 1
      let sign := if 0 < point then '+' else '-'
      mantissa ++ 'e' :: sign :: Nat.toDigits 10 (point - 1).natAbs
  String.ofList text

/-- The shortest text that reads back as the finite number `x`. -/
def ofFloat (x : Float) : String :=
  let bits := x.toBits
  let sign := if bits >>> 63 = 1 then "-" else ""
  let b := Binary.ofBits bits
  sign ++ if b.quarters = 0 then "0.0" else b.shortest.render

end CodeListing.Decimal
