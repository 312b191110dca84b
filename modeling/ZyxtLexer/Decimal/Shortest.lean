/-! Decimal text of binary64 numbers: the fewest digits that read back as the same number, and of
those the nearest to it. -/
namespace ZyxtLexer

/-- The number `digits * 10 ^ exponent`, below zero if `negative`. -/
structure Decimal where
  negative : Bool
  digits : Nat
  exponent : Int
deriving DecidableEq

namespace Decimal

/-- A positive number `mantissa * 2 ^ exponent`, and whether the gap below it is half as wide as
the one above. -/
structure Binary where
  mantissa : Nat
  exponent : Int
  narrowBelow : Bool

/-- The bit above the 52 bits of a fraction, which is not stored. -/
def hiddenBit : Nat := 0x10000000000000

def signBit : Nat := 0x8000000000000000

def Binary.ofBits (bits : UInt64) : Binary :=
  let fraction : Nat := bits.toNat % hiddenBit
  let scale : Nat := bits.toNat / hiddenBit % 2048
  if scale = 0 then ⟨fraction, -1074, false⟩
  else ⟨fraction + hiddenBit, (scale : Int) - 1075, fraction = 0 ∧ 1 < scale⟩

/-- The natural number `n` times a quarter of the unit of `b`, and `d * 10 ^ k`, on one scale. -/
def Binary.quarters (b : Binary) (k : Int) (n : Nat) : Nat :=
  n * Nat.pow 2 (b.exponent - 2).toNat * Nat.pow 10 (-k).toNat

def Binary.tens (b : Binary) (k : Int) (d : Nat) : Nat :=
  d * Nat.pow 10 k.toNat * Nat.pow 2 (2 - b.exponent).toNat

/-- Whether `d * 10 ^ k` rounds to `b`. The ends of the interval round to an even mantissa. -/
def Binary.reads (b : Binary) (k : Int) (d : Nat) : Bool :=
  let low := b.quarters k (4 * b.mantissa - if b.narrowBelow then 1 else 2)
  let high := b.quarters k (4 * b.mantissa + 2)
  let x := b.tens k d
  if b.mantissa % 2 = 0 then low ≤ x && x ≤ high else low < x && x < high

/-- The multiple of `10 ^ k` that reads back as `b`: of two the nearer, and at a tie the even. -/
def Binary.onGrid? (b : Binary) (k : Int) : Option Nat :=
  let value := b.quarters k (4 * b.mantissa)
  let below := value / b.tens k 1
  match b.reads k below, b.reads k (below + 1) with
  | false, false => none
  | true, false => some below
  | false, true => some (below + 1)
  | true, true =>
    let down := value - b.tens k below
    let up := b.tens k (below + 1) - value
    if down < up ∨ (down = up ∧ below % 2 = 0) then some below else some (below + 1)

/-- The first hit on ever finer grids, from `10 ^ (n - 350)` downwards. -/
def Binary.search (b : Binary) : Nat → Nat × Int
  | 0 => (0, 0)
  | n + 1 =>
    let k : Int := (n : Int) - 350
    match b.onGrid? k with
    | some d => (d, k)
    | none => b.search n

/-- The shortest decimal number that reads back as the finite number `x`. -/
def ofFloat (x : Float) : Decimal :=
  let bits := x.toBits
  let b := Binary.ofBits bits
  let shortest := if b.mantissa = 0 then (0, 0) else b.search 660
  ⟨signBit ≤ bits.toNat, shortest.1, shortest.2⟩

/-- Digits with a point among them while the leading digit stands for `10 ^ -5` to `10 ^ 15`, and
a power of ten beyond. -/
def text (x : Decimal) : String :=
  let sign := if x.negative then "-" else ""
  let ds := Nat.toDigits 10 x.digits
  let leading := x.exponent + ds.length - 1
  let body : List Char :=
    if -5 ≤ leading ∧ leading ≤ 15 then
      if 0 ≤ x.exponent then ds ++ List.replicate x.exponent.toNat '0' ++ ['.', '0']
      else if 0 ≤ leading then
        ds.take (leading.toNat + 1) ++ '.' :: ds.drop (leading.toNat + 1)
      else '0' :: '.' :: (List.replicate (-leading - 1).toNat '0' ++ ds)
    else
      ds.take 1 ++ (if ds.length = 1 then [] else '.' :: ds.drop 1)
        ++ 'e' :: (if leading < 0 then '-' else '+') :: Nat.toDigits 10 leading.natAbs
  sign ++ String.ofList body

end Decimal
end ZyxtLexer
