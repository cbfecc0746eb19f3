import ApiContract.Number.Power

/-!
The shortest decimal that reads back as a binary64 number, and its written forms.
-/

set_option autoImplicit false

namespace ApiContract.Number

-- A positive finite number `mantissa * 2 ^ exponent`; `edge` says that the next smaller number is
-- only half as far away as the next larger one.
structure Binary where
  mantissa : Nat
  exponent : Int
  edge : Bool

def Binary.ofFloat (x : Float) : Binary :=
  let bits := x.toBits.toNat
  let fraction := bits % twoTo 52
  let biased : Nat := bits / twoTo 52 % twoTo 11
  if biased = 0 then ⟨fraction, -1074, false⟩
  else ⟨twoTo 52 + fraction, Int.ofNat biased - 1075, fraction == 0 && decide (1 < biased)⟩

structure Decimal where
  digits : Nat
  scale : Int

inductive Tie where
  | up
  | toEven

-- Of two neighbours on a decimal grid, the one that lies in the interval and is nearer. All
-- arguments but the digits are in one unit: `value` with its bounds, and the grid width.
def nearer (tie : Tie) (closed : Bool) (low value high width digits : Nat) : Option Nat :=
  let inside (point : Nat) : Bool :=
    if closed then decide (low ≤ point) && decide (point ≤ high)
    else decide (low < point) && decide (point < high)
  let below := digits * width
  let above := (digits + 1) * width
  match inside below, inside above with
  | false, false => none
  | true, false => some digits
  | false, true => some (digits + 1)
  | true, true =>
      if value - below < above - value then some digits
      else if above - value < value - below then some (digits + 1)
      else
        match tie with
        | .up => some (digits + 1)
        | .toEven => some (if digits % 2 = 0 then digits else digits + 1)

-- Tries grids of `count`, `count + 1`, … digits; `fuel` bounds how many.
def search (tie : Tie) (closed : Bool) (low value high den : Nat) (magnitude : Int) :
    Nat → Nat → Decimal
  | 0, count => ⟨value / den, magnitude - count⟩
  | fuel + 1, count =>
      let scale := magnitude - count
      let grow := tenTo (-scale).toNat
      let width := den * tenTo scale.toNat
      let digits := value * grow / width
      match nearer tie closed (low * grow) (value * grow) (high * grow) width digits with
      | some found => ⟨found, scale⟩
      | none => search tie closed low value high den magnitude fuel (count + 1)

def Decimal.strip (d : Decimal) : Nat → Decimal
  | 0 => d
  | fuel + 1 =>
      if d.digits != 0 && d.digits % 10 == 0 then
        Decimal.strip ⟨d.digits / 10, d.scale + 1⟩ fuel
      else d

def shortest (tie : Tie) (b : Binary) : Decimal :=
  let up := twoTo (b.exponent - 2).toNat
  let den := twoTo (2 - b.exponent).toNat
  let value := 4 * b.mantissa * up
  let low := (4 * b.mantissa - (if b.edge then 1 else 2)) * up
  let high := (4 * b.mantissa + 2) * up
  let magnitude : Int := (Nat.repr (value * tenTo 400 / den)).length - 400
  (search tie (b.mantissa % 2 == 0) low value high den magnitude 17 1).strip 20

-- How a number is spelled: the exponents written without a power of ten, whether whole numbers end
-- in a fraction of zero, and where an exact tie goes.
structure Spelling where
  tie : Tie
  positionalFrom : Int
  positionalTo : Int
  pointZero : Bool

def Spelling.plain : Spelling := ⟨.up, -400, 400, false⟩

def Spelling.json : Spelling := ⟨.toEven, -5, 16, true⟩

def zeros (count : Nat) : String :=
  String.ofList (List.replicate count '0')

def Spelling.decimal (s : Spelling) (d : Decimal) : String :=
  let text := Nat.repr d.digits
  let length : Int := text.length
  let point := length + d.scale
  if s.positionalFrom < point ∧ point ≤ s.positionalTo then
    if 0 ≤ d.scale then text ++ zeros d.scale.toNat ++ (if s.pointZero then ".0" else "")
    else if 0 < point then
      String.ofList (text.toList.take point.toNat) ++ "." ++
        String.ofList (text.toList.drop point.toNat)
    else "0." ++ zeros (-point).toNat ++ text
  else
    let tail := String.ofList (text.toList.drop 1)
    String.ofList (text.toList.take 1) ++ (if tail.isEmpty then "" else "." ++ tail) ++
      "e" ++ (if 1 ≤ point then "+" else "") ++ toString (point - 1)

def Spelling.float (s : Spelling) (x : Float) : String :=
  let sign := if x.toBits.toNat / twoTo 63 = 1 then "-" else ""
  let b := Binary.ofFloat x
  if b.mantissa = 0 then sign ++ (if s.pointZero then "0.0" else "0")
  else sign ++ s.decimal (shortest s.tie b)

end ApiContract.Number
