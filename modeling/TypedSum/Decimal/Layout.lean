import TypedSum.Decimal.Shortest

/-! Layouts of decimal numbers: where the point stands, when an exponent is written, and how the
numbers without digits are spelled. -/

namespace TypedSum.Decimal

/-- How numbers are laid out.  `pointZero` writes `.0` behind whole numbers; `positional x` tells
whether a number whose first digit counts `10 ^ x` is written without an exponent. -/
structure Layout where
  pointZero : Bool
  positional : Int → Bool

namespace Layout

def zeros (n : Nat) : String := String.ofList (List.replicate n '0')

/-- Digits with a point in front of the last `n` of them, filled up with zeros in front. -/
def withPoint (digits : List Char) (n : Nat) : String :=
  let padded := List.replicate (n + 1 - digits.length) '0' ++ digits
  String.ofList (padded.take (padded.length - n)) ++ "." ++
    String.ofList (padded.drop (padded.length - n))

def positionalText (pointZero : Bool) (x : Number) : String :=
  let digits := Nat.toDigits 10 x.digits
  if x.exponent < 0 then withPoint digits x.exponent.natAbs
  else String.ofList digits ++ zeros x.exponent.toNat ++ (if pointZero then ".0" else "")

def exponentText (x : Number) : String :=
  let digits := Nat.toDigits 10 x.digits
  let fraction := digits.drop 1
  String.ofList (digits.take 1) ++ (if fraction.isEmpty then "" else "." ++ String.ofList fraction) ++
    "e" ++ toString (x.exponent + fraction.length)

/-- The exponent that the first digit of a number counts. -/
def leadingExponent (x : Number) : Int := x.exponent + (Nat.toDigits 10 x.digits).length - 1

def numberText (layout : Layout) (x : Number) : String :=
  if layout.positional (leadingExponent x) then positionalText layout.pointZero x
  else exponentText x

def signed (negative : Bool) (text : String) : String := if negative then "-" ++ text else text

def text (layout : Layout) : Binary64 → String
  | .nan => "NaN"
  | .infinite negative => signed negative "inf"
  | .zero negative => signed negative (if layout.pointZero then "0.0" else "0")
  | .finite negative m e => signed negative (layout.numberText (shortest m e))

/-- Every number positionally, whole numbers without a point. -/
def plain : Layout := ⟨false, fun _ => true⟩

/-- Whole numbers with `.0`, and an exponent below `10 ^ (-4)` and from `10 ^ 16` on. -/
def inspected : Layout := ⟨true, fun x => -4 ≤ x && x < 16⟩

end Layout
end TypedSum.Decimal
