import AdMonitor.Decimal.Shortest

/-!
# The text of a number

Two layouts of the shortest decimal: the plain one writes every number
positionally and is used in explanations and errors; the scientific one turns
to exponents for very large and very small numbers and is used in files.
-/

namespace AdMonitor.Decimal

/-- Place the point of `digits * 10 ^ exponent` without an exponent. -/
def positional (digits : List Char) (exponent : Int) : List Char :=
  if 0 ≤ exponent then
    digits ++ List.replicate exponent.toNat '0'
  else
    let places := (-exponent).toNat
    if places < digits.length then
      digits.take (digits.length - places) ++ '.' :: digits.drop (digits.length - places)
    else
      '0' :: '.' :: (List.replicate (places - digits.length) '0' ++ digits)

/-- Decimal notation without exponent and without a trailing `.0`. -/
def plain (x : Float) : String :=
  if x.isNaN then "NaN"
  else
    let sign := if isNegative x then "-" else ""
    if x.isInf then sign ++ "inf"
    else
      match shortest? x with
      | none => sign ++ "0"
      | some d => sign ++ String.ofList (positional (Nat.toDigits 10 d.digits) d.exponent)

def withExponent (digits : List Char) (power : Int) : List Char :=
  let leading :=
    match digits with
    | [] => []
    | [d] => [d]
    | d :: rest => d :: '.' :: rest
  leading ++ 'e' :: (toString power).toList

/--
Positional notation while the point lies at most sixteen digits after the
first one and at most five zeros before it, otherwise an exponent.  A whole
number keeps a trailing `.0`.
-/
def scientific (x : Float) : String :=
  let sign := if isNegative x then "-" else ""
  match shortest? x with
  | none => sign ++ "0.0"
  | some d =>
      let digits := Nat.toDigits 10 d.digits
      let point := (digits.length : Int) + d.exponent
      sign ++ String.ofList (
        if 0 ≤ d.exponent ∧ point ≤ 16 then positional digits d.exponent ++ ['.', '0']
        else if -5 < point ∧ point ≤ 16 then positional digits d.exponent
        else withExponent digits (point - 1))

end AdMonitor.Decimal
