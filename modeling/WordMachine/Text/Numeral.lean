/-! Decimal numerals with an optional sign. The digits are the ten of ASCII. -/
namespace WordMachine.Text.Numeral

/-- The number that a nonempty row of digits writes. -/
def digits? (cs : List Char) : Option Nat :=
  if cs ≠ [] ∧ cs.all Char.isDigit then
    some (cs.foldl (fun n c => 10 * n + (c.toNat - '0'.toNat)) 0)
  else none

def natural? : List Char → Option Nat
  | '+' :: cs => digits? cs
  | cs => digits? cs

def integer? : List Char → Option Int
  | '-' :: cs => (digits? cs).map fun n => -(n : Int)
  | cs => (natural? cs).map fun n => (n : Int)

/-- Digits with at most one point among them, and the power of ten that may follow. -/
def isDecimal (cs : List Char) : Bool :=
  let whole := cs.takeWhile Char.isDigit
  let rest := cs.dropWhile Char.isDigit
  let isPower : List Char → Bool
    | [] => true
    | e :: power => (e == 'e' || e == 'E') && (integer? power).isSome
  match rest with
  | '.' :: rest =>
    (whole != [] || rest.head?.any Char.isDigit) && isPower (rest.dropWhile Char.isDigit)
  | rest => whole != [] && isPower rest

end WordMachine.Text.Numeral
