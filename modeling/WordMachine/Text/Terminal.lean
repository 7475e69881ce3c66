/-! Text for a terminal. Controls that a terminal obeys are spelled out, so that a name
from outside cannot steer it; line ends and tabs stay. -/
namespace WordMachine.Text.Terminal

def obeyed : List Char := ['\x07', '\x08', '\x0c', '\x1b', '\x7f']

/-- Controls that are escape sequences of one character. -/
def isLongControl (c : Char) : Bool := 0x80 ≤ c.toNat && c.toNat < 0xa0

def hexPair (n : Nat) : List Char := [Nat.digitChar (n / 16), Nat.digitChar (n % 16)]

def spell (c : Char) : List Char :=
  if c ∈ obeyed then ['\\', 'x'] ++ hexPair c.toNat
  else if isLongControl c then ['\\', 'u', '\x7b'] ++ hexPair c.toNat ++ ['\x7d']
  else [c]

def sanitize (s : String) : String := String.ofList (s.toList.flatMap spell)

end WordMachine.Text.Terminal
