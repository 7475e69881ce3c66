import WordMachine.Text.Combining
import WordMachine.Text.Ignorable
import WordMachine.Text.Unprintable

/-! String literals: a text between double quotes, with escapes for what would end the
literal, break the line, or leave no mark of its own. -/
namespace WordMachine.Text.Literal

def escape (c : Char) : List Char :=
  match c with
  | '"' => ['\\', '"']
  | '\\' => ['\\', '\\']
  | '\n' => ['\\', 'n']
  | '\r' => ['\\', 'r']
  | '\t' => ['\\', 't']
  | '\x00' => ['\\', '0']
  | c =>
    if combining.contains c || ignorable.contains c || unprintable.contains c then
      ['\\', 'u', '\x7b'] ++ Nat.toDigits 16 c.toNat ++ ['\x7d']
    else [c]

def quote (s : String) : String :=
  "\"" ++ String.ofList (s.toList.flatMap escape) ++ "\""

end WordMachine.Text.Literal
