/-! Texts of a collection: all entries on one line, or an indented line for each. -/
namespace WordMachine.Text

/-- The two signs that stand around the entries. -/
structure Listing where
  left : String
  right : String

namespace Listing

def braces : Listing := ⟨"\x7b", "\x7d"⟩
def brackets : Listing := ⟨"[", "]"⟩

def line (l : Listing) (entries : List String) : String :=
  l.left ++ String.intercalate ", " entries ++ l.right

/-- Every entry ends its own line with a comma. Without entries the signs stay together. -/
def block (l : Listing) : List String → String
  | [] => l.left ++ l.right
  | entries => l.left ++ "\n" ++ String.join (entries.map fun e => "    " ++ e ++ ",\n") ++ l.right

end Listing
end WordMachine.Text
