import WordMachine.Builtin

/-! A kit of small callables to fill tables with. Each captures the word that it was made
with, and only the counter changes it. -/
namespace WordMachine.Builtin.Kit

def constant (name : String) (w : Word) : Builtin Word where
  name := name
  captured := w
  body s file mem := { value := s, registers := file, memory := mem, captured := s }

def counter (name : String) (start : Word) : Builtin Word where
  name := name
  captured := start
  body s file mem := { value := s + 1, registers := file, memory := mem, captured := s + 1 }

/-- Sets a register and gives the word it held. -/
def assign (name : String) (r : Register) (w : Word) : Builtin Word where
  name := name
  captured := w
  body s file mem :=
    { value := file.get r, registers := file.set r s, memory := mem, captured := s }

end WordMachine.Builtin.Kit
