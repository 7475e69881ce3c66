import WordMachine.Text.Pattern.Mode

/-! Escapes of patterns: what a backslash and the characters after it stand for. -/
namespace WordMachine.Text.Pattern

inductive Escape
  | literal (l : Literal)
  /-- A class called by a letter: digits, blanks or the characters of words, or all others. -/
  | shorthand (negated : Bool)
  /-- The start or end of a word, or what is neither. -/
  | wordBoundary
  /-- The start or end of the text. -/
  | edge
  deriving DecidableEq, Repr

namespace Escape

def controls : List (Char × Char) :=
  [('a', '\x07'), ('f', '\x0c'), ('n', '\n'), ('r', '\r'), ('t', '\t'), ('v', '\x0b')]

/-- Escapes of one character. Digits and the other letters are none; everything else in ASCII may
be escaped without need. -/
def ofChar? (c : Char) : Option Escape :=
  if ['d', 's', 'w'].contains c then some (.shorthand false)
  else if ['D', 'S', 'W'].contains c then some (.shorthand true)
  else if ['b', 'B', '<', '>'].contains c then some .wordBoundary
  else if ['A', 'z'].contains c then some .edge
  else match controls.lookup c with
    | some control => some (.literal ⟨control, false⟩)
    | none => if c.toNat < 0x80 ∧ !c.isAlphanum then some (.literal ⟨c, false⟩) else none

/-- The number of digits after a letter that calls a character by its number. -/
def digits? (c : Char) : Option Nat :=
  match c with
  | 'x' => some 2
  | 'u' => some 4
  | 'U' => some 8
  | _ => none

def hexDigit? (c : Char) : Option Nat :=
  if c.isDigit then some (c.toNat - '0'.toNat)
  else if 'a' ≤ c ∧ c ≤ 'f' then some (c.toNat - 'a'.toNat + 10)
  else if 'A' ≤ c ∧ c ≤ 'F' then some (c.toNat - 'A'.toNat + 10)
  else none

def readHex? (m : Mode) : Nat → Nat → List Char → Option (Nat × List Char)
  | 0, value, cs => some (value, m.skip cs)
  | n + 1, value, cs =>
    match m.skip cs with
    | [] => none
    | c :: cs => (hexDigit? c).bind fun d => readHex? m n (16 * value + d) cs

def read? (m : Mode) : List Char → Option (Escape × List Char)
  | [] => none
  | c :: cs =>
    match digits? c with
    | some n => (readHex? m n 0 cs).bind fun (value, rest) =>
      if value.isValidChar then some (.literal ⟨Char.ofNat value, c == 'x'⟩, rest) else none
    | none => (ofChar? c).map (·, cs)

theorem length_of_readHex? {m : Mode} {n value v : Nat} {cs r : List Char}
    (h : readHex? m n value cs = some (v, r)) : r.length ≤ cs.length := by
  induction n generalizing value cs with
  | zero => cases h; exact m.length_skip_le cs
  | succ n ih =>
    have shorter := m.length_skip_le cs
    unfold readHex? at h
    split at h
    · cases h
    · rename_i heq
      obtain ⟨_, _, h⟩ := Option.bind_eq_some_iff.mp h
      rw [heq] at shorter
      exact Nat.le_trans (ih h) (Nat.le_of_succ_le shorter)

theorem length_of_read? {m : Mode} {cs r : List Char} {e : Escape}
    (h : read? m cs = some (e, r)) : r.length < cs.length := by
  unfold read? at h
  split at h
  · cases h
  · split at h
    · obtain ⟨_, hx, h⟩ := Option.bind_eq_some_iff.mp h
      dsimp only at h
      split at h
      · cases h; exact Nat.lt_succ_of_le (length_of_readHex? hx)
      · cases h
    · obtain ⟨_, _, h⟩ := Option.map_eq_some_iff.mp h
      cases h; exact Nat.lt_succ_self _

end Escape
end WordMachine.Text.Pattern
