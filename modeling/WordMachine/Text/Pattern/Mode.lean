import WordMachine.Text.Blank

/-! How a pattern is read. Parts of a pattern can switch between ways to read it, and what may
stand in them depends on that. Patterns know neither the cases of letters in Unicode nor its
classes, such as digits. So as long as characters are those of Unicode, nothing may ask for
either, and as long as they are bytes, nothing may match what can be half of a character. -/
namespace WordMachine.Text.Pattern

structure Literal where
  char : Char
  /-- Written by the two digits of a byte. -/
  isByte : Bool := false
  deriving DecidableEq, Repr

structure Mode where
  caseless : Bool := false
  unicode : Bool := true
  /-- Blanks and comments are passed over. -/
  spaced : Bool := false
  deriving DecidableEq, Repr

/-- Letters that are switched on, and letters that are switched off. -/
structure Setting where
  on : List Char
  off : List Char
  deriving DecidableEq, Repr

namespace Setting

def letters : List Char := ['i', 'm', 's', 'U', 'u', 'R', 'x']

/-- No letter stands there twice, and a hyphen stands before those that are switched off. -/
def ofText? (cs : List Char) : Option Setting :=
  let on := cs.takeWhile (· != '-')
  let off := cs.drop (on.length + 1)
  if (on ++ off).all (letters.contains ·) ∧ (on ++ off).Nodup ∧ cs.getLast? ≠ some '-' then
    some ⟨on, off⟩
  else none

def value (s : Setting) (letter : Char) (before : Bool) : Bool :=
  s.on.contains letter || (before && !s.off.contains letter)

end Setting

namespace Mode

def switch (m : Mode) (s : Setting) : Mode :=
  { caseless := s.value 'i' m.caseless
    unicode := s.value 'u' m.unicode
    spaced := s.value 'x' m.spaced }

def allowsLiteral (m : Mode) (l : Literal) : Bool :=
  if m.unicode then !m.caseless else !l.isByte || l.char.toNat < 0x80

def allowsMember (m : Mode) (l : Literal) : Bool :=
  if m.unicode then !m.caseless else l.char.toNat < 0x80

/-- Whether a class may stand there that is called by a letter. -/
def allowsShorthand (m : Mode) (negated : Bool) : Bool := !m.unicode && !negated

/-- Whether a class of ASCII may stand in a class. -/
def allowsNamed (m : Mode) (negated : Bool) : Bool :=
  if m.unicode then !m.caseless else !negated

/-- Passes over blanks, and over comments from a number sign to the end of the line. It may start
inside of a comment. -/
def skipBlanks : Bool → List Char → List Char
  | _, [] => []
  | true, c :: cs => skipBlanks (c != '\n') cs
  | false, c :: cs =>
    if c = '#' then skipBlanks true cs
    else if blank.contains c then skipBlanks false cs
    else c :: cs

def skip (m : Mode) (cs : List Char) : List Char := if m.spaced then skipBlanks false cs else cs

/-- The character that seems to come next. Of a comment only the number sign is passed over. -/
def peek? (m : Mode) (cs : List Char) : Option Char :=
  if m.spaced then
    match cs.dropWhile blank.contains with
    | '#' :: cs => (cs.dropWhile blank.contains).head?
    | cs => cs.head?
  else cs.head?

theorem length_skipBlanks_le (inComment : Bool) (cs : List Char) :
    (skipBlanks inComment cs).length ≤ cs.length := by
  fun_induction skipBlanks inComment cs with
  | case1 => exact Nat.le_refl _
  | case2 c cs ih => exact Nat.le_succ_of_le ih
  | case3 cs ih => exact Nat.le_succ_of_le ih
  | case4 c cs _ _ ih => exact Nat.le_succ_of_le ih
  | case5 => exact Nat.le_refl _

theorem length_skip_le (m : Mode) (cs : List Char) : (m.skip cs).length ≤ cs.length := by
  unfold skip
  split
  · exact length_skipBlanks_le false cs
  · exact Nat.le_refl _

end Mode
end WordMachine.Text.Pattern
