import WordMachine.Text.Pattern.Escape

/-! Classes of patterns: sets of characters between square brackets. A class may hold others, and
two ampersands, hyphens or tildes combine what is on both sides of them. Of a class only its
nesting matters here: how many things it has inside of each other. -/
namespace WordMachine.Text.Pattern

/-- Things side by side: how many there are, and how far the one goes that nests furthest. -/
structure Row where
  count : Nat := 0
  furthest : Nat := 0
  deriving DecidableEq, Repr

namespace Row

def add (r : Row) (nesting : Nat) : Row := ⟨r.count + 1, max r.furthest nesting⟩

/-- Several things make up a thing of their own around them. -/
def nesting (r : Row) : Nat := if r.count ≤ 1 then r.furthest else r.furthest + 1

end Row

structure OpenClass where
  /-- The nesting of what stands before the last operator. -/
  left : Option Nat := none
  members : Row := {}
  deriving DecidableEq, Repr

namespace OpenClass

def add (c : OpenClass) (nesting : Nat) : OpenClass := { c with members := c.members.add nesting }

def nesting (c : OpenClass) : Nat :=
  match c.left with
  | none => c.members.nesting
  | some left => max left c.members.nesting + 1

def combine (c : OpenClass) : OpenClass := { left := some c.nesting }

def readHyphens (m : Mode) (c : OpenClass) (cs : List Char) : OpenClass × List Char :=
  match _h : m.skip cs with
  | '-' :: rest => readHyphens m (c.add 0) rest
  | rest => (c, rest)
termination_by cs.length
decreasing_by
  have := m.length_skip_le cs
  rw [_h] at this
  exact this

/-- Reads what has a meaning of its own at the start of a class: hyphens, or one closing bracket. -/
def readStart (m : Mode) (cs : List Char) : OpenClass × List Char :=
  match readHyphens m {} cs with
  | (c, ']' :: rest) => if c.members.count = 0 then (c.add 0, rest) else (c, ']' :: rest)
  | (c, rest) => (c, rest)

/-- Reads what stands behind the bracket that opens a class: a caret, which negates it, and its
start. -/
def read? (m : Mode) (cs : List Char) : Option (OpenClass × List Char) :=
  let (negated, body) := match m.skip cs with
    | '^' :: body => (true, body)
    | body => (false, body)
  let start := readStart m body
  if (negated && !m.unicode) || (start.1.members.count != 0 && !m.allowsMember ⟨'-', false⟩) then
    none
  else some start

theorem length_readHyphens_le (m : Mode) (c : OpenClass) (cs : List Char) :
    (readHyphens m c cs).2.length ≤ cs.length := by
  fun_induction readHyphens m c cs with
  | case1 c cs rest h ih =>
    have := m.length_skip_le cs
    rw [h] at this
    exact Nat.le_trans ih (Nat.le_of_succ_le this)
  | case2 c cs _ => exact m.length_skip_le cs

theorem length_readStart_le (m : Mode) (cs : List Char) :
    (readStart m cs).2.length ≤ cs.length := by
  have shorter := length_readHyphens_le m {} cs
  unfold readStart
  split
  · rename_i heq
    rw [heq] at shorter
    split
    · exact Nat.le_of_succ_le shorter
    · exact shorter
  · rename_i heq
    rw [heq] at shorter
    exact shorter

theorem length_of_read? {m : Mode} {cs r : List Char} {c : OpenClass}
    (h : read? m cs = some (c, r)) : r.length ≤ cs.length := by
  have body {b : List Char} {x : OpenClass × List Char} (h : x = (c, r)) (hx : x = readStart m b)
      (hb : b.length ≤ cs.length) : r.length ≤ cs.length := by
    have := length_readStart_le m b
    rw [← hx, h] at this
    exact Nat.le_trans this hb
  have shorter := m.length_skip_le cs
  unfold read? at h
  split at h
  rename_i heq
  dsimp only at h
  split at h
  · cases h
  · split at heq
    · rename_i hs
      cases heq
      rw [hs] at shorter
      exact body (Option.some.inj h) rfl (Nat.le_of_succ_le shorter)
    · cases heq
      exact body (Option.some.inj h) rfl shorter

end OpenClass

namespace Class

def names : List String :=
  ["alnum", "alpha", "ascii", "blank", "cntrl", "digit", "graph", "lower", "print", "punct",
    "space", "upper", "word", "xdigit"]

/-- Reads the name of a class with the colon and the bracket behind it. -/
def readName? (cs : List Char) : Option (List Char) :=
  match cs.dropWhile (· != ':') with
  | ':' :: ']' :: rest =>
    if names.contains (String.ofList (cs.takeWhile (· != ':'))) then some rest else none
  | _ => none

/-- Reads what stands behind the opening bracket of a class that is called by its name, and says
whether a caret negates it. -/
def readNamed? : List Char → Option (Bool × List Char)
  | ':' :: '^' :: cs => (readName? cs).map (true, ·)
  | ':' :: cs => (readName? cs).map (false, ·)
  | _ => none

def readElement? (m : Mode) : List Char → Option (Escape × List Char)
  | [] => none
  | '\\' :: cs => Escape.read? m cs
  | c :: cs => some (.literal ⟨c, false⟩, cs)

/-- Whether an escape may stand in a class by itself. -/
def allows (m : Mode) : Escape → Bool
  | .literal l => m.allowsMember l
  | .shorthand negated => m.allowsShorthand negated
  | .wordBoundary | .edge => false

/-- Reads what follows the hyphen of a range. The characters of a range ascend. -/
def readRangeEnd? (m : Mode) (first : Escape) (cs : List Char) : Option (List Char) :=
  match first, readElement? m (m.skip cs) with
  | .literal low, some (.literal high, rest) =>
    if m.allowsMember low ∧ m.allowsMember high ∧ low.char ≤ high.char then some rest else none
  | _, _ => none

/-- Reads a member of a class: an element, or a range of two characters with a hyphen between them.
A hyphen before another one or before a closing bracket makes no range. -/
def readMember? (m : Mode) (cs : List Char) : Option (List Char) :=
  match readElement? m cs with
  | none => none
  | some (first, rest) =>
    let single := if allows m first then some (m.skip rest) else none
    match m.skip rest with
    | '-' :: after =>
      if m.peek? after = some ']' ∨ m.peek? after = some '-' then single
      else readRangeEnd? m first after
    | _ => single

inductive Token
  | member
  | operator
  | opening (c : OpenClass)
  | closing
  deriving DecidableEq, Repr

def readToken? (m : Mode) : List Char → Option (Token × List Char)
  | ']' :: rest => some (.closing, rest)
  | '&' :: '&' :: rest | '-' :: '-' :: rest | '~' :: '~' :: rest => some (.operator, rest)
  | '[' :: rest =>
    match readNamed? rest with
    | some (negated, rest) => if m.allowsNamed negated then some (.member, rest) else none
    | none => (OpenClass.read? m rest).map fun (c, rest) => (.opening c, rest)
  | cs => (readMember? m cs).map (.member, ·)

theorem length_of_readName? {cs r : List Char} (h : readName? cs = some r) :
    r.length < cs.length := by
  unfold readName? at h
  split at h
  · rename_i heq
    have shorter := (List.dropWhile_sublist (· != ':') (l := cs)).length_le
    rw [heq] at shorter
    split at h
    · cases h; exact Nat.lt_of_succ_lt shorter
    · cases h
  · cases h

theorem length_of_readNamed? {cs r : List Char} {negated : Bool}
    (h : readNamed? cs = some (negated, r)) : r.length < cs.length := by
  unfold readNamed? at h
  split at h
  · obtain ⟨_, hn, h⟩ := Option.map_eq_some_iff.mp h
    cases h; exact Nat.lt_succ_of_lt (Nat.lt_succ_of_lt (length_of_readName? hn))
  · obtain ⟨_, hn, h⟩ := Option.map_eq_some_iff.mp h
    cases h; exact Nat.lt_succ_of_lt (length_of_readName? hn)
  · cases h

theorem length_of_readElement? {m : Mode} {cs r : List Char} {e : Escape}
    (h : readElement? m cs = some (e, r)) : r.length < cs.length := by
  unfold readElement? at h
  split at h
  · cases h
  · exact Nat.lt_succ_of_lt (Escape.length_of_read? h)
  · cases h; exact Nat.lt_succ_self _

theorem length_of_readRangeEnd? {m : Mode} {first : Escape} {cs r : List Char}
    (h : readRangeEnd? m first cs = some r) : r.length < cs.length := by
  unfold readRangeEnd? at h
  split at h
  · rename_i he
    split at h
    · cases h; exact Nat.lt_of_lt_of_le (length_of_readElement? he) (m.length_skip_le cs)
    · cases h
  · cases h

theorem length_of_readMember? {m : Mode} {cs r : List Char} (h : readMember? m cs = some r) :
    r.length < cs.length := by
  unfold readMember? at h
  split at h
  · cases h
  · rename_i first rest he
    have shorter := Nat.lt_of_le_of_lt (m.length_skip_le rest) (length_of_readElement? he)
    have single (h : (if allows m first then some (m.skip rest) else none) = some r) :
        r.length < cs.length := by
      split at h
      · cases h; exact shorter
      · cases h
    dsimp only at h
    split at h
    · rename_i hs
      rw [hs] at shorter
      split at h
      · exact single h
      · exact Nat.lt_trans (Nat.lt_succ_of_lt (length_of_readRangeEnd? h)) shorter
    · exact single h

theorem length_of_readToken? {m : Mode} {cs r : List Char} {t : Token}
    (h : readToken? m cs = some (t, r)) : r.length < cs.length := by
  unfold readToken? at h
  split at h
  · cases h; exact Nat.lt_succ_self _
  · cases h; exact Nat.lt_succ_of_lt (Nat.lt_succ_self _)
  · cases h; exact Nat.lt_succ_of_lt (Nat.lt_succ_self _)
  · cases h; exact Nat.lt_succ_of_lt (Nat.lt_succ_self _)
  · split at h
    · rename_i hn
      split at h
      · cases h; exact Nat.lt_succ_of_lt (length_of_readNamed? hn)
      · cases h
    · obtain ⟨⟨_, _⟩, ho, h⟩ := Option.map_eq_some_iff.mp h
      cases h; exact Nat.lt_succ_of_le (OpenClass.length_of_read? ho)
  · obtain ⟨_, hm, h⟩ := Option.map_eq_some_iff.mp h
    cases h; exact length_of_readMember? hm

/-- Reads the rest of a class that stands in some others, up to the bracket that closes the
outermost, and gives its nesting. -/
def read? (m : Mode) (outer : List OpenClass) (c : OpenClass) (cs : List Char) :
    Option (Nat × List Char) :=
  match _h : readToken? m (m.skip cs) with
  | none => none
  | some (.member, rest) => read? m outer (c.add 0) rest
  | some (.operator, rest) => read? m outer c.combine rest
  | some (.opening inner, rest) => read? m (c :: outer) inner rest
  | some (.closing, rest) =>
    match outer with
    | [] => some (c.nesting + 1, rest)
    | parent :: outer => read? m outer (parent.add (c.nesting + 1)) rest
termination_by cs.length
decreasing_by
  all_goals exact Nat.lt_of_lt_of_le (length_of_readToken? _h) (m.length_skip_le cs)

theorem length_of_read? {m : Mode} {outer : List OpenClass} {c : OpenClass} {cs r : List Char}
    {n : Nat} (h : read? m outer c cs = some (n, r)) : r.length < cs.length := by
  have shorter {t : Token} {cs rest : List Char} (h : readToken? m (m.skip cs) = some (t, rest)) :
      rest.length < cs.length :=
    Nat.lt_of_lt_of_le (length_of_readToken? h) (m.length_skip_le cs)
  fun_induction read? m outer c cs with
  | case1 => cases h
  | case2 outer c cs rest ht ih => exact Nat.lt_trans (ih h) (shorter ht)
  | case3 outer c cs rest ht ih => exact Nat.lt_trans (ih h) (shorter ht)
  | case4 outer c cs inner rest ht ih => exact Nat.lt_trans (ih h) (shorter ht)
  | case5 c cs rest ht => cases h; exact shorter ht
  | case6 c cs rest ht parent outer ih => exact Nat.lt_trans (ih h) (shorter ht)

end Class
end WordMachine.Text.Pattern
