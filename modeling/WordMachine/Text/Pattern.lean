import WordMachine.Text.Alphanumeric
import WordMachine.Text.Pattern.Class

/-! Patterns: which texts are patterns. A pattern is cut into tokens, each read in the mode that
holds at its place; then its groups must be closed, each repetition must have something to repeat,
no two groups may have one name, and it may not nest too far. Nothing is ever matched here. -/
namespace WordMachine.Text

namespace Pattern

inductive Token
  /-- What can be repeated, and its nesting. -/
  | part (nesting : Nat)
  | repetition
  | alternative
  /-- Opens a group, maybe one with a name, that is read in some mode. -/
  | opening (name : Option (List Char)) (mode : Mode)
  | closing
  /-- Changes how the rest of a group is read. -/
  | setting (mode : Mode)
  deriving DecidableEq, Repr

namespace Token

/-- Letters and underscores, and behind the first of them also numbers, points and square
brackets. -/
def isName (cs : List Char) : Bool :=
  cs.head?.any (fun c => c == '_' || alphabetic.contains c) &&
    cs.all fun c => c == '_' || c == '.' || c == '[' || c == ']' || isAlphanumeric c

def readName? (m : Mode) (cs : List Char) : Option (Token × List Char) :=
  let name := cs.takeWhile (· != '>')
  match cs.drop name.length with
  | _ :: rest => if isName name then some (.opening (some name) m, rest) else none
  | [] => none

/-- Reads a setting. A colon ends it before the content of its group; otherwise the group ends with
it, and it holds for what follows. -/
def readSetting? (m : Mode) (cs : List Char) : Option (Token × List Char) :=
  let text := cs.takeWhile fun c => c != ':' && c != ')'
  match cs.drop text.length, Setting.ofText? text with
  | ':' :: rest, some s => some (.opening none (m.switch s), rest)
  | _ :: rest, some s => if text = [] then none else some (.setting (m.switch s), rest)
  | _, _ => none

def readGroup? (m : Mode) (cs : List Char) : Option (Token × List Char) :=
  match m.skip cs with
  | '?' :: 'P' :: '<' :: rest | '?' :: '<' :: rest => readName? m rest
  | '?' :: rest => readSetting? m rest
  | rest => some (.opening none m, rest)

/-- Whether an escape may stand in a pattern outside of a class. -/
def allows (m : Mode) : Escape → Bool
  | .literal l => m.allowsLiteral l
  | .shorthand negated => m.allowsShorthand negated
  | .wordBoundary => !m.unicode
  | .edge => true

/-- Reads a token. A question mark right behind a repetition belongs to it. Repetitions cannot be
counted: the brace that would end the count ends a field before. -/
def read? (m : Mode) : List Char → Option (Token × List Char)
  | [] => none
  | '(' :: cs => readGroup? m cs
  | ')' :: cs => some (.closing, cs)
  | '|' :: cs => some (.alternative, cs)
  | '[' :: cs =>
    (OpenClass.read? m cs).bind fun (c, rest) =>
      (Class.read? m [] c rest).map fun (nesting, rest) => (.part nesting, rest)
  | '\\' :: cs =>
    (Escape.read? m cs).bind fun (e, rest) => if allows m e then some (.part 0, rest) else none
  | c :: cs =>
    if c = '*' ∨ c = '+' ∨ c = '?' then
      some (.repetition, if cs.head? = some '?' then cs.tail else cs)
    else if c = '^' ∨ c = '$' then some (.part 0, cs)
    else if c = '.' then if m.unicode then some (.part 0, cs) else none
    else if c = '\x7b' then none
    else if m.allowsLiteral ⟨c, false⟩ then some (.part 0, cs)
    else none

end Token

/-- What has been read of one alternative. -/
inductive Piece
  | part (nesting : Nat)
  | setting
  deriving DecidableEq, Repr

def Piece.nesting : Piece → Nat
  | part n => n
  | setting => 0

/-- A group that has not been closed yet. The pieces of its last alternative stand in reverse. -/
structure OpenGroup where
  mode : Mode := {}
  alternatives : Row := {}
  pieces : List Piece := []
  deriving DecidableEq, Repr

namespace OpenGroup

def push (g : OpenGroup) (p : Piece) : OpenGroup := { g with pieces := p :: g.pieces }

def finish (g : OpenGroup) : OpenGroup :=
  let row : Row := g.pieces.foldl (fun row p => row.add p.nesting) {}
  { g with alternatives := g.alternatives.add row.nesting, pieces := [] }

def nesting (g : OpenGroup) : Nat := g.finish.alternatives.nesting

def repeat? (g : OpenGroup) : Option OpenGroup :=
  match g.pieces with
  | .part n :: pieces => some { g with pieces := .part (n + 1) :: pieces }
  | _ => none

end OpenGroup

/-- How far a pattern has been read: the group at hand, those around it, and all names so far. -/
structure Progress where
  group : OpenGroup := {}
  outer : List OpenGroup := []
  names : List (List Char) := []
  deriving DecidableEq, Repr

namespace Progress

def push? (p : Progress) (t : Token) : Option Progress :=
  match t with
  | .part n => some { p with group := p.group.push (.part n) }
  | .setting m => some { p with group := { p.group.push .setting with mode := m } }
  | .repetition => p.group.repeat?.map fun g => { p with group := g }
  | .alternative => some { p with group := p.group.finish }
  | .opening none m => some { p with group := { mode := m }, outer := p.group :: p.outer }
  | .opening (some name) m =>
    if p.names.contains name then none
    else some ⟨{ mode := m }, p.group :: p.outer, name :: p.names⟩
  | .closing =>
    match p.outer with
    | [] => none
    | g :: outer => some { p with group := g.push (.part (p.group.nesting + 1)), outer }

end Progress

theorem Token.length_of_readName? {m : Mode} {cs r : List Char} {t : Token}
    (h : readName? m cs = some (t, r)) : r.length < cs.length := by
  unfold readName? at h
  dsimp only at h
  split at h
  · rename_i heq
    have shorter := congrArg List.length heq
    rw [List.length_drop, List.length_cons] at shorter
    split at h
    · cases h; omega
    · cases h
  · cases h

theorem Token.length_of_readSetting? {m : Mode} {cs r : List Char} {t : Token}
    (h : readSetting? m cs = some (t, r)) : r.length < cs.length := by
  unfold readSetting? at h
  dsimp only at h
  split at h
  · rename_i heq _
    have shorter := congrArg List.length heq
    rw [List.length_drop, List.length_cons] at shorter
    cases h; omega
  · rename_i heq _
    have shorter := congrArg List.length heq
    rw [List.length_drop, List.length_cons] at shorter
    split at h
    · cases h
    · cases h; omega
  · cases h

theorem Token.length_of_readGroup? {m : Mode} {cs r : List Char} {t : Token}
    (h : readGroup? m cs = some (t, r)) : r.length ≤ cs.length := by
  have shorter := m.length_skip_le cs
  unfold readGroup? at h
  split at h
  · rename_i heq
    have := length_of_readName? h
    rw [heq] at shorter
    simp only [List.length_cons] at shorter
    omega
  · rename_i heq
    have := length_of_readName? h
    rw [heq] at shorter
    simp only [List.length_cons] at shorter
    omega
  · rename_i heq
    have := length_of_readSetting? h
    rw [heq] at shorter
    simp only [List.length_cons] at shorter
    omega
  · cases h; exact shorter

theorem Token.length_of_read? {m : Mode} {cs r : List Char} {t : Token}
    (h : read? m cs = some (t, r)) : r.length < cs.length := by
  unfold read? at h
  split at h
  · cases h
  · exact Nat.lt_succ_of_le (length_of_readGroup? h)
  · cases h; exact Nat.lt_succ_self _
  · cases h; exact Nat.lt_succ_self _
  · obtain ⟨⟨_, _⟩, ho, h⟩ := Option.bind_eq_some_iff.mp h
    obtain ⟨⟨_, _⟩, hc, h⟩ := Option.map_eq_some_iff.mp h
    cases h
    exact Nat.lt_succ_of_lt
      (Nat.lt_of_lt_of_le (Class.length_of_read? hc) (OpenClass.length_of_read? ho))
  · obtain ⟨⟨_, _⟩, he, h⟩ := Option.bind_eq_some_iff.mp h
    dsimp only at h
    split at h
    · cases h; exact Nat.lt_succ_of_lt (Escape.length_of_read? he)
    · cases h
  · grind

def Progress.read? (p : Progress) (cs : List Char) : Option Progress :=
  match _h : p.group.mode.skip cs with
  | [] => some p
  | rest =>
    match _ht : Token.read? p.group.mode rest with
    | none => none
    | some (t, rest) => (p.push? t).bind fun next => next.read? rest
termination_by cs.length
decreasing_by
  have := p.group.mode.length_skip_le cs
  rw [_h] at this
  exact Nat.lt_of_lt_of_le (Token.length_of_read? _ht) this

/-- How many things of a pattern may be inside of each other. -/
def nestingLimit : Nat := 250

end Pattern

/-- Whether a text is a pattern: it can be read to its end, all its groups are closed, and it does
not nest too far. -/
def isPattern (text : String) : Bool :=
  (Pattern.Progress.read? {} text.toList).any fun p =>
    p.outer == [] && p.group.nesting ≤ Pattern.nestingLimit

end WordMachine.Text
