import WordMachine.Log
import WordMachine.Text.Cut
import WordMachine.Text.Numeral
import WordMachine.Text.Pattern

/-! Filters for the log. The parts of a filter stand between commas, and each says how much is
shown of the entries of some origin, or of those made during some stretch of work. -/
namespace WordMachine.CommandLine

open Log

def ofDetail? : Nat → Option Threshold
  | 0 => some none
  | 1 => some (some .error)
  | 2 => some (some .warn)
  | 3 => some (some .info)
  | 4 => some (some .debug)
  | 5 => some (some .trace)
  | _ => none

/-- A level by its name in any case, or by its amount of detail. The empty text stands for
the most detailed level. -/
def threshold? (text : String) : Option Threshold :=
  match Text.Numeral.natural? text.toList with
  | some n => ofDetail? n
  | none =>
    match text.toLower with
    | "off" => some none
    | "error" => some (some .error)
    | "warn" => some (some .warn)
    | "info" => some (some .info)
    | "debug" => some (some .debug)
    | "trace" | "" => some (some .trace)
    | _ => none

/-- A field that an entry or a stretch of work has, maybe with a value of some pattern. -/
structure Field where
  name : String
  value : Option String
  deriving DecidableEq, Repr

namespace Field

/-- What is no pattern may still be a number with a plus sign. -/
def isValue (cs : List Char) : Bool :=
  Text.isPattern (String.ofList cs) || match cs with
    | '+' :: cs =>
      Text.Numeral.isDecimal cs ||
        ["inf", "infinity", "nan"].contains (String.ofList cs).toLower
    | _ => false

/-- A name, and a value between an equals sign and the next one or the end. -/
def parse? (cs : List Char) : Option Field :=
  let name := String.ofList (cs.takeWhile (· != '='))
  if cs = [] then none
  else match cs.dropWhile (· != '=') with
    | [] => some ⟨name, none⟩
    | _ :: rest =>
      let value := rest.takeWhile (· != '=')
      if isValue value then some ⟨name, some (String.ofList value)⟩ else none

end Field

/-- One part of a filter: the entries of which origin it is about, during which stretch of work and
with which field, and what is shown of them. -/
structure Directive where
  origin : Option String := none
  span : Option String := none
  field : Option Field := none
  threshold : Threshold := some .trace
  deriving DecidableEq, Repr

namespace Directive

inductive Refusal
  | invalid
  /-- A character would have to be torn. -/
  | torn
  deriving DecidableEq, Repr

/-- What is being read of a part, and the place where it starts. -/
inductive Stage
  | start
  | origin
  | span (first : Nat)
  | field (first : Nat)
  | fieldEnd
  | scopeEnd
  | level (first : Nat)
  deriving DecidableEq, Repr

def startsOrigin (c : Char) : Bool :=
  c == '-' || c == ':' || c == '_' || Text.isAlphanumeric c

def cut (part : List Char) (first stop : Nat) : Except Refusal (List Char) :=
  match Text.cut? first stop part with
  | some cs => .ok cs
  | none => .error .torn

/-- Reads the character at a place: an origin up to an equals sign or a bracket, the name of a
stretch of work up to the closing bracket or a brace, a field up to the closing brace, with the
bracket right behind it, and behind that an equals sign or nothing. -/
def advance (part : List Char) (d : Directive) (stage : Stage) (place : Nat) (c : Char) :
    Except Refusal (Directive × Stage) := do
  match stage with
  | .start =>
    if c = '[' then return (d, .span (place + 1))
    else if startsOrigin c then return (d, .origin)
    else throw .invalid
  | .origin =>
    if c = '=' then
      return ({ d with origin := String.ofList (← cut part 0 place) }, .level (place + 1))
    else if c = '[' then
      return ({ d with origin := String.ofList (← cut part 0 place) }, .span (place + 1))
    else return (d, .origin)
  | .span first =>
    if c = ']' then
      return ({ d with span := String.ofList (← cut part first place) }, .scopeEnd)
    else if c = '\x7b' then
      let name ← cut part first place
      return ({ d with span := if name = [] then none else some (String.ofList name) },
        .field (place + 1))
    else return (d, .span first)
  | .field first =>
    if c = '\x7d' then
      match Field.parse? (← cut part first place) with
      | some field => return ({ d with field }, .fieldEnd)
      | none => throw .invalid
    else return (d, .field first)
  | .fieldEnd => if c = ']' then return (d, .scopeEnd) else throw .invalid
  | .scopeEnd => if c = '=' then return (d, .level (place + 1)) else throw .invalid
  | .level first => return (d, .level first)

/-- Ends a part. A part that is only an origin may also be a level for all origins. -/
def finish (part : List Char) (d : Directive) (stage : Stage) : Except Refusal Directive := do
  match stage with
  | .origin =>
    match threshold? (String.ofList part) with
    | some threshold => return { d with threshold }
    | none => return { d with origin := String.ofList part }
  | .level first =>
    match Text.dropBytes? first part with
    | none => throw .torn
    | some level =>
      match threshold? (String.ofList level) with
      | some threshold => return { d with threshold }
      | none => throw .invalid
  | .scopeEnd => return d
  | _ => throw .invalid

def readFrom (part : List Char) (d : Directive) (stage : Stage) (place : Nat) :
    List Char → Except Refusal Directive
  | [] => finish part d stage
  | c :: cs => do
    let (d, stage) ← advance part d stage place c
    readFrom part d stage (place + c.utf8Size) cs

/-- Blanks around a part are not read. Yet they do stand in it: places are counted from the first
character that is read, but texts are cut from the whole part. -/
def parse (part : String) : Except Refusal Directive :=
  let cs := part.toList
  let read := cs.dropWhile Text.blank.contains
  readFrom cs {} .start 0 (read.reverse.dropWhile Text.blank.contains).reverse

/-- Entries have one field, their message. A stretch of work is needed for any other, and for
values; none is ever under way. A directive for an origin is also about those that it begins. -/
def concerns (d : Directive) (origin : String) : Bool :=
  d.span.isNone && d.field.all (fun f => f.name == "message" && f.value.isNone) &&
    d.origin.all fun o => o.toList.isPrefixOf origin.toList

/-- How much a directive takes into account, first the origin and then a field. -/
def rank (d : Directive) : Nat :=
  2 * (d.origin.elim 0 fun o => o.length + 1) + if d.field.isSome then 1 else 0

end Directive

structure Filter where
  directives : List Directive
  deriving DecidableEq, Repr

namespace Filter

/-- Empty parts are left out. A filter without parts shows errors. -/
def parse (text : String) : Except Directive.Refusal Filter := do
  let ds ← ((text.splitOn ",").filter (· ≠ "")).mapM Directive.parse
  return ⟨if ds = [] then [{ threshold := some .error }] else ds⟩

/-- Of the directives about an origin the one that takes most into account decides, the last one
where there are several. Without any nothing is shown. -/
def threshold (f : Filter) (origin : String) : Threshold :=
  let later (best : Option Directive) (d : Directive) : Option Directive :=
    if best.all (·.rank ≤ d.rank) then some d else best
  ((f.directives.filter (·.concerns origin)).foldl later none).bind (·.threshold)

end Filter
end WordMachine.CommandLine
