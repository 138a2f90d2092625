import HostRoster.Log
import HostRoster.Text.Blank

/-!
# Log filters

A filter is a list of directives with commas between them. A directive sets the least urgent level
that passes, for the reports whose path begins with the target of the directive:

* `level` sets the level of all reports, `target` lets all reports of the target pass;
* `target=level` sets the level of a target;
* `target[span{field}]=level` is restricted to a span or to reports with a field.

Of the directives that apply to a report the most specific one decides: the one with the longest
target, then the one with a field, and of equal ones the last. Reports of this program do not stand
in spans, so that directives with a span never apply.
-/

set_option autoImplicit false

namespace HostRoster

/-! ## Directives -/

/-- The least urgent level that passes; without one nothing passes. -/
abbrev Threshold := Option LogLevel

/-- How urgent a level is. -/
def LogLevel.rank : LogLevel → Nat
  | .trace => 0
  | .debug => 1
  | .info => 2
  | .warn => 3
  | .error => 4

/-- Whether a level passes a threshold. -/
def LogLevel.passes (level : LogLevel) : Threshold → Bool
  | none => false
  | some least => least.rank ≤ level.rank

/-- A field that a directive asks for. -/
structure FieldCondition where
  /-- The name of the field. -/
  name : String
  /-- Whether it must have a certain value. -/
  hasValue : Bool
  deriving DecidableEq, Repr

/-- A rule for the reports under a path. -/
structure Directive where
  /-- How the path begins. -/
  target : String := ""
  /-- The span in which the reports stand. -/
  spanName : Option String := none
  /-- The field that the reports have. -/
  fieldCondition : Option FieldCondition := none
  /-- What passes. -/
  threshold : Threshold := some .trace
  deriving DecidableEq, Repr

/-- Why a text is no directive. -/
inductive DirectiveFault where
  /-- It does not have the form of a directive. -/
  | badForm
  /-- It has the form of a directive, but with no level where one must be. -/
  | badLevel
  deriving DecidableEq, Repr

/-- The wording of a fault. -/
def DirectiveFault.message : DirectiveFault → String
  | .badForm => "invalid filter directive"
  | .badLevel =>
    "error parsing level filter: expected one of \"off\", \"error\", \"warn\", \"info\", " ++
      "\"debug\", \"trace\", or a number 0-5"

/-! ## Reading directives -/

namespace Threshold

/-- The thresholds by their names, in the order of their numbers. -/
def names : List (String × Threshold) :=
  [("off", none), ("error", some .error), ("warn", some .warn), ("info", some .info),
    ("debug", some .debug), ("trace", some .trace)]

/-- The number that digits stand for, which may follow a plus sign. -/
def number? (text : List Char) : Option Nat :=
  let digits := match text with
    | '+' :: digits => digits
    | digits => digits
  if digits ≠ [] ∧ digits.all Char.isDigit then
    some (digits.foldl (fun value digit => value * 10 + (digit.toNat - '0'.toNat)) 0)
  else none

/-- Reads a threshold from a number or from a name in letters of either case. -/
def read? (text : List Char) : Option Threshold :=
  match (number? text).bind fun number => names[number]? with
  | some (_, threshold) => some threshold
  | none => names.lookup (String.ofList (text.map Char.toLower))

end Threshold

namespace Directive

/-- Whether a directive that begins with this character may begin with a target or a level. -/
def mayBegin (c : Char) : Bool :=
  c == '-' || c == ':' || c == '_' || c.isAlphanum || 0x80 ≤ c.toNat

/-- Reads the condition on a field, which ends before its closing brace. -/
def readField (text : List Char) : Option FieldCondition :=
  if text = [] then none
  else some
    { name := String.ofList (text.takeWhile (· != '=')), hasValue := text.contains '=' }

/-- Completes a directive with the level that is written last; without it everything passes. -/
def withLevel (directive : Directive) (text : List Char) : Except DirectiveFault Directive :=
  if text = [] then .ok { directive with threshold := some .trace }
  else match Threshold.read? text with
    | some threshold => .ok { directive with threshold }
    | none => .error .badLevel

/-- The part of a text from one position up to another. -/
def slice (text : List Char) (start stop : Nat) : List Char := (text.drop start).take (stop - start)

/-- Completes a directive behind its closing bracket. The form is that of `form`, whose characters
from a position on are left, and the words are those at the same positions of `text`. -/
def readEnd (text form : List Char) (position : Nat) (directive : Directive) :
    Except DirectiveFault Directive :=
  match form.drop position with
  | [] => .ok directive
  | '=' :: _ => directive.withLevel (text.drop (position + 1))
  | _ => .error .badForm

/-- Completes a directive behind its opening bracket. -/
def readSpan (text form : List Char) (position : Nat) (directive : Directive) :
    Except DirectiveFault Directive :=
  let stop := position + ((form.drop position).takeWhile fun c => c != ']' && c != '\x7b').length
  let span := slice text position stop
  match form.drop stop with
  | ']' :: _ =>
    readEnd text form (stop + 1) { directive with spanName := some (String.ofList span) }
  | '\x7b' :: behind =>
    let spanName := if span = [] then none else some (String.ofList span)
    let close := stop + 1 + (behind.takeWhile (· != '\x7d')).length
    match form.drop close, readField (slice text (stop + 1) close) with
    | '\x7d' :: ']' :: _, some condition =>
      readEnd text form (close + 2) { directive with spanName, fieldCondition := some condition }
    | _, _ => .error .badForm
  | _ => .error .badForm

/-- Reads a directive. Blanks around it are passed over when its form is determined, but its words
are taken at the same positions of the text with its blanks, so that blanks at the beginning move
the words. -/
def read (text : List Char) : Except DirectiveFault Directive :=
  let form := Blank.trim text
  match form with
  | [] => .error .badForm
  | '[' :: _ => readSpan text form 1 {}
  | first :: _ =>
    if !mayBegin first then .error .badForm
    else
      let stop := (form.takeWhile fun c => c != '=' && c != '[').length
      let target := String.ofList (text.take stop)
      match form.drop stop with
      | '=' :: _ => withLevel { target } (text.drop (stop + 1))
      | '[' :: _ => readSpan text form (stop + 1) { target }
      | _ =>
        match Threshold.read? text with
        | some threshold => .ok { threshold }
        | none => .ok { target := String.ofList text }

end Directive

/-! ## Filters -/

/-- A list of directives. -/
structure LogFilter where
  /-- The directives in the order in which they are given. -/
  directives : List Directive
  deriving DecidableEq, Repr

namespace LogFilter

/-- The texts of the directives of a filter; empty ones are left out. -/
def pieces (text : String) : List String := (text.splitOn ",").filter (· ≠ "")

/-- The filter of directives; without any only errors pass. -/
def ofDirectives (directives : List Directive) : LogFilter :=
  ⟨if directives = [] then [{ threshold := some .error }] else directives⟩

/-- Reads a filter whose directives are all correct. -/
def read (text : String) : Except DirectiveFault LogFilter := do
  return ofDirectives (← (pieces text).mapM fun piece => Directive.read piece.toList)

/-- Reads a filter without its incorrect directives, about which there are complaints. -/
def readLeniently (text : String) : LogFilter × List String :=
  let results := (pieces text).map fun piece => (piece, Directive.read piece.toList)
  (ofDirectives (results.filterMap fun (_, result) => result.toOption),
    results.filterMap fun (piece, result) =>
      match result with
      | .ok _ => none
      | .error fault => some ("ignoring `" ++ piece ++ "`: " ++ fault.message))

/-- The fields of an entry. -/
def fieldsOf (entry : LogEntry) : List String := "message" :: entry.values.map Prod.fst

/-- Whether a directive applies to an entry. -/
def applies (directive : Directive) (entry : LogEntry) : Bool :=
  directive.spanName.isNone && directive.target.isPrefixOf entry.origin.path &&
    directive.fieldCondition.all fun condition =>
      !condition.hasValue && (fieldsOf entry).contains condition.name

/-- Whether a directive is at least as specific as another one that applies to the same entry: it
has a longer target, or the same one and the field that comes later in the order of texts. -/
def isAsSpecific (directive other : Directive) : Bool :=
  if directive.target.length ≠ other.target.length then
    other.target.length < directive.target.length
  else match directive.fieldCondition, other.fieldCondition with
    | _, none => true
    | none, some _ => false
    | some condition, some held => !decide (condition.name < held.name)

/-- The directive that decides about an entry. -/
def deciding? (filter : LogFilter) (entry : LogEntry) : Option Directive :=
  (filter.directives.filter fun directive => applies directive entry).foldl
    (fun best directive =>
      match best with
      | none => some directive
      | some held => if isAsSpecific directive held then some directive else some held)
    none

/-- Whether an entry passes. -/
def passes (filter : LogFilter) (entry : LogEntry) : Bool :=
  match filter.deciding? entry with
  | none => false
  | some directive => entry.level.passes directive.threshold

end LogFilter

end HostRoster
