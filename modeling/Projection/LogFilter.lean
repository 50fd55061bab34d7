import Projection.Number.Decimal
import Projection.Pattern.Expression
import Projection.Text.Alphanumeric
import Projection.Text.Bytes
import Projection.Text.Whitespace

/-! Log filters: directives between commas, such as `store[request{id=7}]=debug`, with a target, a
span, a field of the span and its value, and a level. Nothing is logged here, but a filter is read
before a statement is run. A faulty directive is left out, and one that cannot be cut into its parts
stops the program. -/

set_option autoImplicit false

namespace Projection.LogFilter

inductive Fault where
  | invalid
  | uncuttable
  deriving DecidableEq, Repr

/-- What a character of a directive belongs to, with the place where that part begins. -/
inductive Part where
  | start
  | target
  | span (first : Nat)
  | field (first : Nat)
  | fieldsEnd
  | spanEnd
  | level (first : Nat)
  deriving DecidableEq, Repr

def isTargetStart (c : Char) : Bool := c == '-' || c == ':' || c == '_' || Text.isAlphanumeric c

def isLevelNumber (text : List Char) : Bool :=
  let digits := if text.head? = some '+' then text.tail else text
  !digits.isEmpty && digits.all Char.isDigit && Digits.toNat digits ≤ 5

/-- A level in words, in any case, or as a number. It may be missing behind its equals sign. -/
def isLevel (text : List Char) : Bool :=
  String.ofList (text.map Char.toLower) ∈ ["", "off", "error", "warn", "info", "debug", "trace"] ||
    isLevelNumber text

def isValue (text : List Char) : Bool :=
  text.head? == some '+' && (Floating.ofText? (String.ofList text)).isSome ||
    Pattern.isExpression text

/-- A name that is not empty, or a name, an equals sign and a value, which ends before another
equals sign. -/
def isField (text : List Char) : Bool :=
  match text.dropWhile (· != '=') with
  | [] => !text.isEmpty
  | _ :: rest => isValue (rest.takeWhile (· != '='))

def cut (directive : List Char) (first last : Nat) : Except Fault (List Char) :=
  match Text.cut? first last directive with
  | none => .error .uncuttable
  | some part => .ok part

def Part.next (directive : List Char) (place : Nat) (c : Char) : Part → Except Fault Part
  | start =>
    if c = '[' then .ok (span (place + 1))
    else if isTargetStart c then .ok target
    else .error .invalid
  | target =>
    if c = '=' then (cut directive 0 place).map fun _ => level (place + 1)
    else if c = '[' then (cut directive 0 place).map fun _ => span (place + 1)
    else .ok target
  | span first =>
    if c = ']' then (cut directive first place).map fun _ => spanEnd
    else if c = '{' then (cut directive first place).map fun _ => field (place + 1)
    else .ok (span first)
  | field first =>
    if c = '}' then do
      let text ← cut directive first place
      if isField text then .ok fieldsEnd else .error .invalid
    else .ok (field first)
  | fieldsEnd => if c = ']' then .ok spanEnd else .error .invalid
  | spanEnd => if c = '=' then .ok (level (place + 1)) else .error .invalid
  | level first => .ok (level first)

def Part.faultAtEnd? (directive : List Char) : Part → Option Fault
  | target | spanEnd => none
  | level first =>
    match cut directive first (Text.byteCount directive) with
    | .error fault => some fault
    | .ok word => if isLevel word then none else some .invalid
  | _ => some .invalid

def faultFrom? (directive : List Char) (place : Nat) (part : Part) : List Char → Option Fault
  | [] => part.faultAtEnd? directive
  | c :: rest =>
    match part.next directive place c with
    | .error fault => some fault
    | .ok part => faultFrom? directive (place + c.utf8Size) part rest

/-- What is wrong with a directive. Places are counted without the white space around it, but the
cuts at these places are made with the white space before it. -/
def directiveFault? (directive : List Char) : Option Fault :=
  faultFrom? directive 0 .start (Text.trim directive)

def directives (filter : String) : List (List Char) :=
  ((filter.splitOn ",").filter (· != "")).map String.toList

def fault? (filter : String) : Option Fault := (directives filter).findSome? directiveFault?

def isUncuttable (filter : String) : Bool :=
  (directives filter).any (directiveFault? · = some .uncuttable)

def sharedVariable : String := "RUST_LOG"

/-- Whether the program cannot start with its own filter and the shared one, if there is one. A
shared filter without faults is the only one that is read. -/
def stops (shared : Option String) (own : String) : Bool :=
  match shared.map fault? with
  | some none => false
  | some (some .uncuttable) => true
  | some (some .invalid) | none => isUncuttable own

end Projection.LogFilter
