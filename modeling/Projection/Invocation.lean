import Projection.LogFilter
import Projection.Mode

set_option autoImplicit false

namespace Projection

structure Invocation where
  statement : Option String := none
  directory : Option Path := none
  data : Option Path := none
  caseSensitive : Bool := false
  pretty : Bool := false
  tokens : Bool := false
  parseOnly : Bool := false
  deriving DecidableEq, Repr

namespace Invocation

inductive Flag where
  | caseSensitive
  | pretty
  | tokens
  | parseOnly
  deriving DecidableEq, Repr

inductive Setting where
  | config
  | data
  deriving DecidableEq, Repr

inductive Argument where
  | flag (flag : Flag)
  | setting (setting : Setting) (value : RawText)
  | statement (text : String)
  deriving DecidableEq, Repr

def Flag.ofName? : String → Option Flag
  | "case-sensitive" => some .caseSensitive
  | "pretty" => some .pretty
  | "tokens" => some .tokens
  | "parse-only" => some .parseOnly
  | _ => none

def Setting.ofName? : String → Option Setting
  | "config" => some .config
  | "data" => some .data
  | _ => none

def dash : UInt8 := 45

/-- A single dash is a value like any other. -/
def isOption (argument : RawText) : Bool :=
  argument.bytes.head? == some dash && argument != RawText.ofString "-"

namespace Argument

def splitOption (option : RawText) : RawText × Option RawText :=
  let name := option.bytes.takeWhile (· != RawText.equalsSign)
  match option.bytes.dropWhile (· != RawText.equalsSign) with
  | [] => (⟨name⟩, none)
  | _ :: value => (⟨name⟩, some ⟨value⟩)

def statement? (raw : RawText) : Option Argument := raw.toString?.map statement

/-- What a text is by itself: an argument, or an option whose value comes next. Nothing if the option
is unknown or has a value that it does not take. -/
def ofRaw? (raw : RawText) : Option (Argument ⊕ Setting) :=
  if !isOption raw then (statement? raw).map .inl
  else
    match RawText.behind? "--" raw with
    | none => none
    | some option => do
      let (raw_name, value) := splitOption option
      let name ← raw_name.toString?
      match Flag.ofName? name, Setting.ofName? name, value with
      | some option, _, none => return .inl (.flag option)
      | none, some option, some value => return .inl (.setting option value)
      | none, some option, none => return .inr option
      | _, _, _ => none

def readAll : List RawText → Option (List Argument)
  | [] => some []
  | raw :: rest =>
    if raw = "--" then rest.mapM statement?
    else
      match ofRaw? raw with
      | none => none
      | some (.inl argument) => (readAll rest).map (argument :: ·)
      | some (.inr option) =>
        match rest with
        | [] => none
        | value :: others =>
          if isOption value then none else (readAll others).map (.setting option value :: ·)

end Argument

def add (invocation : Invocation) : Argument → Option Invocation
  | .statement text =>
    if invocation.statement.isSome then none else some { invocation with statement := some text }
  | .setting .config value =>
    if invocation.directory.isSome || value.isEmpty then none
    else some { invocation with directory := some value }
  | .setting .data value =>
    if invocation.data.isSome || value.isEmpty then none
    else some { invocation with data := some value }
  | .flag .caseSensitive =>
    if invocation.caseSensitive then none else some { invocation with caseSensitive := true }
  | .flag .pretty => if invocation.pretty then none else some { invocation with pretty := true }
  | .flag .tokens => if invocation.tokens then none else some { invocation with tokens := true }
  | .flag .parseOnly =>
    if invocation.parseOnly then none else some { invocation with parseOnly := true }

def isConsistent (invocation : Invocation) : Bool := !(invocation.tokens && invocation.parseOnly)

def ofArguments (arguments : List RawText) : Option Invocation := do
  let invocation ← (← Argument.readAll arguments).foldlM add {}
  if invocation.isConsistent then some invocation else none

def mode (invocation : Invocation) : Mode :=
  if invocation.tokens then .tokens else if invocation.parseOnly then .parseOnly else .execute

def statementOrDefault (invocation : Invocation) : String :=
  invocation.statement.getD "SELECT Name FROM Customers"

def directoryOrDefault (invocation : Invocation) : Path := invocation.directory.getD "."

def override (invocation : Invocation) (config : Config) : Config :=
  { config with
    caseSensitive := invocation.caseSensitive || config.caseSensitive
    pretty := invocation.pretty || config.pretty
    data := invocation.data.or config.data }

def config (invocation : Invocation) (files : Files) (environment : Environment) :
    Except Failure Config :=
  (Config.load files environment invocation.directoryOrDefault).map invocation.override

def run (invocation : Invocation) (files : Files) (environment : Environment) :
    Except Failure String := do
  let config ← invocation.config files environment
  let environment ← Config.environmentIn files environment invocation.directoryOrDefault
  if LogFilter.stops (environment.text? LogFilter.sharedVariable) config.logFilter then
    throw .logFilter
  invocation.mode.run files config invocation.statementOrDefault

end Invocation

end Projection
