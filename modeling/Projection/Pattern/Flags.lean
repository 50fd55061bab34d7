import Projection.Text.CodePoint
import Projection.Text.Whitespace

set_option autoImplicit false

namespace Projection.Pattern

inductive Flag where
  | ignoreCase
  | multiLine
  | dotAll
  | swapGreed
  | unicode
  | carriageReturn
  | spaced
  deriving DecidableEq, Repr

def Flag.ofChar? : Char → Option Flag
  | 'i' => some ignoreCase
  | 'm' => some multiLine
  | 's' => some dotAll
  | 'U' => some swapGreed
  | 'u' => some unicode
  | 'R' => some carriageReturn
  | 'x' => some spaced
  | _ => none

/-- Flags to raise and, behind a minus sign, flags to lower. -/
structure FlagChange where
  raised : List Flag := []
  lowered : Option (List Flag) := none
  deriving DecidableEq, Repr

namespace FlagChange

def add? (change : FlagChange) (flag : Flag) : Option FlagChange :=
  if flag ∈ change.raised ∨ flag ∈ change.lowered.getD [] then none
  else
    match change.lowered with
    | none => some { change with raised := flag :: change.raised }
    | some flags => some { change with lowered := some (flag :: flags) }

def takeLetters (change : FlagChange) : (text : List Char) → Option (Remains FlagChange text)
  | [] => none
  | c :: rest =>
    if c = ':' ∨ c = ')' then
      if change.lowered = some [] then none else some (.whole change (c :: rest))
    else if c = '-' then
      if change.lowered.isSome then none
      else (takeLetters { change with lowered := some [] } rest).map (·.behind.remains)
    else
      ((Flag.ofChar? c).bind change.add?).bind fun change =>
        (takeLetters change rest).map (·.behind.remains)

end FlagChange

structure Flags where
  ignoreCase : Bool := false
  unicode : Bool := true
  spaced : Bool := false
  deriving DecidableEq, Repr

namespace Flags

def change (flags : Flags) (change : FlagChange) : Flags :=
  let after (flag : Flag) (before : Bool) : Bool :=
    flag ∈ change.raised || before && flag ∉ change.lowered.getD []
  ⟨after .ignoreCase flags.ignoreCase, after .unicode flags.unicode, after .spaced flags.spaced⟩

def skipSpaced : (inComment : Bool) → List Char → List Char
  | _, [] => []
  | true, c :: rest => skipSpaced (c != '\n') rest
  | false, c :: rest =>
    if Text.isWhitespace c then skipSpaced false rest
    else if c = '#' then skipSpaced true rest
    else c :: rest

theorem skipSpaced_length_le (inComment : Bool) (text : List Char) :
    (skipSpaced inComment text).length ≤ text.length := by
  induction text generalizing inComment with
  | nil => cases inComment <;> exact Nat.le_refl _
  | cons c rest ih =>
    cases inComment with
    | true => exact Nat.le_succ_of_le (ih _)
    | false =>
      unfold skipSpaced
      split
      · exact Nat.le_succ_of_le (ih _)
      · split
        · exact Nat.le_succ_of_le (ih _)
        · exact Nat.le_refl _

def skip (flags : Flags) (text : List Char) : List Char :=
  if flags.spaced then skipSpaced false text else text

/-- The character that a glance ahead finds. A glance takes a comment to be its number sign
alone. -/
def glance? (flags : Flags) (text : List Char) : Option Char :=
  if flags.spaced then
    match text.dropWhile Text.isWhitespace with
    | '#' :: rest => (rest.dropWhile Text.isWhitespace).head?
    | text => text.head?
  else text.head?

theorem skip_length_le (flags : Flags) (text : List Char) :
    (flags.skip text).length ≤ text.length := by
  unfold skip
  split
  · exact skipSpaced_length_le false text
  · exact Nat.le_refl _

def gap (flags : Flags) : Text.Gap := ⟨flags.skip, flags.skip_length_le⟩

/-- Whether characters stand for their other cases too. Those are not known here. -/
def needsCases (flags : Flags) : Bool := flags.unicode && flags.ignoreCase

end Flags

end Projection.Pattern
