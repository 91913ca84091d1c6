/-
Values of configuration directives.
-/

import Ngxora.Config.Parser
import Ngxora.Ir

namespace Ngxora.Config

open Results Digits

/-- A lowering ends with a result, an error or a panic: a slice that cuts a char apart has
no result. -/
inductive Stop where
  | lowerErr (message : String)
  | panicked
  deriving DecidableEq

/-- The debug output of texts and of URL errors.  `plain` tells which chars
beyond ASCII are printed as they are. -/
structure Formats where
  plain : Char → Bool
  urlError : String → String

def Formats.escape (formats : Formats) (char : Char) : List Char :=
  if char = '\x00' then ['\\', '0']
  else if char = '\t' then ['\\', 't']
  else if char = '\r' then ['\\', 'r']
  else if char = '\n' then ['\\', 'n']
  else if char = '"' ∨ char = '\\' then ['\\', char]
  else
    let code := char.toNat
    if (32 ≤ code ∧ code < 127) ∨ (128 ≤ code ∧ formats.plain char) then [char]
    else ['\\', 'u', '\x7b'] ++ Nat.toDigits 16 code ++ ['\x7d']

def Formats.debug (formats : Formats) (text : String) : String :=
  String.ofList (['"'] ++ text.toList.flatMap formats.escape ++ ['"'])

def Formats.debugList (formats : Formats) (texts : List String) : String :=
  "[" ++ String.intercalate ", " (texts.map formats.debug) ++ "]"

def parseExactlyOneArgument (args : List String) (directive : String) : Except Stop String :=
  match args with
  | [value] => .ok value
  | [] => .error (.lowerErr s!"{directive}: expected 1 argument")
  | _ => .error (.lowerErr s!"{directive}: expected exactly 1 argument")

def parsePositiveUsize (args : List String) (directive : String) : Except Stop UInt64 := do
  let value ← parseExactlyOneArgument args directive
  let parsed ← orFail (parseU64 value) (.lowerErr s!"{directive}: invalid integer `{value}`")
  rejectIf (parsed == 0) (.lowerErr s!"{directive}: value must be greater than zero")
  pure parsed

def ensureNonZeroDuration (value : Duration) (directive : String) : Except Stop Unit :=
  rejectIf value.isZero (.lowerErr s!"{directive}: value must be greater than zero")

def setOnce {α : Type} (slot : Option α) (value : α) (directive : String) :
    Except Stop (Option α) := do
  rejectIf slot.isSome (.lowerErr s!"{directive}: duplicated directive")
  pure (some value)

def parseBasicAuthSingleValue (args : List String) (directive expectedMessage : String) :
    Except Stop String :=
  match args with
  | [value] => .ok value
  | _ => .error (.lowerErr s!"{directive}: {expectedMessage}")

def parseBasicAuthJoinedValue (args : List String) (directive expectedMessage : String) :
    Except Stop String :=
  match args with
  | [] => .error (.lowerErr s!"{directive}: {expectedMessage}")
  | values => .ok (String.intercalate " " values)

def getDirectiveSwitch (name : String) (args : List String) : Except Stop Switch :=
  match args with
  | [value] =>
    if value = "on" then .ok .on
    else if value = "off" then .ok .off
    else .error (.lowerErr s!"{name}: expected on|off")
  | [] => .error (.lowerErr s!"{name}: expected on|off")
  | _ => .error (.lowerErr s!"{name}: expected exactly one argument on|off")

def unitMultiplierMillis (unit : String) : Option Nat :=
  if unit = "ms" then some 1
  else if unit = "s" then some 1000
  else if unit = "m" then some 60000
  else if unit = "h" then some 3600000
  else if unit = "d" then some 86400000
  else if unit = "w" then some 604800000
  else if unit = "M" then some 2592000000
  else if unit = "y" then some 31536000000
  else none

def checkedU128 (value : Nat) : Option Nat := if value < 2 ^ 128 then some value else none

/-- The unit after a number.  A unit that is not `ms` is cut out as one byte. -/
def timeUnit (raw directive : String) (sawSegment : Bool) :
    List Char → Except Stop (String × List Char)
  | [] =>
    if sawSegment then .error (.lowerErr s!"{directive}: missing unit in `{raw}`")
    else .ok ("s", [])
  | 'm' :: 's' :: rest => .ok ("ms", rest)
  | char :: rest =>
    if char.utf8Size = 1 then .ok (String.singleton char, rest)
    else .error .panicked

/-- One round of the loop: the milliseconds of a number with its unit, and the text
after it. -/
def timeSegment (raw directive : String) (sawSegment : Bool) (text : List Char) :
    Except Stop (Nat × List Char) := do
  let (digits, rest) := spanDigits 10 text
  rejectIf digits.isEmpty (.lowerErr s!"{directive}: invalid time value `{raw}`")
  let value ← orFail (parseUnsigned (2 ^ 128) (String.ofList digits))
    (.lowerErr s!"{directive}: invalid time value `{raw}`")
  let (unit, rest) ← timeUnit raw directive sawSegment rest
  let multiplier ← orFail (unitMultiplierMillis unit)
    (.lowerErr s!"{directive}: unsupported time unit `{unit}` in `{raw}`")
  let millis ← orFail (checkedU128 (value * multiplier))
    (.lowerErr s!"{directive}: time value `{raw}` is too large")
  pure (millis, rest)

/-- The loop over the segments.  Every round reads a char, so that the length of
the text bounds their number. -/
def totalMillis (raw directive : String) :
    Nat → Bool → Nat → List Char → Except Stop Nat
  | 0, _, total, _ => .ok total
  | rounds + 1, sawSegment, total, text =>
    if text.isEmpty then .ok total
    else do
      let (millis, rest) ← timeSegment raw directive sawSegment text
      let total ← orFail (checkedU128 (total + millis))
        (.lowerErr s!"{directive}: time value `{raw}` is too large")
      totalMillis raw directive rounds true total rest

def parseDurationLiteral (raw directive : String) : Except Stop Duration := do
  rejectIf raw.isEmpty (.lowerErr s!"{directive}: invalid time value `{raw}`")
  let total ← totalMillis raw directive raw.toList.length false 0 raw.toList
  let millis ← orFail (Machine.narrowU64 total)
    (.lowerErr s!"{directive}: time value `{raw}` is too large")
  pure (Duration.fromMillis millis)

def parseSingleDurationDirective (args : List String) (directive : String) : Except Stop Duration :=
  match args with
  | [value] => parseDurationLiteral value directive
  | [] => .error (.lowerErr s!"{directive}: expected 1 argument")
  | _ => .error (.lowerErr s!"{directive}: expected exactly 1 argument")

def parseKeepaliveTimeout (args : List String) : Except Stop KeepaliveTimeout :=
  match args with
  | [idle] => do
    let idle ← parseDurationLiteral idle "keepalive_timeout"
    pure (if idle.isZero then .off else .timeout idle none)
  | [idle, header] => do
    let idle ← parseDurationLiteral idle "keepalive_timeout"
    let header ← parseDurationLiteral header "keepalive_timeout"
    pure (if idle.isZero && header.isZero then .off else .timeout idle (some header))
  | _ => .error (.lowerErr "keepalive_timeout: expected 1 or 2 arguments")

def parseKeepaliveRequests (args : List String) : Except Stop UInt32 :=
  match args with
  | [value] =>
    orFail (parseU32 value) (.lowerErr s!"keepalive_requests: invalid integer `{value}`")
  | [] => .error (.lowerErr "keepalive_requests: expected 1 argument")
  | _ => .error (.lowerErr "keepalive_requests: expected exactly 1 argument")

def sizeMultiplier (suffix : String) : Option Nat :=
  if suffix = "" then some 1
  else if suffix = "k" ∨ suffix = "K" then some 1024
  else if suffix = "m" ∨ suffix = "M" then some (1024 * 1024)
  else if suffix = "g" ∨ suffix = "G" then some (1024 * 1024 * 1024)
  else none

def parseSizeLiteral (raw directive : String) : Except Stop UInt64 := do
  let (digits, rest) := spanDigits 10 raw.toList
  rejectIf digits.isEmpty (.lowerErr s!"{directive}: invalid size value `{raw}`")
  let value ← orFail (parseU64 (String.ofList digits))
    (.lowerErr s!"{directive}: invalid size value `{raw}`")
  let suffix := String.ofList rest
  let multiplier ← orFail (sizeMultiplier suffix)
    (.lowerErr s!"{directive}: unsupported size unit `{suffix}` in `{raw}`")
  orFail (Machine.narrowU64 (value.toNat * multiplier))
    (.lowerErr s!"{directive}: size value `{raw}` is too large")

def parseClientMaxBodySize (args : List String) : Except Stop (Option UInt64) :=
  match args with
  | [value] => do
    let size ← parseSizeLiteral value "client_max_body_size"
    pure (if size == 0 then none else some size)
  | [] => .error (.lowerErr "client_max_body_size: expected 1 argument")
  | _ => .error (.lowerErr "client_max_body_size: expected exactly 1 argument")

def parseHttp2Value (name : String) (args : List String) : Except Stop UInt32 := do
  let raw ← parseExactlyOneArgument args name
  let value ←
    if Text.endsWith "max_concurrent_streams" name then
      orFail (parseU64 raw) (.lowerErr s!"{name}: expected a positive integer")
    else parseSizeLiteral raw name
  let max := if Text.endsWith "window_size" name then Machine.maxI32 else Machine.maxU32
  rejectIf (value == 0 || decide (value > max.toUInt64))
    (.lowerErr s!"{name}: expected a value between 1 and {max.toNat}")
  pure value.toUInt32

end Ngxora.Config
