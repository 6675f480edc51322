/-
# Settings from values

A value that describes settings is a table of fields, or the list of the fields' values in order.
Absent fields take their defaults and unknown fields are ignored; a field that is present must have
a value of its kind.  What counts as a number, a truth value or a strategy is a set of rules, so
that a strict reading (each kind by itself) and a lenient one (texts, truth values and fractions
converted) share the fields and defaults.
-/

import ChangeFeed.Settings
import ChangeFeed.Text.Case
import ChangeFeed.Value

namespace ChangeFeed

namespace Settings

/-- How the values of fields are read. -/
structure Rules where
  /-- A number of 64 bits without sign. -/
  natural? : Value → Option Nat
  flag? : Value → Option Bool
  strategy? : Value → Option Strategy
  /-- Whether a list may have more values than there are fields. -/
  allowsSurplus : Bool

/-- The value as named fields; a list names its values by the fields in order. -/
def fields? (rules : Rules) (names : List String) : Value → Option (List (String × Value))
  | .table entries => some entries
  | .list values =>
    if names.length < values.length && !rules.allowsSurplus then none else some (names.zip values)
  | _ => none

/-- The value of a field, or its default when it is absent. -/
def field? {α : Type} (fields : List (String × Value)) (name : String) (default : α)
    (read : Value → Option α) : Option α :=
  match fields.lookup name with
  | none => some default
  | some value => read value

def readBackoff? (rules : Rules) (value : Value) : Option Backoff := do
  let fields ← fields? rules ["max_retries", "base_delay_ms", "max_delay_ms"] value
  let defaults : Backoff := {}
  return {
    maxRetries := ← field? fields "max_retries" defaults.maxRetries rules.natural?
    baseDelay := ← field? fields "base_delay_ms" defaults.baseDelay rules.natural?
    maxDelay := ← field? fields "max_delay_ms" defaults.maxDelay rules.natural? }

def readPolicies? (rules : Rules) (value : Value) : Option RetrySettings := do
  let fields ← fields? rules ["log_reader"] value
  let defaults : RetrySettings := {}
  return { logReader := ← field? fields "log_reader" defaults.logReader (readBackoff? rules) }

def readWatcher? (rules : Rules) (value : Value) : Option WatcherSettings := do
  let fields ← fields? rules
    ["poll_interval_ms", "command_buffer_size", "reader_buffer_size", "max_batch_size",
      "reconcile", "prime_from_snapshot"] value
  let defaults : WatcherSettings := {}
  return {
    pollInterval := ← field? fields "poll_interval_ms" defaults.pollInterval rules.natural?
    commandBuffer := ← field? fields "command_buffer_size" defaults.commandBuffer rules.natural?
    readerBuffer := ← field? fields "reader_buffer_size" defaults.readerBuffer rules.natural?
    maxBatch := ← field? fields "max_batch_size" defaults.maxBatch rules.natural?
    reconcile := ← field? fields "reconcile" defaults.reconcile rules.strategy?
    primeFromSnapshot :=
      ← field? fields "prime_from_snapshot" defaults.primeFromSnapshot rules.flag? }

def readSettings? (rules : Rules) (value : Value) : Option Settings := do
  let fields ← fields? rules ["watcher", "retry"] value
  let defaults : Settings := {}
  return {
    watcher := ← field? fields "watcher" defaults.watcher (readWatcher? rules)
    retry := ← field? fields "retry" defaults.retry (readPolicies? rules) }

/-! ## Strict reading -/

/-- The exact name of a strategy, by itself or as the one entry of a table, which is null. -/
def strictStrategy? : Value → Option Strategy
  | .text name => Strategy.ofLabel? name
  | .table [(name, .null)] => Strategy.ofLabel? name
  | _ => none

/-- Every value must be of its kind. -/
def strict : Rules where
  natural? := ofValue?
  flag? := ofValue?
  strategy? := strictStrategy?
  allowsSurplus := false

/-! ## Lenient reading -/

/-- The words for a truth value, in lower case. -/
def truthWord? : String → Option Bool
  | "true" | "on" | "yes" => some true
  | "false" | "off" | "no" => some false
  | _ => none

/-- Decimal digits after an optional plus sign, as a number of 64 bits without sign. -/
def digits? (text : String) : Option Nat :=
  let digits :=
    match text.toList with
    | '+' :: rest => rest
    | cs => cs
  if digits.isEmpty || !digits.all Char.isDigit then none
  else
    let value := Binary64.digitsValue digits
    if value ≤ maxUInt64 then some value else none

/-- Integers must not be negative, fractions are rounded into the range, and words for truth values
count as 1 and 0. -/
def lenientNatural? : Value → Option Nat
  | .int value => ofValue? (.int value)
  | .float value => some (value.toNatUpTo maxUInt64)
  | .bool value => some value.toNat
  | .text text =>
    match truthWord? (Text.lowered text) with
    | some truth => some truth.toNat
    | none => digits? text
  | _ => none

/-- Any number but zero is true, and so are the words for it. -/
def lenientFlag? : Value → Option Bool
  | .bool value => some value
  | .int value => some (value != 0)
  | .float value => some (!value.isZero)
  | .text text =>
    match Text.lowered text with
    | "1" => some true
    | "0" => some false
    | word => truthWord? word
  | _ => none

/-- The name of a strategy in letters of any case, by itself or as the one entry of a table. -/
def lenientStrategy? : Value → Option Strategy
  | .text name => Strategy.ofLabel? (Text.lowered name)
  | .table [(name, _)] => Strategy.ofLabel? (Text.lowered name)
  | _ => none

/-- Values are converted where they can be. -/
def lenient : Rules where
  natural? := lenientNatural?
  flag? := lenientFlag?
  strategy? := lenientStrategy?
  allowsSurplus := true

end Settings

/-! ## Settings as values -/

instance : ToValue Strategy := ⟨fun strategy => .text strategy.label⟩

instance : ToValue Backoff where
  toValue policy :=
    .table [("max_retries", toValue policy.maxRetries),
      ("base_delay_ms", toValue policy.baseDelay), ("max_delay_ms", toValue policy.maxDelay)]

instance : ToValue WatcherSettings where
  toValue settings :=
    .table [("poll_interval_ms", toValue settings.pollInterval),
      ("command_buffer_size", toValue settings.commandBuffer),
      ("reader_buffer_size", toValue settings.readerBuffer),
      ("max_batch_size", toValue settings.maxBatch),
      ("reconcile", toValue settings.reconcile),
      ("prime_from_snapshot", toValue settings.primeFromSnapshot)]

instance : ToValue RetrySettings where
  toValue settings := .table [("log_reader", toValue settings.logReader)]

instance : ToValue Settings where
  toValue settings :=
    .table [("watcher", toValue settings.watcher), ("retry", toValue settings.retry)]

instance : OfValue Strategy := ⟨Settings.strictStrategy?⟩

instance : OfValue Backoff := ⟨Settings.readBackoff? Settings.strict⟩

instance : OfValue WatcherSettings := ⟨Settings.readWatcher? Settings.strict⟩

instance : OfValue RetrySettings := ⟨Settings.readPolicies? Settings.strict⟩

instance : OfValue Settings := ⟨Settings.readSettings? Settings.strict⟩

end ChangeFeed
