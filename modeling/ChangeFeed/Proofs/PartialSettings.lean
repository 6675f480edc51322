/-
# Settings that are given in part

Settings that say only some of what can be said are filled up, in one of two ways: loaded from a file they
lie over the defaults, and read directly they get the defaults field by field. `filled` says what comes of
either: the fields that are given, and a default for each of the others. Which way the layers are merged
does not matter, as long as each is laid over the ones before.

The two agree on everything but a retry policy. The poller's own policy has other defaults than policies
have by themselves, and only a policy that is left out altogether gets them both ways.
-/

import ChangeFeed.Proofs.Layers
import ChangeFeed.Settings.Load
import Mathlib.Data.List.Nodup

namespace ChangeFeed

namespace Settings

/-! ## Documents -/

/-- A number that a file can hold. -/
def IsNumber (value : Value) : Prop :=
  ∃ n : Nat, (n : Int) ≤ maxInt64 ∧ value = toValue n

def IsFlag (value : Value) : Prop :=
  ∃ flag : Bool, value = toValue flag

def IsStrategy (value : Value) : Prop :=
  ∃ strategy : Strategy, value = toValue strategy

/-- The fields that a table may have, each with what its value has to be. -/
structure Schema where
  fields : List (String × (Value → Prop))
  nodup : (fields.map (·.1)).Nodup := by decide
  lowered : ∀ field ∈ fields, Text.lowered field.1 = field.1 := by decide

/-- Entries for some of the fields, in any order. -/
structure Schema.Admits (schema : Schema) (entries : List (String × Value)) : Prop where
  nodup : (entries.map (·.1)).Nodup
  typed : ∀ entry ∈ entries, ∃ field ∈ schema.fields, field.1 = entry.1 ∧ field.2 entry.2

/-- A table with some of the fields. -/
def Schema.IsPart (schema : Schema) (value : Value) : Prop :=
  ∃ entries, value = .table entries ∧ schema.Admits entries

def policySchema : Schema where
  fields := [("max_retries", IsNumber), ("base_delay_ms", IsNumber), ("max_delay_ms", IsNumber)]

def retrySchema : Schema where
  fields := [("log_reader", policySchema.IsPart)]

def watcherSchema : Schema where
  fields := [("poll_interval_ms", IsNumber), ("command_buffer_size", IsNumber),
    ("reader_buffer_size", IsNumber), ("max_batch_size", IsNumber), ("reconcile", IsStrategy),
    ("prime_from_snapshot", IsFlag)]

/-- What a file of settings may say. -/
def schema : Schema where
  fields := [("watcher", watcherSchema.IsPart), ("retry", retrySchema.IsPart)]

theorem watcher_mem_schema : ("watcher", watcherSchema.IsPart) ∈ schema.fields :=
  List.mem_cons_self

theorem retry_mem_schema : ("retry", retrySchema.IsPart) ∈ schema.fields :=
  List.mem_cons_of_mem _ List.mem_cons_self

theorem log_reader_mem_retrySchema : ("log_reader", policySchema.IsPart) ∈ retrySchema.fields :=
  List.mem_cons_self

variable {entries lower : List (String × Value)} {name : String} {value : Value} {kind : Value → Prop}
  {form inner : Schema} {α : Type} {read lenientRead : Value → Option α} {default own : α}

theorem Schema.Admits.isPlain (admits : form.Admits entries) : Value.IsPlain entries where
  nodup := admits.nodup
  lowered entry listed := by
    obtain ⟨field, known, same, -⟩ := admits.typed entry listed
    rw [← same]
    exact form.lowered field known

/-- What an entry says is what its field asks for. -/
theorem Schema.Admits.kind_of_lookup (admits : form.Admits entries) (known : (name, kind) ∈ form.fields)
    (found : entries.lookup name = some value) : kind value := by
  obtain ⟨field, listed, same, typed⟩ := admits.typed (name, value) (Value.mem_of_lookup_eq_some found)
  have only : field = (name, kind) := List.inj_on_of_nodup_map form.nodup listed known same
  rw [only] at typed
  exact typed

/-! ## Reading a field -/

/-- A value that means the same to a strict and to a lenient reader, and that is no table. -/
def Means (read lenientRead : Value → Option α) (value : Value) : Prop :=
  ∃ a, read value = some a ∧ lenientRead value = some a ∧ value.IsLeaf

theorem natural?_toValue {n : Nat} (fits : (n : Int) ≤ maxInt64) : lenient.natural? (toValue n) = some n := by
  have within : 0 ≤ (n : Int) ∧ (n : Int) ≤ maxUInt64 := by
    simp only [maxInt64, maxUInt64] at fits ⊢
    omega
  exact if_pos within

theorem IsNumber.means (number : IsNumber value) : Means strict.natural? lenient.natural? value := by
  obtain ⟨n, fits, rfl⟩ := number
  exact ⟨n, natural?_toValue fits, natural?_toValue fits, nofun⟩

theorem IsFlag.means (flag : IsFlag value) : Means strict.flag? lenient.flag? value := by
  obtain ⟨flag, rfl⟩ := flag
  exact ⟨flag, rfl, rfl, nofun⟩

theorem strategy?_toValue (strategy : Strategy) : lenient.strategy? (toValue strategy) = some strategy := by
  cases strategy <;> rfl

theorem IsStrategy.means (strategy : IsStrategy value) :
    Means strict.strategy? lenient.strategy? value := by
  obtain ⟨strategy, rfl⟩ := strategy
  refine ⟨strategy, ?_, strategy?_toValue strategy, nofun⟩
  cases strategy <;> rfl

theorem Schema.Admits.number (admits : form.Admits entries) (known : (name, IsNumber) ∈ form.fields) :
    ∀ value, entries.lookup name = some value → Means strict.natural? lenient.natural? value :=
  fun _ found => (admits.kind_of_lookup known found).means

theorem Schema.Admits.flag (admits : form.Admits entries) (known : (name, IsFlag) ∈ form.fields) :
    ∀ value, entries.lookup name = some value → Means strict.flag? lenient.flag? value :=
  fun _ found => (admits.kind_of_lookup known found).means

theorem Schema.Admits.strategy (admits : form.Admits entries) (known : (name, IsStrategy) ∈ form.fields) :
    ∀ value, entries.lookup name = some value → Means strict.strategy? lenient.strategy? value :=
  fun _ found => (admits.kind_of_lookup known found).means

/-- What entries say of a field, or a default if they are silent. -/
def given (read : Value → Option α) (entries : List (String × Value)) (name : String) (default : α) : α :=
  ((entries.lookup name).bind read).getD default

theorem field?_eq_given (typed : ∀ value, entries.lookup name = some value → Means read lenientRead value) :
    field? entries name default read = some (given read entries name default) := by
  unfold field? given
  cases found : entries.lookup name with
  | none => rfl
  | some value =>
    obtain ⟨a, reads, -⟩ := typed value found
    simp [reads]

/-- A default matters exactly where the entries are silent. -/
theorem given_eq_given_iff
    (typed : ∀ value, entries.lookup name = some value → Means read lenientRead value) :
    given read entries name default = given read entries name own ↔
      default = own ∨ (entries.lookup name).isSome = true := by
  unfold given
  cases found : entries.lookup name with
  | none => simp
  | some value =>
    obtain ⟨a, reads, -⟩ := typed value found
    simp [reads]

/-! ## Reading tables -/

variable {rules : Rules}

theorem readBackoff?_table {retries base longest : Nat}
    (hasRetries : field? entries "max_retries" (Backoff.maxRetries {}) rules.natural? = some retries)
    (hasBase : field? entries "base_delay_ms" (Backoff.baseDelay {}) rules.natural? = some base)
    (hasLongest : field? entries "max_delay_ms" (Backoff.maxDelay {}) rules.natural? = some longest) :
    readBackoff? rules (.table entries) = some ⟨retries, base, longest⟩ := by
  simp only [readBackoff?, fields?, hasRetries, hasBase, hasLongest, Option.bind_eq_bind, Option.bind_some]
  rfl

theorem readPolicies?_table {policy : Backoff}
    (hasPolicy : field? entries "log_reader" (RetrySettings.logReader {}) (readBackoff? rules) =
      some policy) :
    readPolicies? rules (.table entries) = some ⟨policy⟩ := by
  simp only [readPolicies?, fields?, hasPolicy, Option.bind_eq_bind, Option.bind_some]
  rfl

theorem readWatcher?_table {interval commands events batch : Nat} {strategy : Strategy} {primes : Bool}
    (hasInterval : field? entries "poll_interval_ms" (WatcherSettings.pollInterval {}) rules.natural? =
      some interval)
    (hasCommands : field? entries "command_buffer_size" (WatcherSettings.commandBuffer {}) rules.natural? =
      some commands)
    (hasEvents : field? entries "reader_buffer_size" (WatcherSettings.readerBuffer {}) rules.natural? =
      some events)
    (hasBatch : field? entries "max_batch_size" (WatcherSettings.maxBatch {}) rules.natural? = some batch)
    (hasStrategy : field? entries "reconcile" (WatcherSettings.reconcile {}) rules.strategy? = some strategy)
    (hasPrimes : field? entries "prime_from_snapshot" (WatcherSettings.primeFromSnapshot {}) rules.flag? =
      some primes) :
    readWatcher? rules (.table entries) = some ⟨interval, commands, events, batch, strategy, primes⟩ := by
  simp only [readWatcher?, fields?, hasInterval, hasCommands, hasEvents, hasBatch, hasStrategy, hasPrimes,
    Option.bind_eq_bind, Option.bind_some]
  rfl

theorem readSettings?_table {watcher : WatcherSettings} {retry : RetrySettings}
    (hasWatcher : field? entries "watcher" (Settings.watcher {}) (readWatcher? rules) = some watcher)
    (hasRetry : field? entries "retry" (Settings.retry {}) (readPolicies? rules) = some retry) :
    readSettings? rules (.table entries) = some ⟨watcher, retry⟩ := by
  simp only [readSettings?, fields?, hasWatcher, hasRetry, Option.bind_eq_bind, Option.bind_some]
  rfl

/-! ## Filling up -/

/-- A policy with what entries say, and else what it was. -/
def filledPolicy (policy : Backoff) (entries : List (String × Value)) : Backoff where
  maxRetries := given strict.natural? entries "max_retries" policy.maxRetries
  baseDelay := given strict.natural? entries "base_delay_ms" policy.baseDelay
  maxDelay := given strict.natural? entries "max_delay_ms" policy.maxDelay

/-- Settings of a watcher with what entries say, and else what they were. -/
def filledWatcher (settings : WatcherSettings) (entries : List (String × Value)) : WatcherSettings where
  pollInterval := given strict.natural? entries "poll_interval_ms" settings.pollInterval
  commandBuffer := given strict.natural? entries "command_buffer_size" settings.commandBuffer
  readerBuffer := given strict.natural? entries "reader_buffer_size" settings.readerBuffer
  maxBatch := given strict.natural? entries "max_batch_size" settings.maxBatch
  reconcile := given strict.strategy? entries "reconcile" settings.reconcile
  primeFromSnapshot := given strict.flag? entries "prime_from_snapshot" settings.primeFromSnapshot

open Value (entriesOf at? IsLaid IsSilent IsLeaf IsPlain IsPlainInside)

/-- What a document says of the poller's policy. -/
def policyIn? (document : Layer) : Option Value :=
  (entriesOf (document.lookup "retry")).lookup "log_reader"

/-- Settings with what a document says, and else what they were. -/
def filled (settings : Settings) (document : Layer) : Settings where
  watcher := filledWatcher settings.watcher (entriesOf (document.lookup "watcher"))
  retry := { logReader := filledPolicy settings.retry.logReader (entriesOf (policyIn? document)) }

variable {settings : Settings} {policy : Backoff} {watcher : WatcherSettings} {document : Layer}

/-- A part that is left out says as much as one without fields. -/
theorem Schema.Admits.part (admits : form.Admits entries) (known : (name, inner.IsPart) ∈ form.fields) :
    inner.Admits (entriesOf (entries.lookup name)) := by
  cases found : entries.lookup name with
  | none => exact ⟨List.nodup_nil, nofun⟩
  | some value =>
    obtain ⟨entries, rfl, part⟩ := admits.kind_of_lookup known found
    exact part

theorem Schema.Admits.isTable (admits : form.Admits entries) (known : (name, inner.IsPart) ∈ form.fields) :
    ∀ value ∈ entries.lookup name, ∃ entries, value = .table entries := by
  intro value found
  obtain ⟨entries, rfl, -⟩ := admits.kind_of_lookup known found
  exact ⟨entries, rfl⟩

/-! ### Read directly -/

/-- A part is read as a table if it is there. -/
theorem Schema.Admits.field?_part {β : Type} {read : Value → Option β} {default : β}
    (admits : form.Admits entries) (known : (name, inner.IsPart) ∈ form.fields) :
    field? entries name default read =
      match entries.lookup name with
      | none => some default
      | some value => read (.table (entriesOf (some value))) := by
  unfold field?
  cases found : entries.lookup name with
  | none => rfl
  | some value =>
    obtain ⟨entries, rfl⟩ := admits.isTable known value found
    rfl

theorem readBackoff?_strict (admits : policySchema.Admits entries) :
    readBackoff? strict (.table entries) = some (filledPolicy {} entries) :=
  readBackoff?_table (field?_eq_given (admits.number (by simp [policySchema])))
    (field?_eq_given (admits.number (by simp [policySchema])))
    (field?_eq_given (admits.number (by simp [policySchema])))

theorem readWatcher?_strict (admits : watcherSchema.Admits entries) :
    readWatcher? strict (.table entries) = some (filledWatcher {} entries) :=
  readWatcher?_table (field?_eq_given (admits.number (by simp [watcherSchema])))
    (field?_eq_given (admits.number (by simp [watcherSchema])))
    (field?_eq_given (admits.number (by simp [watcherSchema])))
    (field?_eq_given (admits.number (by simp [watcherSchema])))
    (field?_eq_given (admits.strategy (by simp [watcherSchema])))
    (field?_eq_given (admits.flag (by simp [watcherSchema])))

/-- The poller's policy as it is read from a document. -/
def policyReadFrom (document : Layer) : Backoff :=
  match policyIn? document with
  | none => RetrySettings.logReader {}
  | some policy => filledPolicy {} (entriesOf (some policy))

/-- **Read directly, a policy that is there is filled up with the defaults of policies.** -/
theorem readSettings?_strict (admits : schema.Admits document) :
    readSettings? strict (.table document) =
      some ⟨filledWatcher {} (entriesOf (document.lookup "watcher")), ⟨policyReadFrom document⟩⟩ := by
  have retryPart := admits.part retry_mem_schema
  have policyPart := retryPart.part log_reader_mem_retrySchema
  apply readSettings?_table
  · have part := admits.part watcher_mem_schema
    rw [admits.field?_part watcher_mem_schema]
    cases found : document.lookup "watcher" with
    | none => rfl
    | some value =>
      rw [found] at part
      exact readWatcher?_strict part
  · rw [admits.field?_part retry_mem_schema]
    unfold policyReadFrom policyIn?
    cases found : document.lookup "retry" with
    | none => rfl
    | some value =>
      rw [found] at retryPart policyPart
      apply readPolicies?_table
      rw [retryPart.field?_part log_reader_mem_retrySchema]
      cases here : (entriesOf (some value)).lookup "log_reader" with
      | none => rfl
      | some policy =>
        rw [here] at policyPart
        exact readBackoff?_strict policyPart

/-! ### Loaded over settings -/

/-- Where keys lead, a value says something that means the same to both readers, or it is silent. -/
def Speaks (read lenientRead : Value → Option α) (keys : List String) (value : Value) : Prop :=
  (∃ said, value.at? keys = some said ∧ Means read lenientRead said) ∨ value.IsSilent keys

variable {keys : List String}

theorem isSilent_of_lookup_eq_none (absent : entries.lookup name = none) (keys : List String) :
    (Value.table entries).IsSilent (name :: keys) := by
  intro value found
  rw [absent] at found
  cases found

theorem speaks_field (typed : ∀ value, entries.lookup name = some value → Means read lenientRead value) :
    Speaks read lenientRead [name] (.table entries) := by
  cases found : entries.lookup name with
  | none => exact Or.inr (isSilent_of_lookup_eq_none found [])
  | some value => exact Or.inl ⟨value, (Value.at?_key name).trans found, typed value found⟩

theorem Schema.Admits.speaks_part (admits : form.Admits entries)
    (known : (name, inner.IsPart) ∈ form.fields)
    (speaks : Speaks read lenientRead keys (.table (entriesOf (entries.lookup name)))) :
    Speaks read lenientRead (name :: keys) (.table entries) := by
  cases found : entries.lookup name with
  | none => exact Or.inr (isSilent_of_lookup_eq_none found keys)
  | some value =>
    obtain ⟨part, rfl⟩ := admits.isTable known value found
    rw [found] at speaks
    obtain ⟨said, leads, means⟩ | silent := speaks
    · exact Or.inl ⟨said, (congrArg (·.bind (at? keys)) found).trans leads, means⟩
    · refine Or.inr fun value here => ?_
      obtain rfl : .table part = value := Option.some.inj (found.symm.trans here)
      exact silent

/-- The values of the settings that are no tables are where the settings have them. -/
def Bears (base : Value) (settings : Settings) : Prop :=
  ∀ keys value, (toValue settings).at? keys = some value → value.IsLeaf → base.at? keys = some value

variable {base result : Value} {way : List String}

theorem Bears.reads {a : α} (bears : Bears base settings)
    (held : (toValue settings).at? keys = some value) (leaf : value.IsLeaf) (reads : read value = some a) :
    (base.at? keys).bind read = some a := by
  rw [bears keys value held leaf]
  exact reads

theorem Bears.natural {n : Nat} (bears : Bears base settings)
    (held : (toValue settings).at? keys = some (toValue n)) (fits : (n : Int) ≤ maxInt64) :
    (base.at? keys).bind lenient.natural? = some n :=
  bears.reads held nofun (natural?_toValue fits)

/-- A field of a value that was laid over another is what the upper one gives, and else what the lower one
has. -/
theorem reads_of_isLaid (laid : IsLaid base (.table document) result)
    (inside : (Value.table document).at? (way ++ [name]) = entries.lookup name)
    (speaks : Speaks read lenientRead (way ++ [name]) (.table document))
    (below : (base.at? (way ++ [name])).bind lenientRead = some own) :
    ((result.at? way).bind (at? [name])).bind lenientRead = some (given read entries name own) := by
  unfold given
  rw [← Value.at?_append, ← inside]
  obtain ⟨said, leads, a, reads, lenientReads, leaf⟩ | silent := speaks
  · rw [laid.overrides _ said leads leaf, leads]
    simp [reads, lenientReads]
  · rw [laid.keeps _ silent, below, silent.at?_eq_none]
    rfl

theorem isTable_of_reads {found : Option Value} {a : α}
    (reads : (found.bind (at? [name])).bind read = some a) : ∃ entries, found = some (.table entries) := by
  cases found with
  | none => cases reads
  | some value =>
    cases value with
    | table entries => exact ⟨entries, rfl⟩
    | _ => cases reads

theorem field?_of_reads {a : α}
    (reads : ((some (Value.table entries)).bind (at? [name])).bind read = some a) :
    field? entries name default read = some a := by
  rw [Option.bind_some, Value.at?_key] at reads
  unfold field?
  cases found : entries.lookup name with
  | none =>
    rw [found] at reads
    cases reads
  | some value =>
    rw [found] at reads
    exact reads

theorem readBackoff?_of_reads {found : Option Value}
    (hasRetries : (found.bind (at? ["max_retries"])).bind rules.natural? = some policy.maxRetries)
    (hasBase : (found.bind (at? ["base_delay_ms"])).bind rules.natural? = some policy.baseDelay)
    (hasLongest : (found.bind (at? ["max_delay_ms"])).bind rules.natural? = some policy.maxDelay) :
    found.bind (readBackoff? rules) = some policy := by
  obtain ⟨entries, rfl⟩ := isTable_of_reads hasRetries
  exact readBackoff?_table (field?_of_reads hasRetries) (field?_of_reads hasBase)
    (field?_of_reads hasLongest)

theorem readPolicies?_of_reads {found : Option Value}
    (hasPolicy : (found.bind (at? ["log_reader"])).bind (readBackoff? rules) = some policy) :
    found.bind (readPolicies? rules) = some ⟨policy⟩ := by
  obtain ⟨entries, rfl⟩ := isTable_of_reads hasPolicy
  exact readPolicies?_table (field?_of_reads hasPolicy)

theorem readWatcher?_of_reads {found : Option Value}
    (hasInterval : (found.bind (at? ["poll_interval_ms"])).bind rules.natural? = some watcher.pollInterval)
    (hasCommands : (found.bind (at? ["command_buffer_size"])).bind rules.natural? =
      some watcher.commandBuffer)
    (hasEvents : (found.bind (at? ["reader_buffer_size"])).bind rules.natural? = some watcher.readerBuffer)
    (hasBatch : (found.bind (at? ["max_batch_size"])).bind rules.natural? = some watcher.maxBatch)
    (hasStrategy : (found.bind (at? ["reconcile"])).bind rules.strategy? = some watcher.reconcile)
    (hasPrimes : (found.bind (at? ["prime_from_snapshot"])).bind rules.flag? =
      some watcher.primeFromSnapshot) :
    found.bind (readWatcher? rules) = some watcher := by
  obtain ⟨entries, rfl⟩ := isTable_of_reads hasInterval
  exact readWatcher?_table (field?_of_reads hasInterval) (field?_of_reads hasCommands)
    (field?_of_reads hasEvents) (field?_of_reads hasBatch) (field?_of_reads hasStrategy)
    (field?_of_reads hasPrimes)

theorem readSettings?_of_reads
    (hasWatcher : (value.at? ["watcher"]).bind (readWatcher? rules) = some settings.watcher)
    (hasRetry : (value.at? ["retry"]).bind (readPolicies? rules) = some settings.retry) :
    readSettings? rules value = some settings := by
  have inside : ((some value).bind (at? ["watcher"])).bind (readWatcher? rules) = some settings.watcher :=
    hasWatcher
  obtain ⟨entries, ⟨⟩⟩ := isTable_of_reads inside
  exact readSettings?_table (field?_of_reads hasWatcher) (field?_of_reads hasRetry)

theorem readBackoff?_lenient (laid : IsLaid base (.table document) result) (bears : Bears base settings)
    (admits : schema.Admits document)
    (fits : ∀ n ∈ [settings.retry.logReader.maxRetries, settings.retry.logReader.baseDelay,
      settings.retry.logReader.maxDelay], (n : Int) ≤ maxInt64) :
    (result.at? ["retry", "log_reader"]).bind (readBackoff? lenient) =
      some (filledPolicy settings.retry.logReader (entriesOf (policyIn? document))) := by
  simp only [List.forall_mem_cons] at fits
  obtain ⟨retries, least, longest, -⟩ := fits
  have retryPart := admits.part retry_mem_schema
  have part := retryPart.part log_reader_mem_retrySchema
  have inside (name : String) : (Value.table document).at? (["retry", "log_reader"] ++ [name]) =
      (entriesOf (policyIn? document)).lookup name :=
    (Value.at?_part "retry" "log_reader" [name]).trans
      ((Value.at?_part "log_reader" name []).trans (Value.at?_key name))
  have reads {name : String} {own : Nat} (known : (name, IsNumber) ∈ policySchema.fields)
      (below : (base.at? ["retry", "log_reader", name]).bind lenient.natural? = some own) :=
    reads_of_isLaid laid (inside name)
      (admits.speaks_part retry_mem_schema (retryPart.speaks_part log_reader_mem_retrySchema
        (speaks_field (part.number known)))) below
  apply readBackoff?_of_reads
  · exact reads (by simp [policySchema]) (bears.natural rfl retries)
  · exact reads (by simp [policySchema]) (bears.natural rfl least)
  · exact reads (by simp [policySchema]) (bears.natural rfl longest)

theorem readWatcher?_lenient (laid : IsLaid base (.table document) result) (bears : Bears base settings)
    (admits : schema.Admits document)
    (fits : ∀ n ∈ [settings.watcher.pollInterval, settings.watcher.commandBuffer,
      settings.watcher.readerBuffer, settings.watcher.maxBatch], (n : Int) ≤ maxInt64) :
    (result.at? ["watcher"]).bind (readWatcher? lenient) =
      some (filledWatcher settings.watcher (entriesOf (document.lookup "watcher"))) := by
  simp only [List.forall_mem_cons] at fits
  obtain ⟨interval, commands, events, batch, -⟩ := fits
  have part := admits.part watcher_mem_schema
  have inside (name : String) : (Value.table document).at? (["watcher"] ++ [name]) =
      (entriesOf (document.lookup "watcher")).lookup name :=
    (Value.at?_part "watcher" name []).trans (Value.at?_key name)
  have reads {α : Type} {read lenientRead : Value → Option α} {name : String} {own : α}
      (typed : ∀ value, (entriesOf (document.lookup "watcher")).lookup name = some value →
        Means read lenientRead value)
      (below : (base.at? ["watcher", name]).bind lenientRead = some own) :=
    reads_of_isLaid laid (inside name)
      (admits.speaks_part watcher_mem_schema (speaks_field typed)) below
  apply readWatcher?_of_reads
  · exact reads (part.number (by simp [watcherSchema])) (bears.natural rfl interval)
  · exact reads (part.number (by simp [watcherSchema])) (bears.natural rfl commands)
  · exact reads (part.number (by simp [watcherSchema])) (bears.natural rfl events)
  · exact reads (part.number (by simp [watcherSchema])) (bears.natural rfl batch)
  · exact reads (part.strategy (by simp [watcherSchema]))
      (bears.reads rfl nofun (strategy?_toValue settings.watcher.reconcile))
  · exact reads (part.flag (by simp [watcherSchema])) (bears.reads rfl nofun rfl)

/-- **Loaded, every field that is left out is what it was.** -/
theorem readSettings?_lenient (laid : IsLaid base (.table document) result) (bears : Bears base settings)
    (admits : schema.Admits document) (fits : settings.fitsLayer = true) :
    readSettings? lenient result = some (settings.filled document) := by
  simp only [fitsLayer, List.all_eq_true, decide_eq_true_eq] at fits
  have hasWatcher := readWatcher?_lenient laid bears admits fun n listed =>
    fits n (List.mem_append_left [_, _, _] listed)
  have hasPolicy := readBackoff?_lenient laid bears admits fun n listed =>
    fits n (List.mem_append_right [_, _, _, _] listed)
  rw [← List.singleton_append, Value.at?_append] at hasPolicy
  exact readSettings?_of_reads hasWatcher (readPolicies?_of_reads hasPolicy)

/-! ## Loading a document -/

variable {surroundings : Surroundings} {file : String}

/-- The parts of settings are keys and not longer paths. -/
theorem ofText_part : ∀ name ∈ ["watcher", "retry"], Path.ofText name = [.key name] := by
  decide

theorem Schema.Admits.ofText (admits : schema.Admits document) :
    ∀ entry ∈ document, Path.ofText entry.1 = [.key entry.1] := by
  intro entry listed
  obtain ⟨field, known, same, -⟩ := admits.typed entry listed
  rw [← same]
  exact ofText_part field.1 (List.mem_map_of_mem known)

/-- Entries with the keys of all fields, in order, are plain. -/
theorem Schema.isPlain (same : entries.map (·.1) = form.fields.map (·.1)) : IsPlain entries where
  nodup := same ▸ form.nodup
  lowered entry listed := by
    have known : entry.1 ∈ form.fields.map (·.1) := same ▸ List.mem_map_of_mem listed
    obtain ⟨field, listed, same⟩ := List.mem_map.mp known
    rw [← same]
    exact form.lowered field listed

theorem isSimple_toValue (settings : Settings) : IsSimple (entriesOf (some (toValue settings))) where
  single entry listed := ofText_part entry.1 (List.mem_map_of_mem listed)
  inside := by
    have leaf {value : Value} (isLeaf : value.IsLeaf) : value.IsPlainInside := isLeaf.isPlainInside
    have policy : (toValue settings.retry.logReader).IsPlainInside := by
      refine Value.isPlainInside_table (policySchema.isPlain rfl) ?_
      simp only [List.forall_mem_cons]
      exact ⟨leaf nofun, leaf nofun, leaf nofun, nofun⟩
    have retry : (toValue settings.retry).IsPlainInside := by
      refine Value.isPlainInside_table (retrySchema.isPlain rfl) ?_
      simp only [List.forall_mem_cons]
      exact ⟨policy, nofun⟩
    have watcher : (toValue settings.watcher).IsPlainInside := by
      refine Value.isPlainInside_table (watcherSchema.isPlain rfl) ?_
      simp only [List.forall_mem_cons]
      exact ⟨leaf nofun, leaf nofun, leaf nofun, leaf nofun, leaf nofun, leaf nofun, nofun⟩
    refine Value.isPlainInside_table (schema.isPlain rfl) (List.forall_mem_cons.mpr ⟨watcher, ?_⟩)
    exact List.forall_mem_cons.mpr ⟨retry, nofun⟩

/-! ### Documents as layers -/

/-- Whatever a field may be has only plain tables inside. -/
def Schema.IsPlainInside (form : Schema) : Prop :=
  ∀ field ∈ form.fields, ∀ value, field.2 value → value.IsPlainInside

theorem Schema.Admits.isPlainInside (admits : form.Admits entries) (inside : form.IsPlainInside) :
    (Value.table entries).IsPlainInside := by
  refine Value.isPlainInside_table admits.isPlain fun entry listed => ?_
  obtain ⟨field, known, -, typed⟩ := admits.typed entry listed
  exact inside field known entry.2 typed

theorem Schema.IsPart.isPlainInside (part : inner.IsPart value) (inside : inner.IsPlainInside) :
    value.IsPlainInside := by
  obtain ⟨entries, rfl, admits⟩ := part
  exact admits.isPlainInside inside

theorem Means.isPlainInside (means : Means read lenientRead value) : value.IsPlainInside := by
  obtain ⟨-, -, -, leaf⟩ := means
  exact leaf.isPlainInside

theorem isPlainInside_schema : schema.IsPlainInside := by
  have number {value : Value} (number : IsNumber value) := number.means.isPlainInside
  have policy : policySchema.IsPlainInside := by
    simp only [Schema.IsPlainInside, policySchema, List.forall_mem_cons]
    exact ⟨fun _ => number, fun _ => number, fun _ => number, nofun⟩
  have retry : retrySchema.IsPlainInside := by
    simp only [Schema.IsPlainInside, retrySchema, List.forall_mem_cons]
    exact ⟨fun _ part => part.isPlainInside policy, nofun⟩
  have watcher : watcherSchema.IsPlainInside := by
    simp only [Schema.IsPlainInside, watcherSchema, List.forall_mem_cons]
    exact ⟨fun _ => number, fun _ => number, fun _ => number, fun _ => number,
      fun _ strategy => strategy.means.isPlainInside, fun _ flag => flag.means.isPlainInside, nofun⟩
  simp only [Schema.IsPlainInside, schema, List.forall_mem_cons]
  exact ⟨fun _ part => part.isPlainInside watcher, fun _ part => part.isPlainInside retry, nofun⟩

theorem Schema.Admits.isSimple (admits : schema.Admits document) : IsSimple document where
  single := admits.ofText
  inside := admits.isPlainInside isPlainInside_schema

/-! ### The merge -/

/-- Merged in any such way, settings are the lowest layer, and a document lies over them. -/
theorem IsMerge.exists_isLaid {merge : Merge} (merges : IsMerge merge) (admits : schema.Admits document)
    (settings : Settings) :
    ∃ base result, merge [entriesOf (some (toValue settings)), document, []] = .ok (.table result) ∧
      Bears base settings ∧ IsLaid base (.table document) (.table result) := by
  obtain ⟨own, lowest, laidOwn⟩ := merges.lays merges.empty (isSimple_toValue settings)
  obtain ⟨filled, above, laid⟩ := merges.lays lowest admits.isSimple
  obtain ⟨result, all, laidNothing⟩ := merges.lays above isSimple_nil
  exact ⟨_, result, all, laidOwn.overrides, laid.trans_nil laidNothing⟩

/-- Without variables that set fields, a document that is loaded fills the settings up. -/
theorem override_eq {merge : Merge} (merges : IsMerge merge) (fits : settings.fitsLayer = true)
    (unset : ofVariables surroundings.environment = [])
    (read : ofFile? surroundings.files file = some document) (admits : schema.Admits document) :
    override merge settings surroundings file = .ok (settings.filled document) := by
  have own : ofSettings? settings = some (entriesOf (some (toValue settings))) := if_pos fits
  obtain ⟨base, result, values, bears, laid⟩ := merges.exists_isLaid admits settings
  have loaded := readSettings?_lenient laid bears admits fits
  rw [override, own, read, unset]
  simp only [ofLayers, List.mapM_cons, List.mapM_nil, id, Option.bind_some, Option.pure_def, values,
    Except.mapError, bind, Except.bind, loaded]
  rfl

/-! ## Whether the two agree -/

/-- Filling up two policies with different numbers of retries and longest delays comes to the same exactly
if both are given. -/
theorem filledPolicy_eq_iff {other : Backoff} (admits : policySchema.Admits entries)
    (retries : policy.maxRetries ≠ other.maxRetries) (base : policy.baseDelay = other.baseDelay)
    (longest : policy.maxDelay ≠ other.maxDelay) :
    filledPolicy policy entries = filledPolicy other entries ↔
      (entries.lookup "max_retries").isSome = true ∧ (entries.lookup "max_delay_ms").isSome = true := by
  have retriesKnown : ("max_retries", IsNumber) ∈ policySchema.fields := by simp [policySchema]
  have longestKnown : ("max_delay_ms", IsNumber) ∈ policySchema.fields := by simp [policySchema]
  simp only [filledPolicy, Backoff.mk.injEq]
  rw [given_eq_given_iff (admits.number retriesKnown), given_eq_given_iff (admits.number longestKnown),
    or_iff_right retries, or_iff_right longest, base, eq_self, true_and]

theorem policyReadFrom_eq_iff (admits : schema.Admits document) :
    policyReadFrom document = (({} : Settings).filled document).retry.logReader ↔
      ∀ policy ∈ policyIn? document, (policy.get? "max_retries").isSome = true ∧
        (policy.get? "max_delay_ms").isSome = true := by
  have part := (admits.part retry_mem_schema).part log_reader_mem_retrySchema
  show policyReadFrom document = filledPolicy _ (entriesOf (policyIn? document)) ↔ _
  unfold policyReadFrom
  cases found : policyIn? document with
  | none => exact iff_of_true rfl nofun
  | some policy =>
    obtain ⟨entries, rfl⟩ := (admits.part retry_mem_schema).isTable log_reader_mem_retrySchema policy found
    change policySchema.Admits (entriesOf (policyIn? document)) at part
    rw [found] at part
    have agree : filledPolicy {} (entriesOf (some (.table entries))) =
        filledPolicy (RetrySettings.logReader {}) (entriesOf (some (.table entries))) ↔ _ :=
      filledPolicy_eq_iff part (by decide) rfl (by decide)
    refine agree.trans ⟨?_, fun said => said _ rfl⟩
    rintro said _ ⟨⟩
    exact said

/-- **A document that is loaded and one that is read directly.** However layers are merged, as long as each is
laid over the ones before, a file that says any part of what can be said is loaded, and the settings are what
it says, with the defaults of settings for the rest. A direct reading gives settings too, with the same watcher
and the same base of the delays. The two are equal exactly if the poller's policy is left out as a whole, or
gives both the number of retries and the longest delay: for those the direct reading takes the defaults of
policies, and not the poller's own. -/
theorem loaded_eq_read_iff (merge : Merge) (merges : IsMerge merge) (surroundings : Surroundings)
    (file : String) (document : Layer)
    (named : surroundings.environment.lookup fileVariable = some file)
    (unset : ofVariables surroundings.environment = [])
    (read : ofFile? surroundings.files file = some document) (admits : schema.Admits document) :
    ∃ loaded direct : Settings, load merge surroundings = .ok loaded ∧
      ofValue? (.table document) = some direct ∧ loaded = ({} : Settings).filled document ∧
      direct.retry.logReader = policyReadFrom document ∧ loaded.watcher = direct.watcher ∧
      loaded.retry.logReader.baseDelay = direct.retry.logReader.baseDelay ∧
      (loaded = direct ↔ ∀ policy ∈ policyIn? document, (policy.get? "max_retries").isSome = true ∧
        (policy.get? "max_delay_ms").isSome = true) := by
  refine ⟨_, _, ?_, readSettings?_strict admits, rfl, rfl, rfl, ?_, ?_⟩
  · rw [load, named]
    exact override_eq merges rfl unset read admits
  · show given _ (entriesOf (policyIn? document)) _ _ = (policyReadFrom document).baseDelay
    unfold policyReadFrom
    cases policyIn? document <;> rfl
  · rw [← policyReadFrom_eq_iff admits]
    constructor
    · intro same
      exact (congrArg (fun settings : Settings => settings.retry.logReader) same).symm
    · intro same
      rw [same]
      rfl

/-- Surroundings with one file, which is the file of settings. -/
def surroundedBy (text : String) : Surroundings where
  files := [(["feed.toml"], text)]
  environment := [(fileVariable, "/feed.toml")]

theorem ofVariables_surroundedBy (text : String) : ofVariables (surroundedBy text).environment = [] := by
  have nothing : (ofVariables [(fileVariable, "/feed.toml")]).isEmpty = true := by decide +kernel
  exact List.isEmpty_iff.mp nothing

theorem ofFile?_surroundedBy (text : String) :
    ofFile? (surroundedBy text).files "/feed.toml" = Toml.read? text := by
  have parts : Files.parts "/feed.toml" = ["", "feed.toml"] := by decide
  have here : Files.text? [(["feed.toml"], text)] ["", "feed.toml"] = some text := rfl
  have found : (surroundedBy text).files.find? "/feed.toml" = some text := by
    rw [Files.find?, if_neg (by decide), parts]
    simp only [surroundedBy, here]
    rfl
  rw [ofFile?, found]
  rfl

theorem admits_policy (admits : policySchema.Admits entries) :
    schema.Admits [("retry", .table [("log_reader", .table entries)])] := by
  have inside : retrySchema.Admits [("log_reader", .table entries)] :=
    ⟨List.nodup_singleton _, by
      rintro _ (_ | ⟨_, ⟨⟩⟩); exact ⟨_, List.mem_cons_self, rfl, entries, rfl, admits⟩⟩
  refine ⟨List.nodup_singleton _, ?_⟩
  rintro _ (_ | ⟨_, ⟨⟩⟩)
  exact ⟨_, List.mem_cons_of_mem _ List.mem_cons_self, rfl, _, rfl, inside⟩

/-- A policy that gives both is the same either way. -/
theorem given_policy_loaded_as_read :
    let surroundings := surroundedBy "[retry.log_reader]\nmax_retries = 7\nmax_delay_ms = 400\n"
    let document : Layer :=
      [("retry", .table [("log_reader", .table [("max_retries", toValue 7), ("max_delay_ms", toValue 400)])])]
    IsMerge merged ∧ surroundings.environment.lookup fileVariable = some "/feed.toml" ∧
      ofVariables surroundings.environment = [] ∧
      ofFile? surroundings.files "/feed.toml" = some document ∧ schema.Admits document ∧
      ∃ settings : Settings, load merged surroundings = .ok settings ∧
        ofValue? (.table document) = some settings := by
  intro surroundings document
  have read : ofFile? surroundings.files "/feed.toml" = some document := by
    rw [ofFile?_surroundedBy, Toml.read?]
    simp only [String.reduceToList]
    rfl
  have admits : schema.Admits document := by
    refine admits_policy ⟨by decide, ?_⟩
    rintro _ (_ | ⟨_, _ | ⟨_, ⟨⟩⟩⟩)
    · exact ⟨_, List.mem_cons_self, rfl, 7, by decide, rfl⟩
    · exact ⟨("max_delay_ms", IsNumber), by simp [policySchema], rfl, 400, by decide, rfl⟩
  obtain ⟨loaded, direct, loads, reads, -, -, -, -, agree⟩ :=
    loaded_eq_read_iff merged isMerge_merged surroundings "/feed.toml" document rfl
      (ofVariables_surroundedBy _) read admits
  have same : loaded = direct := agree.mpr (by rintro _ ⟨⟩; exact ⟨rfl, rfl⟩)
  exact ⟨isMerge_merged, rfl, ofVariables_surroundedBy _, read, admits, loaded, loads, same ▸ reads⟩

/-- A policy that gives its base alone is filled up in two ways, and only one of them is sound. -/
theorem base_alone_loaded_and_read_apart :
    let surroundings := surroundedBy "[retry.log_reader]\nbase_delay_ms = 2000\n"
    let document : Layer := [("retry", .table [("log_reader", .table [("base_delay_ms", toValue 2000)])])]
    let loaded : Settings := { retry.logReader := ⟨10, 2000, 5000⟩ }
    let direct : Settings := { retry.logReader := ⟨3, 2000, 1000⟩ }
    ofVariables surroundings.environment = [] ∧
      ofFile? surroundings.files "/feed.toml" = some document ∧ schema.Admits document ∧
      load merged surroundings = .ok loaded ∧ ofValue? (.table document) = some direct ∧
      loaded.defect? = none ∧ direct.defect? ≠ none := by
  intro surroundings document loaded direct
  have read : ofFile? surroundings.files "/feed.toml" = some document := by
    rw [ofFile?_surroundedBy, Toml.read?]
    simp only [String.reduceToList]
    rfl
  have admits : schema.Admits document := by
    refine admits_policy ⟨by decide, ?_⟩
    rintro _ (_ | ⟨_, ⟨⟩⟩)
    exact ⟨("base_delay_ms", IsNumber), by simp [policySchema], rfl, 2000, by decide, rfl⟩
  have unset := ofVariables_surroundedBy "[retry.log_reader]\nbase_delay_ms = 2000\n"
  exact ⟨unset, read, admits, override_eq isMerge_merged rfl unset read admits, rfl, by decide, by decide⟩

end Settings

end ChangeFeed
