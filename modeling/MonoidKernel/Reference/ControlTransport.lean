import MonoidKernel.Core.Scope
import MonoidKernel.Library.OrderedDict

set_option autoImplicit false

-- Translated from reference/_shared/control_transport.py.
namespace MonoidKernel.CommandInbox

open Library Scopes

mutual

def inKeyOrder : Value → Bool
  | .array items => itemsInKeyOrder items
  | .object entries =>
    decide ((entries.map (·.1)).Pairwise (· < ·)) && entriesInKeyOrder entries
  | _ => true

def itemsInKeyOrder : List Value → Bool
  | [] => true
  | item :: rest => inKeyOrder item && itemsInKeyOrder rest

def entriesInKeyOrder : List (String × Value) → Bool
  | [] => true
  | (_, value) :: rest => inKeyOrder value && entriesInKeyOrder rest

end

variable {entries : List (String × Value)}

theorem entriesInKeyOrder_iff :
    entriesInKeyOrder entries = true ↔ ∀ entry ∈ entries, inKeyOrder entry.2 = true := by
  induction entries with
  | nil => simp [entriesInKeyOrder]
  | cons entry rest ih => simp [entriesInKeyOrder, ih]

theorem inKeyOrder_object :
    inKeyOrder (.object entries) = true ↔
      (entries.map (·.1)).Pairwise (· < ·) ∧ ∀ entry ∈ entries, inKeyOrder entry.2 = true := by
  rw [inKeyOrder, Bool.and_eq_true, decide_eq_true_iff, entriesInKeyOrder_iff]

structure JsonValue where
  value : Value
  ordered : inKeyOrder value = true

structure Fields where
  entries : List (String × Value)
  ordered : inKeyOrder (.object entries) = true

def Fields.json (fields : Fields) : JsonValue := ⟨.object fields.entries, fields.ordered⟩

theorem lookup_mem {key : String} {value : Value} (found : entries.lookup key = some value) :
    (key, value) ∈ entries := by
  induction entries with
  | nil => cases found
  | cons entry rest ih =>
    obtain ⟨name, held⟩ := entry
    rw [OrderedDict.lookup_cons_ite] at found
    split at found
    next same => simpa [same] using .inl (Option.some.inj found).symm
    · exact List.mem_cons_of_mem _ (ih found)

def Fields.get? (fields : Fields) (key : String) : Option JsonValue :=
  match found : fields.entries.lookup key with
  | some value => some ⟨value, (inKeyOrder_object.1 fields.ordered).2 _ (lookup_mem found)⟩
  | none => none

theorem Fields.get?_eq (fields : Fields) {key : String} {value : JsonValue}
    (found : fields.entries.lookup key = some value.value) : fields.get? key = some value := by
  unfold Fields.get?
  split
  next other here =>
    rw [here] at found
    cases value
    cases found
    rfl
  next missing =>
    rw [missing] at found
    cases found

-- `str.lower`, `str.isalnum` of a character and `repr` of a string; the first two are those of
-- ASCII on ASCII.
structure TextRuntime where
  lower : List Char → List Char
  isAlnum : Char → Bool
  repr : String → String
  lower_ascii : ∀ text : List Char, (∀ symbol ∈ text, symbol.toNat < 128) →
    lower text = text.map Char.toLower
  isAlnum_ascii : ∀ symbol : Char, symbol.toNat < 128 → isAlnum symbol = symbol.isAlphanum

-- `json.dumps` with sorted keys and `loads_json_ingress`. What was written is read back as it was
-- or refused.
structure JsonCodec where
  dumps : JsonValue → Except String String
  loads : String → Except String JsonValue
  loads_dumps : ∀ value text found, dumps value = .ok text → loads text = .ok found → found = value

inductive CommandStatus where
  | pending
  | claimed
  | completed
  | failed
deriving DecidableEq

def CommandStatus.isOpen : CommandStatus → Bool
  | .pending => true
  | .claimed => true
  | _ => false

structure CommandPrincipal where
  tenantId : String
  userId : String
  issuer : String
deriving DecidableEq

structure CommandReceipt where
  runId : String
  commandId : String
  status : CommandStatus
  result : Option Fields
  createdAt : Rat
  updatedAt : Rat

section Sanitize

def sensitiveKeys : List String :=
  ["api_key", "access_token", "authorization", "bearer_token", "callback_token", "credential",
    "password", "refresh_token", "secret", "token"]

def sensitiveCompactKeys : List (List Char) :=
  sensitiveKeys.map fun key => key.toList.filter fun symbol => symbol ≠ '_'

def sensitiveSuffixes : List (List Char) :=
  ["password".toList, "secret".toList, "secretkey".toList]

variable (runtime : TextRuntime)

def isSensitive (key : String) : Bool :=
  let compact := (runtime.lower key.toList).filter runtime.isAlnum
  key ≠ "" && (sensitiveCompactKeys.contains compact ||
    sensitiveSuffixes.any fun suffix => suffix.isSuffixOf compact)

mutual

def sanitizeCommandData (key : String) : Value → Value
  | .array items =>
    if isSensitive runtime key then .text "[redacted]" else .array (sanitizeItems items)
  | .object entries =>
    if isSensitive runtime key then .text "[redacted]" else .object (sanitizeEntries entries)
  | value => if isSensitive runtime key then .text "[redacted]" else value

def sanitizeItems : List Value → List Value
  | [] => []
  | item :: rest => sanitizeCommandData "" item :: sanitizeItems rest

def sanitizeEntries : List (String × Value) → List (String × Value)
  | [] => []
  | (key, value) :: rest => (key, sanitizeCommandData key value) :: sanitizeEntries rest

end

def keepAuthorization : Value → Value → Value
  | .object source, .object target =>
    match source.lookup "authorization" with
    | some (.text policy) =>
      if policy ∈ ["allow", "ask", "deny"] then
        .object (OrderedDict.put "authorization" (.text policy) target)
      else .object target
    | _ => .object target
  | _, target => target

def sanitizeCommandArgs (type : String) (args : List (String × Value)) : List (String × Value) :=
  if type ≠ "replace_runtime_config" then sanitizeEntries runtime args
  else
    match args.lookup "config", (sanitizeEntries runtime args).lookup "config" with
    | some (.object sourceConfig), some (.object targetConfig) =>
      match sourceConfig.lookup "tools", targetConfig.lookup "tools" with
      | some (.array sourceTools), some (.array targetTools) =>
        OrderedDict.put "config" (.object (OrderedDict.put "tools"
          (.array (List.zipWith keepAuthorization sourceTools targetTools)) targetConfig))
          (sanitizeEntries runtime args)
      | _, _ => sanitizeEntries runtime args
    | _, _ => sanitizeEntries runtime args

theorem sanitizeEntries_keys (entries : List (String × Value)) :
    (sanitizeEntries runtime entries).map (·.1) = entries.map (·.1) := by
  induction entries with
  | nil => rfl
  | cons entry rest ih => simp [sanitizeEntries, ih]

mutual

theorem sanitizeCommandData_ordered (key : String) :
    ∀ value : Value, inKeyOrder value = true →
      inKeyOrder (sanitizeCommandData runtime key value) = true
  | .null, _ => by unfold sanitizeCommandData; split <;> rfl
  | .bool _, _ => by unfold sanitizeCommandData; split <;> rfl
  | .number _, _ => by unfold sanitizeCommandData; split <;> rfl
  | .text _, _ => by unfold sanitizeCommandData; split <;> rfl
  | .array items, ordered => by
    unfold sanitizeCommandData
    split
    · rfl
    · exact sanitizeItems_ordered items ordered
  | .object entries, ordered => by
    unfold sanitizeCommandData
    split
    · rfl
    · rw [inKeyOrder, Bool.and_eq_true] at ordered ⊢
      rw [sanitizeEntries_keys]
      exact ⟨ordered.1, sanitizeEntries_ordered entries ordered.2⟩

theorem sanitizeItems_ordered : ∀ items : List Value, itemsInKeyOrder items = true →
    itemsInKeyOrder (sanitizeItems runtime items) = true
  | [], _ => rfl
  | item :: rest, ordered => by
    rw [itemsInKeyOrder, Bool.and_eq_true] at ordered
    rw [sanitizeItems, itemsInKeyOrder, Bool.and_eq_true]
    exact ⟨sanitizeCommandData_ordered "" item ordered.1, sanitizeItems_ordered rest ordered.2⟩

theorem sanitizeEntries_ordered : ∀ entries : List (String × Value),
    entriesInKeyOrder entries = true → entriesInKeyOrder (sanitizeEntries runtime entries) = true
  | [], _ => rfl
  | (key, value) :: rest, ordered => by
    rw [entriesInKeyOrder, Bool.and_eq_true] at ordered
    rw [sanitizeEntries, entriesInKeyOrder, Bool.and_eq_true]
    exact ⟨sanitizeCommandData_ordered key value ordered.1, sanitizeEntries_ordered rest ordered.2⟩

end

mutual

theorem sanitizeCommandData_twice (key : String) : ∀ value : Value,
    sanitizeCommandData runtime key (sanitizeCommandData runtime key value) =
      sanitizeCommandData runtime key value
  | .null => by
    cases hidden : isSensitive runtime key <;> simp [sanitizeCommandData, hidden]
  | .bool _ => by
    cases hidden : isSensitive runtime key <;> simp [sanitizeCommandData, hidden]
  | .number _ => by
    cases hidden : isSensitive runtime key <;> simp [sanitizeCommandData, hidden]
  | .text _ => by
    cases hidden : isSensitive runtime key <;> simp [sanitizeCommandData, hidden]
  | .array items => by
    cases hidden : isSensitive runtime key <;>
      simp [sanitizeCommandData, hidden, sanitizeItems_twice items]
  | .object entries => by
    cases hidden : isSensitive runtime key <;>
      simp [sanitizeCommandData, hidden, sanitizeEntries_twice entries]

theorem sanitizeItems_twice : ∀ items : List Value,
    sanitizeItems runtime (sanitizeItems runtime items) = sanitizeItems runtime items
  | [] => rfl
  | item :: rest => by
    rw [sanitizeItems, sanitizeItems, sanitizeCommandData_twice "" item, sanitizeItems_twice rest]

theorem sanitizeEntries_twice : ∀ entries : List (String × Value),
    sanitizeEntries runtime (sanitizeEntries runtime entries) = sanitizeEntries runtime entries
  | [] => rfl
  | (key, value) :: rest => by
    rw [sanitizeEntries, sanitizeEntries, sanitizeCommandData_twice key value,
      sanitizeEntries_twice rest]

end

theorem lookup_sanitizeEntries (entries : List (String × Value)) (key : String) :
    (sanitizeEntries runtime entries).lookup key =
      (entries.lookup key).map (sanitizeCommandData runtime key) := by
  induction entries with
  | nil => rfl
  | cons entry rest ih =>
    obtain ⟨name, value⟩ := entry
    rw [sanitizeEntries, OrderedDict.lookup_cons_ite, OrderedDict.lookup_cons_ite, ih]
    split
    next same => rw [same]; rfl
    · rfl

theorem sanitizeEntries_put (key : String) (value : Value) (entries : List (String × Value)) :
    sanitizeEntries runtime (OrderedDict.put key value entries) =
      OrderedDict.put key (sanitizeCommandData runtime key value)
        (sanitizeEntries runtime entries) := by
  induction entries with
  | nil => rfl
  | cons entry rest ih =>
    obtain ⟨name, held⟩ := entry
    by_cases same : name = key <;> simp [OrderedDict.put, sanitizeEntries, same, ih]

theorem put_put (key : String) (first second : Value) (entries : List (String × Value)) :
    OrderedDict.put key second (OrderedDict.put key first entries) =
      OrderedDict.put key second entries := by
  induction entries with
  | nil => simp [OrderedDict.put]
  | cons entry rest ih =>
    obtain ⟨name, held⟩ := entry
    by_cases same : name = key <;> simp [OrderedDict.put, same, ih]

theorem lookup_put (key : String) (value : Value) (entries : List (String × Value)) :
    (OrderedDict.put key value entries).lookup key = some value := by
  rw [OrderedDict.put_lookup, if_pos rfl]

theorem put_mem {key : String} {value : Value} {entries : List (String × Value)}
    {entry : String × Value} (member : entry ∈ OrderedDict.put key value entries) :
    entry = (key, value) ∨ entry ∈ entries := by
  induction entries with
  | nil => simpa [OrderedDict.put] using member
  | cons first rest ih =>
    obtain ⟨name, held⟩ := first
    rw [OrderedDict.put] at member
    split at member
    · exact (List.mem_cons.1 member).imp_right (List.mem_cons_of_mem _)
    · rcases List.mem_cons.1 member with rfl | later
      · exact .inr List.mem_cons_self
      · exact (ih later).imp_right (List.mem_cons_of_mem _)

theorem put_ordered {key : String} {value old : Value} {entries : List (String × Value)}
    (ordered : inKeyOrder (.object entries) = true) (found : entries.lookup key = some old)
    (inside : inKeyOrder value = true) :
    inKeyOrder (.object (OrderedDict.put key value entries)) = true := by
  rw [inKeyOrder_object] at ordered ⊢
  have present : key ∈ entries.map (·.1) := List.mem_map_of_mem (lookup_mem found)
  rw [OrderedDict.put_keys, if_pos present]
  refine ⟨ordered.1, fun entry member => ?_⟩
  obtain rfl | before := put_mem member
  · exact inside
  · exact ordered.2 entry before

theorem itemsInKeyOrder_iff {items : List Value} :
    itemsInKeyOrder items = true ↔ ∀ item ∈ items, inKeyOrder item = true := by
  induction items with
  | nil => simp [itemsInKeyOrder]
  | cons item rest ih => simp [itemsInKeyOrder, ih]

theorem keepAuthorization_ordered {tool : Value} (ordered : inKeyOrder tool = true) :
    inKeyOrder (keepAuthorization tool (sanitizeCommandData runtime "" tool)) = true := by
  have target := sanitizeCommandData_ordered runtime "" tool ordered
  cases tool with
  | object entries =>
    have plain : sanitizeCommandData runtime "" (.object entries) =
        .object (sanitizeEntries runtime entries) := by
      simp [sanitizeCommandData, isSensitive]
    rw [plain] at target ⊢
    simp only [keepAuthorization]
    split
    next policy found =>
      split
      · have there := lookup_sanitizeEntries runtime entries "authorization"
        rw [found] at there
        exact put_ordered target there rfl
      · exact target
    · exact target
  | _ => exact target

theorem keepAuthorization_twice (tool : Value) :
    keepAuthorization (keepAuthorization tool (sanitizeCommandData runtime "" tool))
        (sanitizeCommandData runtime ""
          (keepAuthorization tool (sanitizeCommandData runtime "" tool))) =
      keepAuthorization tool (sanitizeCommandData runtime "" tool) := by
  have again := sanitizeCommandData_twice runtime "" tool
  cases tool with
  | object entries =>
    have plain (entries : List (String × Value)) :
      sanitizeCommandData runtime "" (.object entries) =
        .object (sanitizeEntries runtime entries) := by
      simp [sanitizeCommandData, isSensitive]
    rw [plain]
    cases found : entries.lookup "authorization" with
    | none =>
      have missing : (sanitizeEntries runtime entries).lookup "authorization" = none := by
        rw [lookup_sanitizeEntries, found]; rfl
      simp [keepAuthorization, found, missing, plain, sanitizeEntries_twice]
    | some value =>
      by_cases policy : ∃ text, value = .text text ∧ text ∈ ["allow", "ask", "deny"]
      · obtain ⟨text, rfl, known⟩ := policy
        have once : keepAuthorization (.object entries)
          (.object (sanitizeEntries runtime entries)) =
            .object (OrderedDict.put "authorization" (.text text)
              (sanitizeEntries runtime entries)) := by
          simp only [keepAuthorization, found, known, if_true]
        rw [once, plain, sanitizeEntries_put, sanitizeEntries_twice]
        simp only [keepAuthorization, lookup_put, known, if_true, put_put]
      · have once : keepAuthorization (.object entries)
          (.object (sanitizeEntries runtime entries)) =
            .object (sanitizeEntries runtime entries) := by
          simp only [keepAuthorization, found]
          split
          next text same =>
            cases same
            rw [if_neg fun known => policy ⟨text, rfl, known⟩]
          · rfl
        have kept : (sanitizeEntries runtime entries).lookup "authorization" =
            some (sanitizeCommandData runtime "authorization" value) := by
          rw [lookup_sanitizeEntries, found]; rfl
        rw [once, plain, sanitizeEntries_twice]
        simp only [keepAuthorization, kept]
        split
        next text same =>
          have unknown : text ∉ ["allow", "ask", "deny"] := by
            intro known
            apply policy
            refine ⟨text, ?_, known⟩
            have shown := Option.some.inj same
            cases value <;> simp only [sanitizeCommandData] at shown <;> split at shown <;>
              first
              | exact shown
              | (cases shown; simp at known)
              | cases shown
          rw [if_neg unknown]
        · rfl
  | _ =>
    simp only [keepAuthorization]
    exact again

def asciiRuntime : TextRuntime where
  lower := List.map Char.toLower
  isAlnum := Char.isAlphanum
  repr := fun text => "'" ++ text ++ "'"
  lower_ascii := fun _ _ => rfl
  isAlnum_ascii := fun _ _ => rfl

theorem toLower_ascii {symbol : Char} (ascii : symbol.toNat < 128) :
    symbol.toLower.toNat < 128 := by
  have each : ∀ code < 128, (Char.ofNat code).toLower.toNat < 128 := by decide +kernel
  simpa [Char.ofNat_toNat] using each symbol.toNat ascii

theorem isSensitive_ascii {key : String} (ascii : ∀ symbol ∈ key.toList, symbol.toNat < 128) :
    isSensitive runtime key = isSensitive asciiRuntime key := by
  have compact : (runtime.lower key.toList).filter runtime.isAlnum =
      (key.toList.map Char.toLower).filter Char.isAlphanum := by
    rw [runtime.lower_ascii _ ascii]
    refine List.filter_congr fun symbol member => ?_
    obtain ⟨upper, inside, rfl⟩ := List.mem_map.1 member
    exact runtime.isAlnum_ascii _ (toLower_ascii (ascii upper inside))
  simp only [isSensitive, compact]
  rfl

theorem isSensitive_shown : ∀ key ∈ ["config", "tools", "data", "error", "error_code", "protocol",
    "run_id", "state", "status", "type"], isSensitive runtime key = false := by
  intro key member
  have each : (["config", "tools", "data", "error", "error_code", "protocol", "run_id", "state",
      "status", "type"].all fun key => key.toList.all fun symbol => decide (symbol.toNat < 128)) =
      true := by decide +kernel
  have ascii : ∀ symbol ∈ key.toList, symbol.toNat < 128 := by
    simpa using List.all_eq_true.1 each key member
  have shown : ∀ key ∈ ["config", "tools", "data", "error", "error_code", "protocol", "run_id",
      "state", "status", "type"], isSensitive asciiRuntime key = false := by decide +kernel
  rw [isSensitive_ascii runtime ascii]
  exact shown key member

def keptTool (tool : Value) : Value :=
  keepAuthorization tool (sanitizeCommandData runtime "" tool)

theorem zipWith_sanitizeItems (tools : List Value) :
    List.zipWith keepAuthorization tools (sanitizeItems runtime tools) =
      tools.map (keptTool runtime) := by
  induction tools with
  | nil => rfl
  | cons tool rest ih => rw [sanitizeItems, List.zipWith_cons_cons, ih, List.map_cons, keptTool]

def configTools (type : String) (args : List (String × Value)) :
    Option (List (String × Value) × List Value) :=
  if type ≠ "replace_runtime_config" then none
  else
    match args.lookup "config" with
    | some (.object config) =>
      match config.lookup "tools" with
      | some (.array tools) => some (config, tools)
      | _ => none
    | _ => none

def withTools (args config : List (String × Value)) (tools : List Value) :
    List (String × Value) :=
  OrderedDict.put "config" (.object (OrderedDict.put "tools" (.array tools) config)) args

theorem configTools_eq_some {type : String} {args config : List (String × Value)}
    {tools : List Value} : configTools type args = some (config, tools) ↔
      type = "replace_runtime_config" ∧ args.lookup "config" = some (.object config) ∧
        config.lookup "tools" = some (.array tools) := by
  unfold configTools
  by_cases replace : type = "replace_runtime_config"
  · rw [if_neg (not_not.2 replace)]
    constructor
    · intro found
      split at found
      next held here =>
        split at found
        next items there =>
          cases found
          exact ⟨replace, here, there⟩
        · cases found
      · cases found
    · rintro ⟨-, here, there⟩
      simp [here, there]
  · simp [replace]

theorem sanitizeCommandArgs_spec (type : String) (args : List (String × Value)) :
    sanitizeCommandArgs runtime type args =
      match configTools type args with
      | some (config, tools) =>
        withTools (sanitizeEntries runtime args) (sanitizeEntries runtime config)
          (tools.map (keptTool runtime))
      | none => sanitizeEntries runtime args := by
  have shownConfig := isSensitive_shown runtime "config" (by simp)
  have shownTools := isSensitive_shown runtime "tools" (by simp)
  unfold sanitizeCommandArgs configTools
  by_cases other : type ≠ "replace_runtime_config"
  · rw [if_pos other, if_pos other]
  · rw [if_neg other, if_neg other, lookup_sanitizeEntries]
    cases here : args.lookup "config" with
    | none => rfl
    | some config =>
      cases config with
      | object entries =>
        simp only [Option.map_some, sanitizeCommandData, shownConfig, Bool.false_eq_true, if_false]
        rw [lookup_sanitizeEntries]
        cases there : entries.lookup "tools" with
        | none => rfl
        | some tools =>
          cases tools with
          | array items =>
            simp only [Option.map_some, sanitizeCommandData, shownTools, Bool.false_eq_true,
              if_false, zipWith_sanitizeItems]
            rfl
          | _ => rfl
      | _ => rfl

theorem sanitizeCommandArgs_ordered {type : String} {args : List (String × Value)}
    (ordered : inKeyOrder (.object args) = true) :
    inKeyOrder (.object (sanitizeCommandArgs runtime type args)) = true := by
  have shownConfig := isSensitive_shown runtime "config" (by simp)
  have shownTools := isSensitive_shown runtime "tools" (by simp)
  have plain (entries : List (String × Value)) (inside : inKeyOrder (.object entries) = true) :
      inKeyOrder (.object (sanitizeEntries runtime entries)) = true := by
    have kept := sanitizeCommandData_ordered runtime "" (.object entries) inside
    simpa [sanitizeCommandData, isSensitive] using kept
  rw [sanitizeCommandArgs_spec]
  cases brought : configTools type args with
  | none => exact plain args ordered
  | some found =>
    obtain ⟨config, tools⟩ := found
    obtain ⟨-, here, there⟩ := configTools_eq_some.1 brought
    have configOrdered := (inKeyOrder_object.1 ordered).2 _ (lookup_mem here)
    have toolsOrdered := (inKeyOrder_object.1 configOrdered).2 _ (lookup_mem there)
    have outer : (sanitizeEntries runtime args).lookup "config" =
        some (.object (sanitizeEntries runtime config)) := by
      rw [lookup_sanitizeEntries, here]
      simp [sanitizeCommandData, shownConfig]
    have inner : (sanitizeEntries runtime config).lookup "tools" =
        some (.array (sanitizeItems runtime tools)) := by
      rw [lookup_sanitizeEntries, there]
      simp [sanitizeCommandData, shownTools]
    refine put_ordered (plain args ordered) outer
      (put_ordered (plain config configOrdered) inner ?_)
    change itemsInKeyOrder (tools.map (keptTool runtime)) = true
    rw [itemsInKeyOrder_iff]
    intro item member
    obtain ⟨tool, inside, rfl⟩ := List.mem_map.1 member
    exact keepAuthorization_ordered runtime (itemsInKeyOrder_iff.1 toolsOrdered tool inside)

theorem sanitizeCommandArgs_twice (type : String) (args : List (String × Value)) :
    sanitizeCommandArgs runtime type (sanitizeCommandArgs runtime type args) =
      sanitizeCommandArgs runtime type args := by
  have shownConfig := isSensitive_shown runtime "config" (by simp)
  have shownTools := isSensitive_shown runtime "tools" (by simp)
  rw [sanitizeCommandArgs_spec runtime type args]
  cases brought : configTools type args with
  | none =>
    -- What was not a config with tools is none after it was sanitized.
    have still : configTools type (sanitizeEntries runtime args) = none := by
      unfold configTools at brought ⊢
      by_cases other : type ≠ "replace_runtime_config"
      · rw [if_pos other]
      · rw [if_neg other] at brought ⊢
        rw [lookup_sanitizeEntries]
        cases here : args.lookup "config" with
        | none => rfl
        | some config =>
          cases config with
          | object entries =>
            simp only [here] at brought
            simp only [Option.map_some, sanitizeCommandData, shownConfig, Bool.false_eq_true,
              if_false, lookup_sanitizeEntries]
            cases there : entries.lookup "tools" with
            | none => rfl
            | some tools =>
              cases tools with
              | array items =>
                simp only [there] at brought
                cases brought
              | _ => simp [sanitizeCommandData, shownTools]
          | _ => simp [sanitizeCommandData, shownConfig]
    rw [sanitizeCommandArgs_spec, still]
    exact sanitizeEntries_twice runtime args
  | some found =>
    obtain ⟨config, tools⟩ := found
    obtain ⟨replace, -, -⟩ := configTools_eq_some.1 brought
    have still : configTools type (withTools (sanitizeEntries runtime args)
        (sanitizeEntries runtime config) (tools.map (keptTool runtime))) =
        some (OrderedDict.put "tools" (.array (tools.map (keptTool runtime)))
          (sanitizeEntries runtime config), tools.map (keptTool runtime)) :=
      configTools_eq_some.2 ⟨replace, lookup_put _ _ _, lookup_put _ _ _⟩
    have each : (tools.map (keptTool runtime)).map (keptTool runtime) =
        tools.map (keptTool runtime) := by
      rw [List.map_map]
      exact List.map_congr_left fun tool _ => keepAuthorization_twice runtime tool
    rw [sanitizeCommandArgs_spec, still]
    simp only [each]
    simp only [withTools, sanitizeEntries_put, sanitizeEntries_twice, put_put]

end Sanitize

end MonoidKernel.CommandInbox
