import Laneway.Config
import Laneway.Proofs.Broker.Declaring

set_option autoImplicit false

/-! # Which environments make a configuration

An environment is refused for what four of its variables hold and for nothing else: two have to be
text, and two must not spell zero, in whichever way zero is written. A variable that spells no number,
or one too large, counts as not set. -/

namespace Laneway

/-! ## Reading texts -/

namespace Utf8

theorem text?_eq_some_iff {raw : List UInt8} {text : String} :
    text? raw = some text ↔ raw = utf8 text := by
  constructor
  · intro h
    simp only [text?, String.fromUTF8?] at h
    split at h
    · cases h
      simp [utf8, String.fromUTF8]
    · cases h
  · rintro rfl
    exact text?_utf8 text

end Utf8

namespace Environment

variable {env : Environment} {name text : String}

theorem text_eq_ok_iff : env.text name = .ok text ↔ env name = some (utf8 text) := by
  unfold Environment.text
  split
  · next unset => simp [unset]
  · next raw set =>
    rw [set, Option.some.injEq, ← Utf8.text?_eq_some_iff]
    split <;> simp_all

theorem text_eq_error_iff {reason : Missing} : env.text name = .error reason ↔
    (reason = .unset ∧ env name = none) ∨
      ∃ raw, reason = .notText raw ∧ env name = some raw ∧ ∀ text, raw ≠ utf8 text := by
  unfold Environment.text
  split
  · next unset => simp [unset, eq_comm]
  · next raw set =>
    have broken : (∀ text, raw ≠ utf8 text) ↔ Utf8.text? raw = none := by
      simp [Option.eq_none_iff_forall_ne_some, Utf8.text?_eq_some_iff]
    rw [set]
    split <;> simp_all [eq_comm]

theorem text?_eq_some_iff : env.text? name = some text ↔ env name = some (utf8 text) := by
  rw [← text_eq_ok_iff, Environment.text?]
  cases env.text name <;> simp [Except.toOption]

end Environment

/-! ## Spelling numbers -/

/-- The text spells `n` in decimal digits, behind at most one plus sign. -/
def Spells (text : String) (n : Nat) : Prop :=
  ∃ digits : List Char, digits ≠ [] ∧ (∀ c ∈ digits, c.isDigit) ∧
    Nat.ofDigitChars 10 digits 0 = n ∧ (text.toList = digits ∨ text.toList = '+' :: digits)

theorem isDigit_iff {c : Char} : c.isDigit ↔ '0' ≤ c ∧ c ≤ '9' := by
  simp only [Char.isDigit, Bool.and_eq_true, decide_eq_true_eq]
  rfl

/-- What one more character makes of the number read so far. -/
def readDigit (read : Option Nat) (c : Char) : Option Nat := read.bind fun n =>
  if '0' ≤ c ∧ c ≤ '9' then some (n * 10 + (c.toNat - 48)) else none

theorem digitsValue?_cons (c : Char) (cs : List Char) :
    digitsValue? (c :: cs) = (c :: cs).foldl readDigit (some 0) := rfl

theorem foldl_readDigit_none (cs : List Char) : cs.foldl readDigit none = none := by
  induction cs with
  | nil => rfl
  | cons _ _ ih => exact ih

theorem foldl_readDigit_eq_some_iff {cs : List Char} {start n : Nat} :
    cs.foldl readDigit (some start) = some n ↔
      (∀ c ∈ cs, c.isDigit) ∧ Nat.ofDigitChars 10 cs start = n := by
  induction cs generalizing start with
  | nil => simp
  | cons c cs ih =>
    rw [List.foldl_cons, readDigit, Option.bind_some, Nat.ofDigitChars_cons, List.forall_mem_cons,
      isDigit_iff]
    by_cases digit : '0' ≤ c ∧ c ≤ '9'
    · rw [if_pos digit, ih, Nat.mul_comm start]
      simp only [digit, true_and, and_self]
      rfl
    · rw [if_neg digit, foldl_readDigit_none]
      simp [digit]

theorem digitsValue?_eq_some_iff {cs : List Char} {n : Nat} : digitsValue? cs = some n ↔
    cs ≠ [] ∧ (∀ c ∈ cs, c.isDigit) ∧ Nat.ofDigitChars 10 cs 0 = n := by
  cases cs with
  | nil => simp [digitsValue?]
  | cons c cs => rw [digitsValue?_cons, foldl_readDigit_eq_some_iff]; simp

theorem unsigned?_eq_some_iff {bound n : Nat} {text : String} :
    unsigned? bound text = some n ↔ Spells text n ∧ n < bound := by
  rw [unsigned?, Option.filter_eq_some_iff, decide_eq_true_eq]
  refine and_congr_left fun _ => ?_
  -- a plus sign is no digit, so what follows it is all there is to read
  split
  · next rest chars =>
    rw [digitsValue?_eq_some_iff, Spells]
    constructor
    · rintro ⟨some_digit, digits, value⟩
      exact ⟨rest, some_digit, digits, value, .inr chars⟩
    · rintro ⟨cs, some_digit, digits, value, bare | signed⟩
      · exact absurd (digits '+' (by rw [← bare, chars]; exact List.mem_cons_self)) (by decide)
      · cases chars.symm.trans signed
        exact ⟨some_digit, digits, value⟩
  · next unsigned =>
    rw [digitsValue?_eq_some_iff, Spells]
    constructor
    · rintro ⟨some_digit, digits, value⟩
      exact ⟨_, some_digit, digits, value, .inl rfl⟩
    · rintro ⟨cs, some_digit, digits, value, rfl | signed⟩
      · exact ⟨some_digit, digits, value⟩
      · exact absurd signed (unsigned cs)

theorem Spells.unique {text : String} {n k : Nat} (one : Spells text n) (other : Spells text k) :
    n = k := by
  have read : ∀ m, Spells text m → m < n + k + 1 → unsigned? (n + k + 1) text = some m :=
    fun m spells small => unsigned?_eq_some_iff.2 ⟨spells, small⟩
  have same := (read n one (by omega)).symm.trans (read k other (by omega))
  exact Option.some.inj same

theorem spells_toString (n : Nat) : Spells (toString n) n :=
  ⟨Nat.toDigits 10 n, Nat.toDigits_ne_nil,
    fun _ => Nat.isDigit_of_mem_toDigits (by decide) (by decide), Nat.ofDigitChars_ten_toDigits,
    .inl Nat.toList_repr⟩

namespace Config

/-! ## Seconds -/

/-- The number of seconds that a variable sets: the number it spells, if that has 64 bits, else the
    default. -/
structure Sets (env : Environment) (name : String) (default n : UInt64) : Prop where
  spelt : ∀ text k, env name = some (utf8 text) → Spells text k → k < UInt64.size → n.toNat = k
  otherwise : (∀ text k, env name = some (utf8 text) → Spells text k → UInt64.size ≤ k) →
    n = default

theorem sets_seconds (env : Environment) (name : String) (default : UInt64) :
    Sets env name default (seconds env name default) := by
  have read : ∀ k, (env.text? name).bind (unsigned? UInt64.size) = some k ↔
      ∃ text, env name = some (utf8 text) ∧ Spells text k ∧ k < UInt64.size := by
    simp [Option.bind_eq_some_iff, Environment.text?_eq_some_iff, unsigned?_eq_some_iff]
  refine ⟨fun text k set spells small => ?_, fun none_small => ?_⟩
  · rw [seconds, (read k).2 ⟨text, set, spells, small⟩]
    exact UInt64.toNat_ofNat_of_lt' small
  · have none : (env.text? name).bind (unsigned? UInt64.size) = none := by
      refine Option.eq_none_iff_forall_ne_some.2 fun k found => ?_
      obtain ⟨text, set, spells, small⟩ := (read k).1 found
      exact Nat.not_lt_of_le (none_small text k set spells) small
    rw [seconds, none]

/-! ## Faults -/

/-- The variables that have to be set to text. -/
def requiredVariables : List String := ["DATABASE_URL", "REGISTRY_URL"]

/-- The variables that hold intervals, which must not be zero. -/
def intervalVariables : List String :=
  ["REGISTRY_POLL_INTERVAL_SECS", "BROKER_RECONNECT_DELAY_SECS"]

/-- The variables that can be at fault, in the order they are read. -/
def checkedVariables : List String := requiredVariables ++ intervalVariables

/-- The variable that an error is about. -/
def Error.variable : Error → String
  | .required name _ | .zeroInterval name => name

/-- What is wrong with an environment. -/
inductive Faulty (env : Environment) : Error → Prop
  | unset {name : String} (mem : name ∈ requiredVariables) (missing : env name = none) :
      Faulty env (.required name .unset)
  | notText {name : String} {raw : List UInt8} (mem : name ∈ requiredVariables)
      (set : env name = some raw) (broken : ∀ text, raw ≠ utf8 text) :
      Faulty env (.required name (.notText raw))
  | zero {name text : String} (mem : name ∈ intervalVariables) (set : env name = some (utf8 text))
      (zero : Spells text 0) : Faulty env (.zeroInterval name)

/-- The fault of the variable that is read first of all those at fault. -/
structure FirstFault (env : Environment) (fault : Error) : Prop where
  faulty : Faulty env fault
  first : ∀ other, Faulty env other →
    checkedVariables.idxOf fault.variable ≤ checkedVariables.idxOf other.variable

variable {env : Environment} {name : String} {fault other : Error}

theorem Faulty.mem (h : Faulty env fault) : fault.variable ∈ checkedVariables := by
  cases h with
  | unset mem | notText mem => exact List.mem_append_left _ mem
  | zero mem => exact List.mem_append_right _ mem

theorem not_required_of_interval (name : String) (interval : name ∈ intervalVariables) :
    name ∉ requiredVariables := by
  revert name
  decide

theorem required_eq_error_iff (mem : name ∈ requiredVariables) :
    required env name = .error fault ↔ Faulty env fault ∧ fault.variable = name := by
  have refused : required env name = .error fault ↔
      ∃ reason, env.text name = .error reason ∧ fault = .required name reason := by
    unfold required
    cases env.text name <;> simp [Except.mapError, eq_comm]
  simp only [refused, Environment.text_eq_error_iff]
  constructor
  · rintro ⟨_, ⟨rfl, missing⟩ | ⟨raw, rfl, set, broken⟩, rfl⟩
    · exact ⟨.unset mem missing, rfl⟩
    · exact ⟨.notText mem set broken, rfl⟩
  · rintro ⟨faulty, rfl⟩
    cases faulty with
    | unset _ missing => exact ⟨_, .inl ⟨rfl, missing⟩, rfl⟩
    | notText _ set broken => exact ⟨_, .inr ⟨_, rfl, set, broken⟩, rfl⟩
    | zero other => exact absurd mem (not_required_of_interval _ other)

theorem interval_eq_error_iff {default : UInt64} (mem : name ∈ intervalVariables)
    (pos : default ≠ 0) :
    interval env name default = .error fault ↔ Faulty env fault ∧ fault.variable = name := by
  have sets := sets_seconds env name default
  have zero_iff : seconds env name default = 0 ↔
      ∃ text, env name = some (utf8 text) ∧ Spells text 0 := by
    constructor
    · intro zero
      rw [zero] at sets
      refine Classical.byContradiction fun no_zero => pos (sets.otherwise ?_).symm
      intro text k set spells
      refine Nat.le_of_not_lt fun small => no_zero ⟨text, set, ?_⟩
      have zero_k : (0 : UInt64).toNat = k := sets.spelt text k set spells small
      rwa [← zero_k] at spells
    · rintro ⟨text, set, spells⟩
      exact UInt64.toNat_inj.1 (sets.spelt text 0 set spells (by decide))
  have refused : interval env name default = .error fault ↔
      seconds env name default = 0 ∧ fault = .zeroInterval name := by
    simp only [interval]
    split <;> simp_all [eq_comm]
  rw [refused, zero_iff]
  constructor
  · rintro ⟨⟨text, set, spells⟩, rfl⟩
    exact ⟨.zero mem set spells, rfl⟩
  · rintro ⟨faulty, rfl⟩
    cases faulty with
    | zero _ set spells => exact ⟨⟨_, set, spells⟩, rfl⟩
    | unset other | notText other => exact absurd other (not_required_of_interval _ mem)

/-- No variable has two faults. -/
theorem Faulty.unique (h : Faulty env fault) (h' : Faulty env other)
    (same : fault.variable = other.variable) : fault = other := by
  have mem := h.mem
  rcases List.mem_append.1 mem with required | interval
  · exact Except.error.inj (((required_eq_error_iff required).2 ⟨h, rfl⟩).symm.trans
      ((required_eq_error_iff required).2 ⟨h', same.symm⟩))
  · have pos : (1 : UInt64) ≠ 0 := by decide
    exact Except.error.inj (((interval_eq_error_iff interval pos).2 ⟨h, rfl⟩).symm.trans
      ((interval_eq_error_iff interval pos).2 ⟨h', same.symm⟩))

theorem FirstFault.unique (h : FirstFault env fault) (h' : FirstFault env other) :
    fault = other := by
  refine h.faulty.unique h'.faulty ?_
  have same := Nat.le_antisymm (h.first _ h'.faulty) (h'.first _ h.faulty)
  exact List.idxOf_inj h.faulty.mem |>.1 same

/-- A variable that is read without an error is not at fault. -/
theorem clean_of_required {value : String} (mem : name ∈ requiredVariables)
    (read : required env name = .ok value) : ∀ fault, Faulty env fault → fault.variable ≠ name :=
  fun _ faulty same => nomatch read.symm.trans ((required_eq_error_iff mem).2 ⟨faulty, same⟩)

theorem clean_of_interval {default n : UInt64} (mem : name ∈ intervalVariables)
    (pos : default ≠ 0) (read : interval env name default = .ok n) :
    ∀ fault, Faulty env fault → fault.variable ≠ name :=
  fun _ faulty same => nomatch read.symm.trans ((interval_eq_error_iff mem pos).2 ⟨faulty, same⟩)

theorem firstFault_of_clean (before : List String) {after : List String}
    (faulty : Faulty env fault) (order : checkedVariables = before ++ fault.variable :: after)
    (clean : ∀ name ∈ before, ∀ other, Faulty env other → other.variable ≠ name) :
    FirstFault env fault := by
  have new : ∀ other, Faulty env other → other.variable ∉ before := fun other h mem =>
    clean _ mem other h rfl
  refine ⟨faulty, fun other h => ?_⟩
  rw [order, List.idxOf_append_of_notMem (new other h),
    List.idxOf_append_of_notMem (new fault faulty), List.idxOf_cons_self]
  exact Nat.le_add_right _ _

/-! ## The whole environment -/

theorem bind_eq_error_iff {ε α β : Type} {x : Except ε α} {f : α → Except ε β} {e : ε} :
    x >>= f = .error e ↔ x = .error e ∨ ∃ a, x = .ok a ∧ f a = .error e := by
  cases x <;> simp [bind, Except.bind]

theorem bind_eq_ok_iff {ε α β : Type} {x : Except ε α} {f : α → Except ε β} {b : β} :
    x >>= f = .ok b ↔ ∃ a, x = .ok a ∧ f a = .ok b := by
  cases x <;> simp [bind, Except.bind]

/-- What is reported is the first fault: everything read before it was in order. -/
theorem firstFault_of_error (h : ofEnvironment env = .error fault) : FirstFault env fault := by
  have required₁ : "DATABASE_URL" ∈ requiredVariables := by decide
  have required₂ : "REGISTRY_URL" ∈ requiredVariables := by decide
  have interval₁ : "REGISTRY_POLL_INTERVAL_SECS" ∈ intervalVariables := by decide
  have interval₂ : "BROKER_RECONNECT_DELAY_SECS" ∈ intervalVariables := by decide
  simp only [ofEnvironment, bind_eq_error_iff] at h
  rcases h with read | ⟨_, read₁, read | ⟨_, read₂, read | ⟨_, read₃, read | ⟨_, -, read⟩⟩⟩⟩
  · obtain ⟨faulty, here⟩ := (required_eq_error_iff required₁).1 read
    exact ⟨faulty, fun other _ => here ▸ Nat.zero_le _⟩
  · obtain ⟨faulty, here⟩ := (required_eq_error_iff required₂).1 read
    refine firstFault_of_clean ["DATABASE_URL"] faulty (by rw [here]; rfl) ?_
    exact List.forall_mem_singleton.2 (clean_of_required required₁ read₁)
  · obtain ⟨faulty, here⟩ := (interval_eq_error_iff interval₁ (by decide)).1 read
    refine firstFault_of_clean ["DATABASE_URL", "REGISTRY_URL"] faulty (by rw [here]; rfl) ?_
    exact List.forall_mem_cons.2 ⟨clean_of_required required₁ read₁,
      List.forall_mem_singleton.2 (clean_of_required required₂ read₂)⟩
  · obtain ⟨faulty, here⟩ := (interval_eq_error_iff interval₂ (by decide)).1 read
    refine firstFault_of_clean ["DATABASE_URL", "REGISTRY_URL", "REGISTRY_POLL_INTERVAL_SECS"]
      faulty (by rw [here]; rfl) ?_
    exact List.forall_mem_cons.2 ⟨clean_of_required required₁ read₁, List.forall_mem_cons.2
      ⟨clean_of_required required₂ read₂,
        List.forall_mem_singleton.2 (clean_of_interval interval₁ (by decide) read₃)⟩⟩
  · exact nomatch read

/-- The fault is named in the message. -/
theorem Error.exists_variable_in_message (fault : Error) :
    ∃ before after, fault.message = before ++ fault.variable ++ after := by
  cases fault with
  | required name reason =>
    exact ⟨"", " must be set: " ++ reason.message, by
      simp [Error.message, Error.variable, String.append_assoc]⟩
  | zeroInterval name => exact ⟨"invalid ", ": value must be at least 1", rfl⟩

/-- What an accepted environment is made into. -/
structure Accepted (env : Environment) (config : Config) : Prop where
  databaseUrl : env "DATABASE_URL" = some (utf8 config.databaseUrl)
  registryUrl : env "REGISTRY_URL" = some (utf8 config.registryUrl)
  poll : Sets env "REGISTRY_POLL_INTERVAL_SECS" 30 config.registryPollSeconds
  poll_pos : 1 ≤ config.registryPollSeconds
  reconnect : Sets env "BROKER_RECONNECT_DELAY_SECS" 5 config.brokerReconnectSeconds
  reconnect_pos : 1 ≤ config.brokerReconnectSeconds
  lane : config.lane = Lane.normalize (env.text? "LANE")
  lane_feature : config.lane ≠ some "" ∧ config.lane ≠ some "prod"
  brokerUrl : config.brokerUrl ≠ some ""

theorem interval_eq_ok {default n : UInt64} (read : interval env name default = .ok n) :
    Sets env name default n ∧ 1 ≤ n := by
  simp only [interval] at read
  split at read
  · exact nomatch read
  · next pos =>
    cases read
    refine ⟨sets_seconds env name default, ?_⟩
    exact UInt64.le_iff_toNat_le.2 (Nat.pos_of_ne_zero fun zero => pos (UInt64.toNat_inj.1 zero))

theorem required_eq_ok {value : String} (read : required env name = .ok value) :
    env name = some (utf8 value) := by
  refine Environment.text_eq_ok_iff.1 ?_
  unfold required at read
  cases h : env.text name with
  | error => exact nomatch h ▸ read
  | ok text => exact congrArg Except.ok (Except.ok.inj (h ▸ read))

theorem accepted_of_ok {config : Config} (h : ofEnvironment env = .ok config) :
    Accepted env config ∧ ∀ fault, ¬ Faulty env fault := by
  simp only [ofEnvironment, bind_eq_ok_iff] at h
  obtain ⟨database, read₁, registry, read₂, poll, read₃, reconnect, read₄, made⟩ := h
  have clean₁ := clean_of_required (by decide) read₁
  have clean₂ := clean_of_required (by decide) read₂
  have clean₃ := clean_of_interval (by decide) (by decide) read₃
  have clean₄ := clean_of_interval (by decide) (by decide) read₄
  have feature (raw : Option String) : Lane.normalize raw ≠ some "" ∧
      Lane.normalize raw ≠ some "prod" :=
    ⟨fun h => (Lane.normalize_eq_some_iff.1 h).2.1 rfl,
      fun h => (Lane.normalize_eq_some_iff.1 h).2.2 rfl⟩
  cases made
  refine ⟨⟨required_eq_ok read₁, required_eq_ok read₂, (interval_eq_ok read₃).1,
    (interval_eq_ok read₃).2, (interval_eq_ok read₄).1, (interval_eq_ok read₄).2, rfl, feature _,
    ?_⟩, ?_⟩
  · simp [Option.filter_eq_some_iff]
  · intro fault faulty
    have mem := faulty.mem
    simp only [checkedVariables, requiredVariables, intervalVariables, List.cons_append,
      List.nil_append, List.mem_cons, List.not_mem_nil, or_false] at mem
    rcases mem with here | here | here | here
    · exact clean₁ fault faulty here
    · exact clean₂ fault faulty here
    · exact clean₃ fault faulty here
    · exact clean₄ fault faulty here

theorem ofEnvironment_eq_error_iff : ofEnvironment env = .error fault ↔ FirstFault env fault := by
  refine ⟨firstFault_of_error, fun first => ?_⟩
  cases read : ofEnvironment env with
  | error found => rw [first.unique (firstFault_of_error read)]
  | ok config => exact absurd first.faulty ((accepted_of_ok read).2 fault)

end Config

/-! ## The client of a configuration -/

/-- A client with these settings serves the lane that `raw` names, and declares its plan: in order
    from the first declaration on, and all of it where it reports success. -/
structure Broker.Serving (settings : Broker.Settings) (raw : Option String) : Prop where
  lane : ∀ history s, Broker.Run settings history s → s.client.lane = Lane.normalize raw
  plan : ∀ history s, Broker.Run settings history s →
    s.client.plan = Broker.plan raw Broker.defaultQueues
  declares : ∀ history s, Broker.Run settings history s →
    ∀ id n, Broker.declaredBy id n history <+: Broker.plan raw Broker.defaultQueues
  completes : ∀ earlier m later s, Broker.Run settings (earlier ++ m :: later) s →
    ∀ activity, m.activity = some activity → Broker.Asked earlier activity.id →
      activity.next = .error (.answered (.ok ())) →
      ∃ n, Broker.declaredBy activity.id n earlier = Broker.plan raw Broker.defaultQueues

theorem Broker.serving_of_lane {settings : Broker.Settings} {raw : Option String}
    (lane : settings.lane = Lane.normalize raw) (queues : settings.queues = Broker.defaultQueues) :
    Broker.Serving settings raw := by
  have plan : Broker.plan settings.lane settings.queues = Broker.plan raw Broker.defaultQueues := by
    rw [lane, queues, Broker.plan_normalize]
  refine ⟨fun history s run => ?_, fun history s run => ?_, fun history s run id n => ?_, ?_⟩
  · rw [Broker.Client.lane, run.settings, lane, Lane.normalize_normalize]
  · rw [run.plan_eq, plan]
  · exact plan ▸ (run.planned id n).first
  · intro earlier m later s run activity did asked ended
    exact plan ▸ run.declaredBy_of_answered did asked ended

namespace Config

/-- An environment is refused at its first fault and only for a fault. One that is accepted makes
    positive intervals, a lane and a broker that are each absent or named, and a client that serves
    the lane the environment names. -/
theorem refused_only_at_first_fault (env : Environment) :
    (∀ fault, ofEnvironment env = .error fault ↔ FirstFault env fault) ∧
    ((∃ fault, ofEnvironment env = .error fault) ↔ ∃ fault, Faulty env fault) ∧
    (∀ fault, ofEnvironment env = .error fault →
      ∃ before after, fault.message = before ++ fault.variable ++ after) ∧
    ∀ config, ofEnvironment env = .ok config → Accepted env config ∧
      ∀ raw, (∀ text, raw = some text ↔ env "LANE" = some (utf8 text)) →
        Broker.Serving (.ofConfig config) raw := by
  refine ⟨fun fault => ofEnvironment_eq_error_iff, ⟨?_, ?_⟩, ?_, ?_⟩
  · rintro ⟨fault, refused⟩
    exact ⟨fault, (firstFault_of_error refused).faulty⟩
  · rintro ⟨fault, faulty⟩
    cases read : ofEnvironment env with
    | error found => exact ⟨found, rfl⟩
    | ok config => exact absurd faulty ((accepted_of_ok read).2 fault)
  · exact fun fault _ => fault.exists_variable_in_message
  · intro config read
    have accepted := (accepted_of_ok read).1
    refine ⟨accepted, fun raw set => Broker.serving_of_lane ?_ rfl⟩
    have same : raw = env.text? "LANE" := by
      refine Option.ext fun text => ?_
      rw [set, Environment.text?_eq_some_iff]
    rw [same]
    exact accepted.lane

/-- The texts that some variables are set to, and no other. -/
def environment (texts : List (String × String)) : Environment := fun name =>
  (texts.lookup name).map utf8

/-- A process of a feature lane with a broker: one interval is written with a sign, and one is too
    large. -/
def sampleEnvironment : Environment :=
  environment [("DATABASE_URL", "postgresql://localhost/lanes"),
    ("REGISTRY_URL", "http://registry:8080"), ("REGISTRY_POLL_INTERVAL_SECS", "+07"),
    ("BROKER_RECONNECT_DELAY_SECS", "18446744073709551616"), ("LANE", "feat-x"),
    ("RABBITMQ_URL", "amqp://broker")]

def sampleConfig : Config where
  bindAddress := "0.0.0.0:3003"
  databaseUrl := "postgresql://localhost/lanes"
  registryUrl := "http://registry:8080"
  registryPollSeconds := 7
  lane := some "feat-x"
  brokerUrl := some "amqp://broker"
  brokerPrefetch := 10
  brokerReconnectSeconds := 5
  laneCacheSeconds := 30
  relaySecret := ""
  relayService := "lark-server"
  relayPath := "/api/internal/lark-event"
  drainSeconds := 5
  production := false
  version := "unknown"

/-- A caller connects and has the plan declared. -/
def declaring : List Broker.Move :=
  [.begin .connect, .resume 0 .turn, .connect 0, .resume 0 (.answered (.ok ())),
    .begin .declareTopology, .resume 2 .turn] ++ List.replicate 8 (.resume 2 (.answered (.ok ())))

theorem refused_only_at_first_fault_sample :
    ofEnvironment sampleEnvironment = .ok sampleConfig ∧ Accepted sampleEnvironment sampleConfig ∧
    ∃ history s n, Broker.Run (.ofConfig sampleConfig) history s ∧ Broker.Asked history 2 ∧
      Broker.declaredBy 2 n history = Broker.plan (some "feat-x") Broker.defaultQueues := by
  have read : ofEnvironment sampleEnvironment = .ok sampleConfig := by decide +kernel
  have set : ∀ text, some "feat-x" = some text ↔
      sampleEnvironment "LANE" = some (utf8 text) := by
    intro text
    have lane : sampleEnvironment.text? "LANE" = some "feat-x" := by decide +kernel
    rw [← Environment.text?_eq_some_iff, lane]
  obtain ⟨accepted, serving⟩ :=
    (refused_only_at_first_fault sampleEnvironment).2.2.2 sampleConfig read
  let e : Broker.Execution (.ofConfig sampleConfig) := .ofMoves _ declaring rfl
  have asked : Broker.Asked (e.history 13) 2 := by
    refine ⟨⟨e.system 4, e.move 4, e.activity 4⟩, ?_, rfl, rfl⟩
    exact List.mem_map.2 ⟨4, List.mem_range.2 (by decide), rfl⟩
  have run : Broker.Run (.ofConfig sampleConfig)
      (e.history 13 ++ [⟨e.system 13, e.move 13, e.activity 13⟩]) (e.system 14) :=
    e.history_succ 13 ▸ e.run 14
  obtain ⟨n, done⟩ := (serving _ set).completes (e.history 13)
    ⟨e.system 13, e.move 13, e.activity 13⟩ [] (e.system 14) run _ rfl asked rfl
  exact ⟨read, accepted, e.history 13, e.system 13, n, e.run 13, asked, done⟩

/-- Both intervals are zero, and the first of them is reported. -/
example : ofEnvironment (environment [("DATABASE_URL", "postgresql://localhost/lanes"),
      ("REGISTRY_URL", "http://registry:8080"), ("REGISTRY_POLL_INTERVAL_SECS", "+00"),
      ("BROKER_RECONNECT_DELAY_SECS", "0")]) =
    .error (.zeroInterval "REGISTRY_POLL_INTERVAL_SECS") := by
  decide +kernel

end Config

end Laneway
