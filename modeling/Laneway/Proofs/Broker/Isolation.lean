import Laneway.Broker.Client
import Laneway.Proofs.Broker.Names

set_option autoImplicit false

/-! # Which queues a message reaches

The binding key of a queue and the routing key of a message are made in the same way, from a base
and a lane. But the first is a pattern and the second is not: a lane with a word that stands for
other words binds its queues with a pattern that messages of other lanes fit. Lanes without such
words are isolated from all others. -/

namespace Laneway.Broker

/-! ## Matching on a topic exchange -/

/-- A word of a key. -/
abbrev Word := List Char

/-- The words of a key, which dots separate. -/
def words (key : String) : List Word := key.toList.splitOn '.'

/-- The word of a pattern that stands for any one word. -/
def Word.star : Word := ['*']

/-- The word of a pattern that stands for any number of words. -/
def Word.hash : Word := ['#']

/-- The words of a key fit a pattern. -/
inductive Fits : List Word → List Word → Prop
  | done : Fits [] []
  | word {word : Word} {pattern key : List Word} (rest : Fits pattern key) :
      Fits (word :: pattern) (word :: key)
  | one {word : Word} {pattern key : List Word} (rest : Fits pattern key) :
      Fits (Word.star :: pattern) (word :: key)
  | none {pattern key : List Word} (rest : Fits pattern key) : Fits (Word.hash :: pattern) key
  | more {word : Word} {pattern key : List Word} (rest : Fits (Word.hash :: pattern) key) :
      Fits (Word.hash :: pattern) (word :: key)

/-- No word of the pattern stands for others. -/
def Plain (pattern : List Word) : Prop := ∀ word ∈ pattern, word ≠ Word.star ∧ word ≠ Word.hash

instance (pattern : List Word) : Decidable (Plain pattern) :=
  inferInstanceAs (Decidable (∀ word ∈ pattern, word ≠ Word.star ∧ word ≠ Word.hash))

/-- What an exchange of this kind routes along a binding. -/
def ExchangeKind.Routes (binding key : String) : ExchangeKind → Prop
  | .fanout => True
  | .delayedTopic => Fits (words binding) (words key)

/-- With these declarations, a message that is published to the exchange under the key reaches the
    queue. -/
def Reaches (declared : List Declaration) (exchange key queue : String) : Prop :=
  ∃ spec binding, .exchange spec ∈ declared ∧ spec.name = exchange ∧
    .bind binding ∈ declared ∧ binding.exchange = exchange ∧ binding.queue = queue ∧
      spec.kind.Routes binding.routingKey key

theorem fits_self (pattern : List Word) : Fits pattern pattern := by
  induction pattern with
  | nil => exact .done
  | cons word rest ih => exact .word ih

/-- Plain words at the front of a pattern fit only themselves. -/
theorem fits_append_iff {front pattern key : List Word} (plain : Plain front) :
    Fits (front ++ pattern) key ↔ ∃ rest, key = front ++ rest ∧ Fits pattern rest := by
  induction front generalizing key with
  | nil => simp
  | cons first front ih =>
    obtain ⟨⟨notStar, notHash⟩, plain⟩ := List.forall_mem_cons.1 plain
    constructor
    · intro fits
      cases fits with
      | word behind =>
        obtain ⟨rest, same, fits⟩ := (ih plain).1 behind
        exact ⟨rest, congrArg (first :: ·) same, fits⟩
      | one => exact absurd rfl notStar
      | none | more => exact absurd rfl notHash
    · rintro ⟨rest, rfl, fits⟩
      exact .word ((ih plain).2 ⟨rest, rfl, fits⟩)

theorem fits_plain_iff {pattern key : List Word} (plain : Plain pattern) :
    Fits pattern key ↔ pattern = key := by
  constructor
  · intro fits
    rw [← List.append_nil pattern] at fits
    obtain ⟨rest, same, behind⟩ := (fits_append_iff plain).1 fits
    cases behind
    exact (same.trans (List.append_nil _)).symm
  · rintro rfl
    exact fits_self pattern

/-! ## The words of a key -/

theorem words_append (a b : String) : words (a ++ "." ++ b) = words a ++ words b := by
  unfold words
  rw [String.toList_append, String.toList_append, List.append_assoc]
  exact List.splitOn_append_cons_self a.toList b.toList

/-- A key is known by its words. -/
theorem words_inj {a b : String} (same : words a = words b) : a = b := by
  have joined := congrArg ['.'].intercalate same
  rw [words, words, List.intercalate_splitOn, List.intercalate_splitOn] at joined
  exact String.toList_inj.1 joined

/-- The words that a lane adds to a key. -/
def laneWords (lane : Option String) : List Word :=
  match Lane.normalize lane with
  | some name => words name
  | none => []

theorem words_routingKey (base : String) (lane : Option String) :
    words (Lane.routingKey base lane) = words base ++ laneWords lane := by
  unfold Lane.routingKey Lane.suffixed laneWords
  cases Lane.normalize lane with
  | none => exact (List.append_nil _).symm
  | some name => exact words_append base name

theorem laneWords_inj {lane other : Option String} :
    laneWords lane = laneWords other ↔ Lane.normalize lane = Lane.normalize other := by
  constructor
  · intro same
    have keys : Lane.routingKey "" lane = Lane.routingKey "" other := by
      refine words_inj ?_
      rw [words_routingKey, words_routingKey, same]
    exact (Lane.suffixed_inj (by decide)).1 keys
  · intro same
    unfold laneWords
    rw [same]

/-- The words of one lane, as a pattern, fit those of the same lane, and of others only where one of
    them stands for other words. -/
theorem fits_laneWords_iff (lane other : Option String) :
    Fits (laneWords lane) (laneWords other) ↔
      Lane.normalize lane = Lane.normalize other ∨
        ¬ Plain (laneWords lane) ∧ Fits (laneWords lane) (laneWords other) := by
  constructor
  · intro fits
    by_cases plain : Plain (laneWords lane)
    · exact .inl (laneWords_inj.1 ((fits_plain_iff plain).1 fits))
    · exact .inr ⟨plain, fits⟩
  · rintro (same | ⟨-, fits⟩)
    · rw [laneWords_inj.2 same]
      exact fits_self _
    · exact fits

/-! ## The default queues -/

theorem plain_defaultQueues : ∀ logical ∈ defaultQueues,
    Plain (words logical.routingKey) ∧ (words logical.routingKey).length = 2 := by
  decide +kernel

/-- Two keys with default bases fit when the bases are the same and the words of the lanes fit. -/
theorem fits_routingKey_iff {a b : LogicalQueue} (ha : a ∈ defaultQueues) (hb : b ∈ defaultQueues)
    (lane other : Option String) :
    Fits (words (Lane.routingKey a.routingKey lane)) (words (Lane.routingKey b.routingKey other)) ↔
      a.routingKey = b.routingKey ∧ Fits (laneWords lane) (laneWords other) := by
  obtain ⟨plain, two⟩ := plain_defaultQueues a ha
  obtain ⟨-, two'⟩ := plain_defaultQueues b hb
  rw [words_routingKey, words_routingKey, fits_append_iff plain]
  constructor
  · rintro ⟨rest, same, fits⟩
    obtain ⟨base, rfl⟩ := List.append_inj same (two'.trans two.symm)
    exact ⟨(words_inj base).symm, fits⟩
  · rintro ⟨base, fits⟩
    exact ⟨_, by rw [base], fits⟩

/-- The queues of different logical queues have different names in all lanes. -/
theorem queue_inj {a b : LogicalQueue} (ha : a ∈ defaultQueues) (hb : b ∈ defaultQueues)
    {lane other : Option String} (same : (a.spec lane).name = (b.spec other).name) :
    a = b ∧ Lane.normalize lane = Lane.normalize other := by
  have base : a.queue = b.queue := Lane.base_of_suffixed prefixFree_queue.tail
    (List.mem_map_of_mem ha) (List.mem_map_of_mem hb) same
  have named : ∀ a ∈ defaultQueues, ∀ b ∈ defaultQueues, a.queue = b.queue → a = b := by decide
  obtain rfl : a = b := named a ha b hb base
  exact ⟨rfl, (Lane.suffixed_inj (by decide)).1 same⟩

/-! ## What lanes declare -/

theorem mem_plan_iff {lane : Option String} {queues : List LogicalQueue}
    {declaration : Declaration} : declaration ∈ plan lane queues ↔
      declaration ∈ sharedDeclarations ∨ ∃ logical ∈ queues,
        declaration = .queue (logical.spec lane) ∨ declaration = .bind (logical.binding lane) := by
  simp [plan]

/-- A binding of the main exchange binds a logical queue. -/
theorem binding_of_mem_plan {lane : Option String} {queues : List LogicalQueue} {binding : Binding}
    (mem : .bind binding ∈ plan lane queues) (main : binding.exchange = mainExchange) :
    ∃ logical ∈ queues, binding = logical.binding lane := by
  rcases mem_plan_iff.1 mem with shared | ⟨logical, hl, own⟩
  · -- the only binding that all lanes share is that of the dead-letter exchange
    have foreign : ∀ declaration ∈ sharedDeclarations,
        ∀ binding, declaration = .bind binding → binding.exchange ≠ mainExchange := by
      simp [sharedDeclarations, deadLetterExchange, mainExchange]
    exact absurd main (foreign _ shared binding rfl)
  · exact ⟨logical, hl, by simpa using own⟩

/-- The main exchange routes by topic. -/
theorem kind_of_mem_plan {lane : Option String} {queues : List LogicalQueue} {spec : Exchange}
    (mem : .exchange spec ∈ plan lane queues) (main : spec.name = mainExchange) :
    spec.kind = .delayedTopic := by
  rcases mem_plan_iff.1 mem with shared | ⟨logical, -, own⟩
  · have routes : ∀ declaration ∈ sharedDeclarations, ∀ spec, declaration = .exchange spec →
        spec.name = mainExchange → spec.kind = .delayedTopic := by
      simp [sharedDeclarations, deadLetterExchange, mainExchange]
    exact routes _ shared spec rfl main
  · simp at own

variable {deployed : List (Option String)} {lane : Option String} {logical : LogicalQueue}

/-- Whatever lanes are deployed, what reaches a queue of one of them is what fits the key that this
    lane binds it with. -/
theorem reaches_queue_iff (declares : lane ∈ deployed) (hl : logical ∈ defaultQueues)
    (key : String) :
    Reaches (deployed.flatMap fun lane => plan lane defaultQueues) mainExchange key
        (logical.spec lane).name ↔
      Fits (words (Lane.routingKey logical.routingKey lane)) (words key) := by
  constructor
  · rintro ⟨spec, binding, exchange, main, bound, at_main, named, routes⟩
    obtain ⟨_, -, exchange⟩ := List.mem_flatMap.1 exchange
    obtain ⟨other, -, bound⟩ := List.mem_flatMap.1 bound
    obtain ⟨found, hf, rfl⟩ := binding_of_mem_plan bound at_main
    rw [kind_of_mem_plan exchange main] at routes
    obtain ⟨rfl, same⟩ := queue_inj (a := found) hf hl named
    have keys : Lane.routingKey found.routingKey other = Lane.routingKey found.routingKey lane := by
      rw [Lane.routingKey, ← Lane.suffixed_normalize, same, Lane.suffixed_normalize]
      rfl
    exact keys ▸ routes
  · intro fits
    have here : ∀ declaration ∈ plan lane defaultQueues,
        declaration ∈ deployed.flatMap fun lane => plan lane defaultQueues :=
      fun declaration mem => List.mem_flatMap.2 ⟨lane, declares, mem⟩
    refine ⟨⟨mainExchange, .delayedTopic, true⟩, logical.binding lane, here _ ?_, rfl, here _ ?_,
      rfl, rfl, fits⟩
    · exact mem_plan_iff.2 (.inl (by simp [sharedDeclarations]))
    · exact mem_plan_iff.2 (.inr ⟨logical, hl, .inr rfl⟩)

/-- What a client publishes goes to the main exchange under the key of its lane. -/
theorem publishCall_eq {c : Client} {p : Publication} {session : SessionId}
    {exchange key : String} {message : Message}
    (made : c.publishCall p = .ok (session, .publish exchange key message)) :
    exchange = mainExchange ∧ key = p.routingKey c.settings.lane := by
  unfold Client.publishCall at made
  cases found : c.session with
  | error fault =>
    rw [found] at made
    exact nomatch made
  | ok installed =>
    cases encoded : p.body.encode with
    | error fault =>
      rw [found, encoded] at made
      exact nomatch made
    | ok body =>
      rw [found, encoded] at made
      cases made
      exact ⟨rfl, rfl⟩

/-- A message reaches a queue of a lane when the queue is the one that is bound with the base of its
    routing key and the lane is the one it was published to. It reaches that queue of another lane
    exactly where the other lane has a word that stands for others and its words, as a pattern, fit
    those of the lane published to. -/
theorem reaches_lane_iff {c : Client} {p : Publication} {session : SessionId}
    {exchange key : String} {message : Message} (declares : lane ∈ deployed)
    (hl : logical ∈ defaultQueues) (base : ∃ b ∈ defaultQueues, b.routingKey = p.routingKeyBase)
    (made : c.publishCall p = .ok (session, .publish exchange key message)) :
    Reaches (deployed.flatMap fun lane => plan lane defaultQueues) exchange key
        (logical.spec lane).name ↔
      logical.routingKey = p.routingKeyBase ∧
        (Lane.normalize lane = p.effectiveLane c.settings.lane ∨
          ¬ Plain (laneWords lane) ∧
            Fits (laneWords lane) (laneWords (p.effectiveLane c.settings.lane))) := by
  obtain ⟨rfl, rfl⟩ := publishCall_eq made
  obtain ⟨b, hb, bound⟩ := base
  have normal :
      Lane.normalize (p.effectiveLane c.settings.lane) = p.effectiveLane c.settings.lane := by
    unfold Publication.effectiveLane
    split <;> exact Lane.normalize_normalize _
  rw [reaches_queue_iff declares hl, Publication.routingKey, ← bound, fits_routingKey_iff hl hb]
  refine and_congr_right fun _ => ?_
  have fits := fits_laneWords_iff lane (p.effectiveLane c.settings.lane)
  rwa [normal] at fits

/-- A client of a process in the lane that has a session. -/
def connected (lane : Option String) : Client :=
  { Client.new ⟨some "amqp://broker", lane, 10, .ofSeconds 1, defaultQueues⟩ with
    channel := some ⟨0, 1⟩ }

/-- A message for the queue `recall` of the lane that the publication names or the process is in. -/
def recalling (lane : Option String) : Publication :=
  ⟨"action.recall", .value .null, none, [], lane⟩

/-- The queue of a lane gets what a process of that lane publishes, and not what one in production
    does. -/
theorem reaches_lane_iff_feature : ∃ session key message, ∃ logical ∈ defaultQueues,
    (connected (some "feat-x")).publishCall (recalling none) =
        .ok (session, .publish mainExchange key message) ∧
      (Reaches ([none, some "feat-x"].flatMap fun lane => plan lane defaultQueues) mainExchange key
          (logical.spec (some "feat-x")).name ∧
        ¬ Reaches ([none, some "feat-x"].flatMap fun lane => plan lane defaultQueues) mainExchange
          key (logical.spec none).name) := by
  have base : ∃ b ∈ defaultQueues, b.routingKey = (recalling none).routingKeyBase :=
    ⟨⟨"recall", "action.recall"⟩, List.mem_cons_self, rfl⟩
  have made : (connected (some "feat-x")).publishCall (recalling none) = .ok (0,
      .publish mainExchange ((recalling none).routingKey (some "feat-x"))
        ((recalling none).message (Json.bytes .null))) := rfl
  refine ⟨_, _, _, ⟨"recall", "action.recall"⟩, List.mem_cons_self, made, ?_, ?_⟩
  · exact (reaches_lane_iff (by decide) List.mem_cons_self base made).2 ⟨rfl, .inl rfl⟩
  · intro reaches
    rcases ((reaches_lane_iff (by decide) List.mem_cons_self base made).1 reaches).2 with
      same | ⟨wild, -⟩
    · exact absurd same (by decide)
    · exact wild (by decide)

/-- The queue of the lane `#` gets what is published in production. -/
theorem wild_lane_receives_production : ∃ session message,
    (connected none).publishCall (recalling none) =
        .ok (session, .publish mainExchange "action.recall" message) ∧
      Lane.normalize (some "#") ≠ (recalling none).effectiveLane none ∧
        Reaches ([none, some "#"].flatMap fun lane => plan lane defaultQueues) mainExchange
          "action.recall" "recall_#" := by
  refine ⟨0, (recalling none).message (Json.bytes .null), rfl, by decide, ?_⟩
  have queue : (LogicalQueue.spec (some "#") ⟨"recall", "action.recall"⟩).name = "recall_#" := by
    decide
  rw [← queue, reaches_queue_iff (by decide) List.mem_cons_self, words_routingKey]
  have front : Plain (words "action.recall") := by decide
  exact (fits_append_iff front).2 ⟨[], (List.append_nil _).symm, .none .done⟩

/-! ## Isolated lanes -/

/-- Words hold no dots. -/
theorem not_mem_of_mem_splitOn {text : List Char} {word : Word} (mem : word ∈ text.splitOn '.') :
    '.' ∉ word := by
  induction text generalizing word with
  | nil =>
    rw [List.splitOn_nil, List.mem_singleton] at mem
    exact mem ▸ List.not_mem_nil
  | cons c rest ih =>
    obtain ⟨first, others, parts⟩ := List.exists_cons_of_ne_nil (List.splitOn_ne_nil '.' rest)
    rw [List.splitOn_cons_eq_if_modifyHead] at mem
    split at mem
    · rcases List.mem_cons.1 mem with rfl | mem
      · exact List.not_mem_nil
      · exact ih mem
    · next other =>
      rw [parts, List.modifyHead_cons] at mem
      rcases List.mem_cons.1 mem with rfl | mem
      · rw [List.mem_cons, not_or]
        exact ⟨fun dot => other (beq_iff_eq.2 dot.symm), ih (parts ▸ List.mem_cons_self)⟩
      · exact ih (parts ▸ List.mem_cons_of_mem _ mem)

/-- A plain word in place of one that stands for others. -/
def literal (word : Word) : Word := if word = Word.star ∨ word = Word.hash then ['x'] else word

theorem plain_literal (pattern : List Word) : Plain (pattern.map literal) := by
  intro word mem
  obtain ⟨of, -, rfl⟩ := List.mem_map.1 mem
  unfold literal
  split
  · decide
  · next plain => exact not_or.1 plain

theorem fits_literal (pattern : List Word) : Fits pattern (pattern.map literal) := by
  induction pattern with
  | nil => exact .done
  | cons word rest ih =>
    by_cases starred : word = Word.star
    · exact starred ▸ .one ih
    · by_cases hashed : word = Word.hash
      · exact hashed ▸ .more (.none ih)
      · have same : literal word = word := if_neg (not_or.2 ⟨starred, hashed⟩)
        rw [List.map_cons, same]
        exact .word ih

/-- Where the words of a lane stand for others, there is a lane with plain words in their place. -/
theorem exists_laneWords_literal {lane : Option String} (wild : ¬ Plain (laneWords lane)) :
    ∃ other, laneWords other = (laneWords lane).map literal := by
  have stands : ['x'] ∈ (laneWords lane).map literal := by
    refine Decidable.byContradiction fun missing => wild fun word mem => not_or.1 fun stands => ?_
    exact missing (List.mem_map.2 ⟨word, mem, if_pos stands⟩)
  have undotted : ∀ word ∈ (laneWords lane).map literal, '.' ∉ word := by
    intro word mem
    obtain ⟨of, held, rfl⟩ := List.mem_map.1 mem
    unfold literal
    split
    · decide
    · unfold laneWords at held
      split at held
      · exact not_mem_of_mem_splitOn held
      · exact nomatch held
  generalize (laneWords lane).map literal = filled at stands undotted
  have read : words (String.ofList (['.'].intercalate filled)) = filled := by
    rw [words, String.toList_ofList]
    exact List.splitOn_intercalate '.' undotted (List.ne_nil_of_mem stands)
  have feature : Lane.IsFeature (String.ofList (['.'].intercalate filled)) := by
    have other (name : String) (plain : ['x'] ∉ words name) :
        String.ofList (['.'].intercalate filled) ≠ name := by
      intro same
      rw [same] at read
      exact plain (read ▸ stands)
    exact ⟨other "" (by decide), other Lane.production (by decide)⟩
  refine ⟨some (String.ofList (['.'].intercalate filled)), ?_⟩
  rw [laneWords, Lane.normalize_some, if_pos feature]
  exact read

/-- The queues of a lane are isolated from all other lanes exactly when none of its words stands for
    others. -/
theorem isolated_iff_plain (declares : lane ∈ deployed) (hl : logical ∈ defaultQueues) :
    (∀ other, Reaches (deployed.flatMap fun lane => plan lane defaultQueues) mainExchange
        (Lane.routingKey logical.routingKey other) (logical.spec lane).name →
          Lane.normalize lane = Lane.normalize other) ↔
      Plain (laneWords lane) := by
  simp only [reaches_queue_iff declares hl, fits_routingKey_iff hl hl, true_and]
  constructor
  · intro isolated
    refine Decidable.byContradiction fun wild => ?_
    obtain ⟨other, filled⟩ := exists_laneWords_literal wild
    have same := laneWords_inj.2 (isolated other (filled ▸ fits_literal _))
    exact wild (same ▸ filled ▸ plain_literal _)
  · intro plain other fits
    exact laneWords_inj.1 ((fits_plain_iff plain).1 fits)

end Laneway.Broker
