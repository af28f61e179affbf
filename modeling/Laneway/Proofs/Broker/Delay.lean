import Laneway.Proofs.Broker.Declarations
import Laneway.Proofs.Json.Members

set_option autoImplicit false

/-! # What holds a message back

The exchange holds a message back for as long as its delay header asks. The header is meant to follow
from the delay of a publication and from nothing else. It does so where there is a delay, whatever
headers come with it; without one they go out as they are, and a delay header among them asks for a
delay that the publication does not have. -/

namespace Laneway

/-- The value that asks for this delay: its whole milliseconds, as far as 64 bits go. -/
def Duration.Asks (delay : Duration) (value : Json) : Prop :=
  ∃ n, value = .num (.whole n) ∧ n.val = min (delay.nanoseconds / 1000000) 0xffffffffffffffff

namespace Broker

variable {c : Client} {p : Publication} {session : SessionId} {body : List UInt8}

theorem asks_delayValue (delay : Duration) : delay.Asks (delayValue delay) :=
  ⟨_, rfl, by simp [Duration.milliseconds]⟩

theorem eq_delayValue_of_asks {delay : Duration} {value : Json} (asks : delay.Asks value) :
    value = delayValue delay := by
  obtain ⟨n, rfl, same⟩ := asks
  obtain ⟨m, written, same'⟩ := asks_delayValue delay
  obtain rfl : n = m := by
    cases n
    cases m
    simpa using same.trans same'.symm
  exact written.symm

namespace Publication

/-- The delay of the publication alone decides on the delay header, and all other headers are its
    own. -/
structure Governs (p : Publication) (headers : Headers) : Prop where
  delayed : ∀ value, headers.lookup delayHeader = some value ↔
    ∃ delay, p.delay = some delay ∧ delay.Asks value
  others : ∀ name, name ≠ delayHeader → headers.lookup name = p.headers.lookup name

theorem lookup_outboundHeaders (p : Publication) (name : String) :
    p.outboundHeaders.lookup name =
      if name = delayHeader then (p.delay.map delayValue).or (p.headers.lookup delayHeader)
      else p.headers.lookup name := by
  cases given : p.delay with
  | none =>
    simp only [outboundHeaders, given, Option.map_none, Option.none_or]
    split
    · next same => rw [same]
    · rfl
  | some delay =>
    simp only [outboundHeaders, given, Json.lookup_insertMember, Option.map_some, Option.some_or]

theorem sorted_outboundHeaders (sorted : Json.Sorted p.headers) :
    Json.Sorted p.outboundHeaders := by
  unfold outboundHeaders
  cases p.delay with
  | none => exact sorted
  | some delay => exact sorted.insertMember _ _

/-- A delay decides on its header, whatever headers come with it. -/
theorem governs_of_delay {delay : Duration} (given : p.delay = some delay) :
    p.Governs p.outboundHeaders where
  delayed value := by
    rw [lookup_outboundHeaders, if_pos rfl, given]
    constructor
    · rintro ⟨⟩
      exact ⟨delay, rfl, asks_delayValue delay⟩
    · rintro ⟨_, ⟨⟩, asks⟩
      exact congrArg some (eq_delayValue_of_asks asks).symm
  others name other := by rw [lookup_outboundHeaders, if_neg other]

/-- Without a delay there may not be a delay header among the headers. -/
theorem governs_iff_of_no_delay (missing : p.delay = none) :
    p.Governs p.outboundHeaders ↔ p.headers.lookup delayHeader = none := by
  have same : p.outboundHeaders = p.headers := by rw [outboundHeaders, missing]
  rw [same]
  constructor
  · intro governs
    refine Option.eq_none_iff_forall_ne_some.2 fun value found => ?_
    obtain ⟨delay, given, -⟩ := (governs.delayed value).1 found
    exact nomatch missing.symm.trans given
  · intro unheld
    refine ⟨fun value => ?_, fun _ _ => rfl⟩
    simp [unheld, missing]

end Publication

/-- Whatever is published goes to the transport with its delay header governed by its delay exactly
    when it has a delay or brings no delay header itself. All other headers are its own, sorted as
    before; and those of a publication without delay go out as they are, with the delay header that
    may be among them. -/
theorem delay_alone_decides_iff (installed : c.session = .ok session)
    (encodes : p.body.encode = .ok body) : ∃ message : Message,
      (∀ now id, c.begin now id (.publish p) =
        c.call session (.publish mainExchange (p.routingKey c.settings.lane) message) .passed) ∧
      (∀ now delivery next, c.handle now delivery (.publish p next) =
        c.call session (.publish mainExchange (p.routingKey c.settings.lane) message)
          (.handled delivery next)) ∧
      (p.Governs message.headers ↔ p.delay.isSome ∨ p.headers.lookup delayHeader = none) ∧
      (∀ name, name ≠ delayHeader → message.headers.lookup name = p.headers.lookup name) ∧
      (Json.Sorted p.headers → Json.Sorted message.headers) ∧
      (p.delay = none → message.headers = p.headers) := by
  have made := publishCall_of_session installed encodes
  refine ⟨p.message body, fun now id => ?_, fun now delivery next => ?_, ?_, ?_,
    Publication.sorted_outboundHeaders, fun missing => ?_⟩
  · simp only [Client.begin, made]
  · simp only [Client.handle, made]
  · cases given : p.delay with
    | none => simpa [Publication.message] using Publication.governs_iff_of_no_delay given
    | some delay => simpa [Publication.message] using Publication.governs_of_delay given
  · intro name other
    exact (p.lookup_outboundHeaders name).trans (if_neg other)
  · show p.outboundHeaders = p.headers
    rw [Publication.outboundHeaders, missing]

/-- A message for the queue `recall` that brings a delay header of five milliseconds. -/
def holdingBack (delay : Option Duration) : Publication :=
  ⟨"action.recall", .value (.obj []), delay, [(delayHeader, Json.ofNat 5)], none⟩

/-- The first delay whose milliseconds have more than 64 bits. -/
def wideDelay : Duration := .ofMilliseconds 0x10000000000000000

/-- A delay comes over the header and is cut to 64 bits. -/
theorem delay_alone_decides_iff_saturated : ∃ message : Message,
    (connected none).begin ⟨0⟩ 0 (.publish (holdingBack (some wideDelay))) =
        (connected none).call 0 (.publish mainExchange "action.recall" message) .passed ∧
      message.headers.lookup delayHeader = some (Json.ofNat 0xFFFFFFFFFFFFFFFF) := by
  obtain ⟨message, begins, -, decides, -⟩ :=
    @delay_alone_decides_iff (connected none) (holdingBack (some wideDelay)) 0 _ rfl rfl
  refine ⟨message, begins _ _, ?_⟩
  exact ((decides.2 (.inl rfl)).delayed _).2 ⟨_, rfl, _, rfl, by decide⟩

/-- Without a delay the header goes to the transport as it is. -/
theorem delayed_without_delay : ∃ message : Message,
    (connected none).begin ⟨0⟩ 0 (.publish (holdingBack none)) =
        (connected none).call 0 (.publish mainExchange "action.recall" message) .passed ∧
      message.headers.lookup delayHeader = some (Json.ofNat 5) ∧
      ¬ (holdingBack none).Governs message.headers := by
  refine ⟨(holdingBack none).message (Json.bytes (.obj [])), rfl, rfl, fun governs => ?_⟩
  obtain ⟨delay, given, -⟩ := (governs.delayed (Json.ofNat 5)).1 rfl
  exact nomatch given

end Broker

end Laneway
