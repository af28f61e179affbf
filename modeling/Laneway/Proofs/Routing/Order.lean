import Laneway.Entries
import Laneway.Proofs.Routing.Replacement

set_option autoImplicit false

/-! # The order of the tables

The answer of a fetch holds the table that is current when the registry answers. Tables are put in
place in the order in which fetches end, and nothing compares them: of two fetches under way at once
the one that was answered first can end last, and the older table then replaces the newer one. While
fetches keep apart the tables come in the order in which they were served. The loop has at most one
fetch of its own under way, so it is the fetches of callers that have to keep apart. -/

namespace Laneway.Routing.Polling

/-- The fetch that is answered in the moment. -/
def Moment.serves? (m : Moment) : Option FetchId :=
  match m.move with
  | .answer id _ => some id
  | _ => none

/-- The fetch whose table is put in place in the moment. -/
def Moment.adopts? (m : Moment) : Option FetchId :=
  match m.event with
  | .refreshed id true => some id
  | _ => none

/-- The fetches in the order in which they were answered. -/
def served (history : List Moment) : List FetchId := history.filterMap Moment.serves?

/-- The fetches whose tables were put in place, in this order. -/
def adopted (history : List Moment) : List FetchId := history.filterMap Moment.adopts?

/-- A caller begins no fetch in the moment while one is under way, and the loop none while one of a
    caller is. -/
def Moment.KeepsApart (m : Moment) : Prop :=
  match m.move with
  | .refresh => m.before.fetches = []
  | .tick => ∀ f ∈ m.before.fetches, f.2.origin = .loop
  | _ => True

/-- While a fetch of the loop is under way, the loop waits for it. -/
def Attended (p : Polling) : Prop :=
  ∀ f ∈ p.fetches, f.2.origin = .loop → ∃ next, p.loop = .fetching next

/-- The tables have come in order, and at most one fetch is under way; if it has been answered, then
    as the last one. -/
inductive InOrder (history : List Moment) : List (FetchId × Fetch) → Prop
  | idle (ordered : (adopted history).Sublist (served history)) : InOrder history []
  | asked {id : FetchId} {origin : Origin}
      (ordered : (adopted history).Sublist (served history)) :
      InOrder history [(id, ⟨origin, none⟩)]
  | answered {id : FetchId} {origin : Origin} {answer : Except Http.Failure Http.Response}
      {earlier : List FetchId} (last : served history = earlier ++ [id])
      (ordered : (adopted history).Sublist earlier) :
      InOrder history [(id, ⟨origin, some answer⟩)]

variable {first p p' : Polling} {history : List Moment} {m : Moment} {move : Move} {event : Event}
  {fetches : List (FetchId × Fetch)}

theorem served_concat : served (history ++ [m]) = served history ++ m.serves?.toList := by
  cases h : m.serves? <;> simp [served, h]

theorem adopted_concat : adopted (history ++ [m]) = adopted history ++ m.adopts?.toList := by
  cases h : m.adopts? <;> simp [adopted, h]

theorem InOrder.sublist (h : InOrder history fetches) :
    (adopted history).Sublist (served history) := by
  cases h with
  | idle ordered | asked ordered => exact ordered
  | answered last ordered => exact last ▸ ordered.trans (List.sublist_append_left _ _)

theorem InOrder.concat (h : InOrder history fetches) (serves : m.serves? = none)
    (adopts : m.adopts? = none) : InOrder (history ++ [m]) fetches := by
  have served : served (history ++ [m]) = served history := by simp [served_concat, serves]
  have adopted : adopted (history ++ [m]) = adopted history := by simp [adopted_concat, adopts]
  cases h with
  | idle ordered => exact .idle (by rwa [served, adopted])
  | asked ordered => exact .asked (by rwa [served, adopted])
  | answered last ordered => exact .answered (served.trans last) (by rwa [adopted])

/-- The fetch that is found is the only one. -/
theorem InOrder.eq_singleton (h : InOrder history fetches) {id : FetchId} {fetch : Fetch}
    (found : fetches.lookup id = some fetch) : fetches = [(id, fetch)] := by
  cases h with
  | idle => exact nomatch found
  | @asked other | @answered other =>
    rw [List.lookup_cons] at found
    split at found
    · next same =>
      rw [eq_of_beq same, Option.some.inj found]
    · exact nomatch found

/-- A move that takes in no answer and begins no fetch leaves the loop attending to its own. -/
theorem Attended.of_loop (attended : p.Attended) (same : p'.fetches = p.fetches)
    (loop : p'.loop = p.loop ∨ ∀ next, p.loop ≠ .fetching next) : p'.Attended := by
  intro f hf own
  obtain ⟨next, fetching⟩ := attended f (same ▸ hf) own
  rcases loop with kept | busy
  · exact ⟨next, kept.trans fetching⟩
  · exact absurd fetching (busy next)

/-- A fetch begins while none is under way. -/
theorem begun_inOrder {origin : Origin} {loop : Loop} (none : p.fetches = [])
    (inOrder : InOrder history p.fetches) (serves : m.serves? = .none) (adopts : m.adopts? = .none)
    (attending : origin = .loop → ∃ next, loop = .fetching next) :
    InOrder (history ++ [m]) (p.fetch origin).fetches ∧
      Attended { p.fetch origin with loop := loop } := by
  have one : (p.fetch origin).fetches = [(p.nextFetch, ⟨origin, .none⟩)] := by
    simp [fetch, none]
  refine ⟨?_, ?_⟩
  · rw [one]
    exact .asked (inOrder.concat serves adopts).sublist
  · intro f hf own
    have hf : f ∈ (p.fetch origin).fetches := hf
    rw [one, List.mem_singleton] at hf
    subst hf
    exact attending own

theorem Change.inOrder (change : p.Change move p' event)
    (apart : Moment.KeepsApart ⟨p, move, event⟩) (inOrder : InOrder history p.fetches)
    (attended : p.Attended) :
    InOrder (history ++ [⟨p, move, event⟩]) p'.fetches ∧ p'.Attended := by
  cases change with
  | begins idle | overruns idle =>
    exact ⟨inOrder.concat rfl rfl, attended.of_loop rfl (.inr fun _ h => nomatch idle.symm.trans h)⟩
  | fails waiting | finishes waiting =>
    exact ⟨inOrder.concat rfl rfl,
      attended.of_loop rfl (.inr fun _ h => nomatch waiting.symm.trans h)⟩
  | refuses | stops | advances =>
    exact ⟨inOrder.concat rfl rfl, attended.of_loop rfl (.inl rfl)⟩
  | asks known =>
    have none : p.fetches = [] := apart
    exact begun_inOrder none inOrder rfl rfl fun own => absurd own (by decide)
  | ticks waiting reached shown =>
    have none : p.fetches = [] := by
      refine List.eq_nil_iff_forall_not_mem.2 fun f hf => ?_
      obtain ⟨_, fetching⟩ := attended f hf (apart f hf)
      exact nomatch waiting.symm.trans fetching
    exact begun_inOrder none inOrder rfl rfl fun _ => ⟨_, rfl⟩
  | @answers id origin answer found =>
    have one := inOrder.eq_singleton found
    have now : (p.answering id origin answer).fetches = [(id, ⟨origin, some answer⟩)] := by
      simp [answering, one]
    refine ⟨?_, ?_⟩
    · rw [now]
      refine .answered served_concat ?_
      simpa [adopted_concat, Moment.adopts?] using inOrder.sublist
    · intro f hf own
      rw [now, List.mem_singleton] at hf
      subst hf
      exact attended (id, ⟨origin, none⟩) (one ▸ List.mem_singleton_self _) own
  | @takes id origin answer found =>
    have one := inOrder.eq_singleton found
    have now : (p.taking id origin answer).fetches = [] := by simp [taking, one]
    refine ⟨?_, ?_⟩
    · rw [now]
      rw [one] at inOrder
      cases inOrder with
      | answered last ordered =>
        refine .idle ?_
        rw [served_concat, adopted_concat, last]
        cases (adopt p.topology answer).2 with
        | true => simpa [Moment.serves?, Moment.adopts?] using ordered
        | false =>
          simpa [Moment.serves?, Moment.adopts?] using
            ordered.trans (List.sublist_append_left _ _)
    · intro f hf
      rw [now] at hf
      exact absurd hf List.not_mem_nil

/-- While callers keep their fetches apart from all others, the tables come in the order in which
    they were served. -/
theorem Run.adopted_sublist_served (run : Run first history p) (idle : first.fetches = [])
    (apart : ∀ m ∈ history, m.KeepsApart) : (adopted history).Sublist (served history) := by
  have inOrder : InOrder history p.fetches ∧ p.Attended := by
    induction run with
    | start =>
      rw [Attended, idle]
      exact ⟨.idle (.refl _), fun _ hf => nomatch hf⟩
    | next run step ih =>
      obtain ⟨inOrder, attended⟩ := ih fun m hm => apart m (List.mem_append_left _ hm)
      exact (change_of_step step).inOrder (apart _ (by simp)) inOrder attended
  exact inOrder.1.sublist

/-- Which of two fetches was answered first does not matter: the table of the one that ends last
    stays. -/
theorem topology_of_overlap {a b : FetchId} {origin other : Origin} {old new : Topology}
    {answer latest : Except Http.Failure Http.Response} (apart : a ≠ b)
    (found : p.fetches.lookup a = some ⟨origin, some answer⟩)
    (foundLatest : p.fetches.lookup b = some ⟨other, some latest⟩)
    (serves : Serves answer old) (servesLatest : Serves latest new) :
    ∃ between last, p.step (.complete b) = some (between, .refreshed b true) ∧
      between.topology = new ∧ between.step (.complete a) = some (last, .refreshed a true) ∧
      last.topology = old := by
  have stays : (p.taking b other latest).fetches.lookup a = some ⟨origin, some answer⟩ := by
    rw [taking, lookup_filter_ne, if_neg apart, found]
  refine ⟨p.taking b other latest, (p.taking b other latest).taking a origin answer, ?_, ?_, ?_, ?_⟩
  · rw [step_complete foundLatest, adopt_of_serves servesLatest]
  · rw [taking, adopt_of_serves servesLatest]
  · rw [step_complete stays, adopt_of_serves serves]
  · rw [taking, adopt_of_serves serves]

/-- Of two fetches the one answered first ends last. The registry has dropped its only service in
    between, and the router goes back to the table that still has it. -/
theorem goes_back_of_overlap : ∃ history p p',
    Run (.new (.ofUrl "http://registry:8080/") (.ofSeconds 30) .start) history p ∧
      p.topology = ∅ ∧ p.step (.complete 0) = some (p', .refreshed 0 true) ∧
      p'.topology = webTable ∧
      served (history ++ [⟨p, .complete 0, .refreshed 0 true⟩]) = [0, 1] ∧
      adopted (history ++ [⟨p, .complete 0, .refreshed 0 true⟩]) = [1, 0] := by
  have older := @Run.next (.new (.ofUrl "http://registry:8080/") (.ofSeconds 30) .start) _ _ _
    .refresh _ .start rfl
  have newer := @Run.next _ _ _ _ .refresh _ older rfl
  have first := @Run.next _ _ _ _ (.answer 0 (.ok webAnswer)) _ newer rfl
  have second := @Run.next _ _ _ _ (.answer 1 (.ok ⟨200, utf8 "\x7b\x7d"⟩)) _ first rfl
  have run := @Run.next _ _ _ _ (.complete 1) _ second rfl
  exact ⟨_, _, _, run, rfl, rfl, rfl, rfl, rfl⟩

end Laneway.Routing.Polling
