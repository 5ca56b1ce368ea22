import Mathlib.Algebra.BigOperators.Intervals
import GpuTelemetry.Proofs.Output
import GpuTelemetry.Proofs.Sampling.Answers
import GpuTelemetry.Proofs.Session.Heads

/-!
# The rounds of an averaged reading

Each round of a reading makes one query and takes the latest sample of the answer, or has to stop
because there is none. The rounds from one on end in one of two ways (`Ended`): all of them are
served and their values summed, or the first that is not ends the reading.

Main statement: `Sampler.unfolds_total`, by which the loop of a reading in an open session ends like
that, with a pause between any two queries and nothing else done.
-/

namespace GpuTelemetry

variable {σ : Type}

/-! ## One round -/

/-- What a reading takes from an answer, or the fault in which it ends. -/
def Sampler.taken (metric : Metric) (index : Int) :
    Except Refusal (List Sample) → Except Fault Sample
  | .ok rows =>
    match Sample.latest? rows with
    | some sample => .ok sample
    | none => .error (.failed (.samplesEmpty metric index))
  | .error (.declined reason) => .error (.failed (.samplesFailed metric index reason))
  | .error other => .error (.refused other)

namespace Answers

variable {a : Answers} {metric : Metric} {index : Int} {j : Nat}

/-- Something is taken from the answers with rows, and from no other. -/
theorem taken_of_served (served : a.Served j) :
    Sampler.taken metric index (a j) = .ok (a.reading j) := by
  obtain ⟨rows, answered, some⟩ := served
  have found := Sample.latest?_eq_some_iff.mpr (isLatest_reading answered some)
  simp only [Sampler.taken, answered, found]

theorem served_of_taken {sample : Sample}
    (taken : Sampler.taken metric index (a j) = .ok sample) :
    a.Served j ∧ a.reading j = sample := by
  cases answered : a j with
  | error refusal =>
      rw [answered] at taken
      cases refusal <;> cases taken
  | ok rows =>
      simp only [Sampler.taken, answered] at taken
      split at taken
      · next r found =>
          cases taken
          refine ⟨⟨rows, answered, ?_⟩, reading_of_latest answered found⟩
          intro empty
          simp [empty, Sample.latest?] at found
      · cases taken

end Answers

/-- A request to a backend is one act, whatever notes the backend leaves. -/
theorem Backend.acts_ask (b : Backend σ) (session : Option SessionId)
    (request : Request) (t : Sessions σ) : (b.ask session request t).acts =
      [.call session b.id request (b.answer request t.backends).result.isOk] := by
  have silent : ((b.answer request t.backends).notes.map Event.note).filter (·.isAct) = [] := by
    simp [Event.isAct]
  exact congrArg (_ :: ·) silent

namespace Sampler

/-- The query of one round, as an event. -/
def query (s : Sampler σ) (device : Device) (metric : Metric) (cursor : Int) (answered : Bool) :
    Event :=
  .call (some s.session.id) s.session.backend.id (.samplesOf device.native metric cursor) answered

variable {s : Sampler σ} {device : Device} {metric : Metric} {t : Sessions σ}

/-- In an open session a round makes one query and depends on nothing but the answer. -/
theorem latest_apply (isOpen : t.phase s.session.id = .opened) (cursor : Int) :
    let reply := s.session.backend.answer (.samplesOf device.native metric cursor) t.backends
    let out := latest s.session.ask device metric cursor t
    out.result = taken metric device.index reply.result ∧
      out.state = { t with backends := reply.state } ∧
      out.acts = [s.query device metric cursor reply.result.isOk] := by
  intro reply out
  let request : Request := .samplesOf device.native metric cursor
  let ask := Run.orFail (s.session.ask request) (.samplesFailed metric device.index)
  have asked := Session.ask_of_opened isOpen request
  have result : (s.session.ask request t).result = reply.result.mapError .refused := by
    rw [asked]
    rfl
  have state : (ask t).state = { t with backends := reply.state } := by
    rw [(Run.orFail_apply _ _ t).1, asked]
    rfl
  have acts : (ask t).acts = [s.query device metric cursor reply.result.isOk] := by
    unfold Outcome.acts
    rw [(Run.orFail_apply _ _ t).2, asked]
    exact Backend.acts_ask ..
  show ((ask >>= _) t).result = _ ∧ ((ask >>= _) t).state = _ ∧ ((ask >>= _) t).acts = _
  rcases answer : reply.result with refusal | rows
  · rw [answer] at result acts
    have failed : ∃ f, (ask t).result = .error f ∧
        taken metric device.index (.error refusal) = .error f := by
      -- A refusal in words becomes the failure of the round, any other passes through it.
      cases refusal with
      | declined reason => exact ⟨_, Run.result_orFail_of_declined _ result, rfl⟩
      | _ => exact ⟨_, Run.result_orFail_of_other _ (fun _ same => by cases same) result, rfl⟩
    obtain ⟨f, failed, named⟩ := failed
    rw [Run.acts_bind_of_error _ failed, Run.bind_of_error _ failed, named]
    exact ⟨rfl, state, acts⟩
  · rw [answer] at result acts
    have given : (ask t).result = .ok rows := Run.result_orFail_of_ok _ result
    rw [Run.acts_bind_of_ok _ given, Run.bind_of_ok _ given, acts]
    -- No more is asked for: the rest of the round only looks at the rows.
    cases found : Sample.latest? rows with
    | none =>
        simp only [taken, found]
        exact ⟨rfl, state, rfl⟩
    | some sample =>
        simp only [taken, found]
        exact ⟨rfl, state, rfl⟩

/-! ## The rounds from one on -/

/-- How so many rounds end, from one on and with a sum, and after how many queries: with the sum of
what is taken, or at the first answer that nothing can be taken from. -/
inductive Ended (a : Answers) (metric : Metric) (index : Int) (j left : Nat) (sum : Int) :
    Nat → Except Fault Int → Prop
  | full (served : ∀ i, j ≤ i → i < j + left → a.Served i) :
      Ended a metric index j left sum left
        (.ok (sum + ∑ i ∈ Finset.Ico j (j + left), (a.reading i).value))
  | stopped (k : Nat) {fault : Fault} (within : k < left)
      (served : ∀ i, j ≤ i → i < j + k → a.Served i)
      (failed : taken metric index (a (j + k)) = .error fault) :
      Ended a metric index j left sum (k + 1) (.error fault)

/-- There is a query if and only if there is a round. -/
theorem Ended.pos_iff {a : Answers} {index : Int} {j left : Nat} {sum : Int} {asked : Nat}
    {result : Except Fault Int} (ended : Ended a metric index j left sum asked result) :
    0 < asked ↔ 0 < left := by
  cases ended with
  | full served => exact Iff.rfl
  | stopped k within served failed => omega

/-- A round that is served is followed by the others. -/
theorem Ended.next {a : Answers} {index : Int} {j left : Nat} {sum : Int} {asked : Nat}
    {result : Except Fault Int} (served : a.Served j)
    (rest : Ended a metric index (j + 1) left (sum + (a.reading j).value) asked result) :
    Ended a metric index j (left + 1) sum (asked + 1) result := by
  have behind : ∀ bound, (∀ i, j + 1 ≤ i → i < bound → a.Served i) →
      ∀ i, j ≤ i → i < bound → a.Served i := by
    intro bound others i start inside
    rcases Nat.eq_or_lt_of_le start with rfl | later
    · exact served
    · exact others i later inside
  cases rest with
  | full others =>
      have whole : j + 1 + left = j + (left + 1) := by omega
      rw [whole] at others ⊢
      have sums : sum + (a.reading j).value +
            ∑ i ∈ Finset.Ico (j + 1) (j + (left + 1)), (a.reading i).value =
          sum + ∑ i ∈ Finset.Ico j (j + (left + 1)), (a.reading i).value := by
        have first : j < j + (left + 1) := by omega
        rw [Finset.sum_eq_sum_Ico_succ_bot first, add_assoc]
      -- The value of this round moves from the sum so far to the front of the sum to come.
      rw [sums]
      exact .full (behind _ others)
  | stopped k within others failed =>
      have place : j + 1 + k = j + (k + 1) := by omega
      rw [place] at others failed
      exact .stopped (k + 1) (by omega) (behind _ others) failed

/-- The acts of so many rounds, from one on: a query each, and a pause between any two. -/
def rounds (s : Sampler σ) (device : Device) (metric : Metric) (window : Window) (a : Answers)
    (j asked : Nat) : List Event :=
  ((List.range' j asked).map fun i =>
    s.query device metric (a.since s.advance i) (a i).isOk).intersperse (.pause window.delay)

/-- The state before a round: nothing but the backends has changed since the reading began. -/
def stateAt (s : Sampler σ) (device : Device) (metric : Metric) (t : Sessions σ) (a : Answers)
    (j : Nat) : Sessions σ :=
  { t with
    backends :=
      s.session.backend.stateAt device.native metric (a.since s.advance) t.backends j }

variable {a : Answers} {window : Window}

/-- A round is served or ends the reading, by its answer. -/
theorem latest_stateAt (isOpen : t.phase s.session.id = .opened)
    (given : s.session.backend.Gives device.native metric s.advance t.backends a) (j : Nat) :
    let out := latest s.session.ask device metric (a.since s.advance j)
      (s.stateAt device metric t a j)
    out.result = taken metric device.index (a j) ∧
      out.state = s.stateAt device metric t a (j + 1) ∧
      out.acts = [s.query device metric (a.since s.advance j) (a j).isOk] := by
  intro out
  have opened : (s.stateAt device metric t a j).phase s.session.id = .opened := isOpen
  obtain ⟨result, state, acts⟩ := latest_apply opened (a.since s.advance j)
  exact ⟨given j ▸ result, state, given j ▸ acts⟩

/-- What comes behind the note of a round: a pause if a round is still to come, and the others. -/
theorem noted_apply (window : Window) (n : Note) (left : Nat) (next : Run (Sessions σ) Int)
    (u : Sessions σ) :
    let out := (Run.note n >>= fun _ => pauseBefore window left >>= fun _ => next) u
    out.result = (next u).result ∧ out.state = (next u).state ∧
      out.acts = List.replicate (min 1 left) (.pause window.delay) ++ (next u).acts := by
  intro out
  -- A note is neither a result nor an act.
  have quiet : out.Alike ((pauseBefore window left >>= fun _ => next) u) :=
    Run.alike_bind rfl rfl rfl rfl (.refl _)
  rw [quiet.result, quiet.state, quiet.acts]
  cases left with
  | zero =>
      have last : (pauseBefore window 0 >>= fun _ => next) = next := pure_bind _ _
      rw [last]
      exact ⟨rfl, rfl, rfl⟩
  | succ left =>
      have one : min 1 (left + 1) = 1 := by omega
      rw [one, Run.acts_bind_of_ok (a := ()) _ rfl, Run.bind_of_ok (a := ()) _ rfl]
      exact ⟨rfl, rfl, rfl⟩

/-- A query is followed by a pause exactly if another one comes behind it. -/
theorem rounds_succ (s : Sampler σ) (j : Nat) {asked left : Nat} (both : 0 < asked ↔ 0 < left) :
    s.rounds device metric window a j (asked + 1) =
      s.query device metric (a.since s.advance j) (a j).isOk ::
        (List.replicate (min 1 left) (.pause window.delay) ++
          s.rounds device metric window a (j + 1) asked) := by
  unfold rounds
  rw [List.range'_succ, List.map_cons]
  cases asked with
  | zero =>
      have none : left = 0 := by omega
      simp [none]
  | succ asked =>
      have one : min 1 left = 1 := by omega
      rw [one, List.range'_succ, List.map_cons]
      rfl

/-- The calls of the rounds are their queries. -/
theorem calls_rounds (s : Sampler σ) (j asked : Nat) :
    callsOf (s.rounds device metric window a j asked) = (List.range' j asked).map fun i =>
      s.session.call (.samplesOf device.native metric (a.since s.advance i)) (a i).isOk := by
  induction asked generalizing j with
  | zero => rfl
  | succ asked ih =>
      have pauses : ∀ n, callsOf (List.replicate n (.pause window.delay)) = [] := by
        intro n
        simp [callsOf, Event.call?]
      rw [rounds_succ s j Iff.rfl, List.range'_succ, List.map_cons, ← ih (j + 1)]
      show _ :: callsOf (List.replicate _ _ ++ _) = _
      rw [callsOf_append, pauses]
      rfl

/-- How so many rounds go in an open session, from one on and with a sum: they end like their
answers, make one query for each of them, pause between any two, and do nothing else. -/
structure Unfolds (s : Sampler σ) (device : Device) (metric : Metric) (window : Window)
    (t : Sessions σ) (a : Answers) (j left : Nat) (sum : Int) (asked : Nat)
    (out : Outcome (Sessions σ) Int) : Prop where
  ended : Ended a metric device.index j left sum asked out.result
  acts : out.acts = s.rounds device metric window a j asked
  state : out.state = s.stateAt device metric t a (j + asked)

section Steps

variable (isOpen : t.phase s.session.id = .opened)
  (given : s.session.backend.Gives device.native metric s.advance t.backends a)
include isOpen given

/-- A round that nothing can be taken from is the last. -/
theorem unfolds_of_stopped (j left : Nat) (sum : Int) {fault : Fault}
    (failed : taken metric device.index (a j) = .error fault) :
    Unfolds s device metric window t a j (left + 1) sum 1
      (s.total s.session.ask device metric window (left + 1) (a.since s.advance j) sum
        (s.stateAt device metric t a j)) := by
  obtain ⟨result, state, acts⟩ := latest_stateAt isOpen given j
  rw [failed] at result
  unfold total
  refine ⟨?_, ?_, ?_⟩
  · rw [Run.bind_of_error _ result]
    exact .stopped 0 (by omega) (fun i start inside => by omega) failed
  · rw [Run.acts_bind_of_error _ result]
    exact acts
  · rw [Run.bind_of_error _ result]
    exact state

/-- A round that is served is followed by the others, since what it leaves. -/
theorem unfolds_of_served (j left : Nat) (sum : Int) (served : a.Served j) {asked : Nat}
    (rest : Unfolds s device metric window t a (j + 1) left (sum + (a.reading j).value) asked
      (s.total s.session.ask device metric window left (a.since s.advance (j + 1))
        (sum + (a.reading j).value) (s.stateAt device metric t a (j + 1)))) :
    Unfolds s device metric window t a j (left + 1) sum (asked + 1)
      (s.total s.session.ask device metric window (left + 1) (a.since s.advance j) sum
        (s.stateAt device metric t a j)) := by
  obtain ⟨result, state, acts⟩ := latest_stateAt isOpen given j
  rw [Answers.taken_of_served served] at result
  rw [Answers.since_succ] at rest
  obtain ⟨ending, going, later⟩ := noted_apply window
    (.sampled device.index metric (window.count - left) window.count (a.reading j).value) left
    (s.total s.session.ask device metric window left
      (if s.advance then (a.reading j).timestamp else a.since s.advance j)
      (sum + (a.reading j).value)) (s.stateAt device metric t a (j + 1))
  unfold total
  refine ⟨?_, ?_, ?_⟩
  · rw [Run.bind_of_ok _ result, state]
    -- Behind the note and the pause the rest goes on from the state that the query left.
    exact ending ▸ rest.ended.next served
  · rw [Run.acts_bind_of_ok _ result, state, acts, rounds_succ s j rest.ended.pos_iff,
      ← rest.acts]
    exact congrArg (_ :: ·) later
  · rw [Run.bind_of_ok _ result, state]
    have place : j + (asked + 1) = j + 1 + asked := by omega
    rw [place, ← rest.state]
    exact going

/-- The loop of a reading, from any round on. -/
theorem unfolds_total (left : Nat) : ∀ j sum, ∃ asked,
    Unfolds s device metric window t a j left sum asked
      (s.total s.session.ask device metric window left (a.since s.advance j) sum
        (s.stateAt device metric t a j)) := by
  -- By induction on the rounds that are left; the cursor is always what the answers say.
  induction left with
  | zero =>
      intro j sum
      refine ⟨0, ?_, rfl, rfl⟩
      have full : Ended a metric device.index j 0 sum 0 _ := .full fun i start inside => by omega
      simp only [Nat.add_zero, Finset.Ico_self, Finset.sum_empty, Int.add_zero] at full
      exact full
  | succ left ih =>
      intro j sum
      rcases answer : taken metric device.index (a j) with fault | sample
      · exact ⟨1, unfolds_of_stopped isOpen given j left sum answer⟩
      · obtain ⟨served, _⟩ := Answers.served_of_taken answer
        obtain ⟨asked, rest⟩ := ih (j + 1) (sum + (a.reading j).value)
        exact ⟨asked + 1, unfolds_of_served isOpen given j left sum served rest⟩

/-- A reading in an open session: it ends like its answers, the sum divided by the number of samples
and rounded down, and changes nothing but the state behind the backend. -/
theorem average_apply (window : Window) (sampled : metric.averaged = true) :
    ∃ asked result, Ended a metric device.index 0 window.count 0 asked result ∧
      (s.average device metric window t).result = result.map (Int.fdiv · window.count) ∧
      (s.average device metric window t).acts = s.rounds device metric window a 0 asked ∧
      (s.average device metric window t).state = s.stateAt device metric t a asked := by
  have loop : ∃ asked, Unfolds s device metric window t a 0 window.count 0 asked
      (s.total s.session.ask device metric window window.count 0 0 t) :=
    unfolds_total isOpen given window.count 0 0
  obtain ⟨asked, ended, acts, state⟩ := loop
  rw [Nat.zero_add] at state
  rw [average_eq_asks, if_pos sampled]
  rcases total : (s.total s.session.ask device metric window window.count 0 0 t).result with f | sum
  · refine ⟨asked, .error f, total ▸ ended, ?_⟩
    rw [Run.acts_bind_of_error _ total, Run.bind_of_error _ total]
    exact ⟨rfl, acts, state⟩
  · refine ⟨asked, .ok sum, total ▸ ended, ?_⟩
    rw [Run.acts_bind_of_ok _ total, Run.bind_of_ok _ total]
    exact ⟨rfl, (List.append_nil _).trans acts, state⟩

end Steps

/-! ## How a whole reading ends -/

namespace Ended

variable {a : Answers} {index : Int} {left asked : Nat} {result : Except Fault Int}
  (ended : Ended a metric index 0 left 0 asked result)
include ended

/-- All answers but the last one asked for are served. -/
theorem served {j : Nat} (early : j + 1 < asked) : a.Served j := by
  cases ended with
  | full served => exact served j (by omega) (by omega)
  | stopped k within served failed => exact served j (by omega) (by omega)

theorem of_ok {sum : Int} (gave : result = .ok sum) :
    asked = left ∧ (∀ j < left, a.Served j) ∧
      sum = ∑ j ∈ Finset.range left, (a.reading j).value := by
  cases ended with
  | full served =>
      cases gave
      refine ⟨rfl, fun j inside => served j (by omega) (by omega), ?_⟩
      simp
  | stopped k within served failed => cases gave

/-- A reading whose answers are all served gives their sum. -/
theorem of_served (all : ∀ j < left, a.Served j) :
    asked = left ∧ result = .ok (∑ j ∈ Finset.range left, (a.reading j).value) := by
  cases ended with
  | full served =>
      refine ⟨rfl, ?_⟩
      simp
  | stopped k within served failed =>
      have taken : taken metric index (a k) = .ok (a.reading k) :=
        Answers.taken_of_served (all k within)
      rw [Nat.zero_add, taken] at failed
      cases failed

/-- A reading ends at the first answer that nothing can be taken from. -/
theorem of_failed {k : Nat} {fault : Fault} (within : k < left) (early : ∀ j < k, a.Served j)
    (failed : taken metric index (a k) = .error fault) :
    asked = k + 1 ∧ result = .error fault := by
  have unserved : ¬ a.Served k := by
    intro served
    rw [Answers.taken_of_served served] at failed
    cases failed
  cases ended with
  | full served => exact absurd (served k (by omega) (by omega)) unserved
  | stopped k' within' early' failed' =>
      rw [Nat.zero_add] at early' failed'
      rcases Nat.lt_trichotomy k k' with before | rfl | behind
      · -- The reading did not get past an answer that is not served, nor did it stop before one
        -- that is.
        exact absurd (early' k (by omega) before) unserved
      · rw [failed] at failed'
        cases failed'
        exact ⟨rfl, rfl⟩
      · rw [Answers.taken_of_served (early k' behind)] at failed'
        cases failed'

end Ended

end Sampler

end GpuTelemetry
