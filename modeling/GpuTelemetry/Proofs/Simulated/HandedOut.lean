import Mathlib.Control.Monad.Basic
import GpuTelemetry.Proofs.Simulated

/-!
# The values that are handed out

Simulated devices that stay the same are used in some order: something is asked of them, a failure
is injected, all failures are mended (`Use`). The requests for samples among this and what they were
answered are the `Exchange`s. A position in a list of values is the number of exchanges served
before for the same place and metric, and no sample is ahead of the clock (`Accounts`). What a place
is answered for a metric depends on the uses that concern the two alone (`seen_filter`).

Main statement: `values_in_order`.
-/

namespace GpuTelemetry.Simulated

/-! ## Histories of use -/

/-- What simulated devices go through while they stay the same. -/
inductive Use where
  | ask (request : Request)
  | inject (operation : Operation) (failure : Injected)
  | mend

/-- A request for samples and what it was answered. -/
structure Exchange where
  native : Native
  metric : Metric
  result : Except Refusal (List Sample)

namespace Exchange

/-- Samples of a metric are asked for at a place, whether there is a device or not. -/
def about (place : Int) (metric : Metric) (e : Exchange) : Bool :=
  e.native.value.place? == some place && e.metric == metric

/-- Samples of a metric are asked for at a place and no failure or missing device prevents it. -/
def serves (place : Int) (metric : Metric) (e : Exchange) : Bool :=
  e.about place metric && e.result.isOk

def samples (e : Exchange) : List Sample :=
  match e.result with
  | .ok samples => samples
  | .error _ => []

/-- What was answered, without the times. -/
def values (e : Exchange) : Except Refusal (List Int) :=
  e.result.map (·.map (·.value))

theorem about_iff {place : Int} {metric : Metric} {e : Exchange} :
    e.about place metric = true ↔ e.native.value.place? = some place ∧ e.metric = metric := by
  simp [about]

theorem serves_iff {place : Int} {metric : Metric} {e : Exchange} :
    e.serves place metric = true ↔
      (e.native.value.place? = some place ∧ e.metric = metric) ∧ e.result.isOk = true := by
  simp [serves, about_iff]

end Exchange

namespace Use

def apply : Use → Simulated → Simulated
  | ask request, s => (answer request s).state
  | inject operation failure, s => s.inject operation failure
  | mend, s => s.mend

/-- The exchange that a use is, if it is a request for samples. -/
def exchanges (s : Simulated) : Use → List Exchange
  | ask (.samplesOf native metric since) =>
    [⟨native, metric, (answer (.samplesOf native metric since) s).result⟩]
  | _ => []

/-- A use that may matter to what a place is answered for a metric: a request for it, or a change of
the failures in force. -/
def concerns (place : Int) (metric : Metric) : Use → Bool
  | ask (.samplesOf native asked _) => native.value.place? == some place && asked == metric
  | ask _ => false
  | inject .. | mend => true

end Use

/-- The state after so many uses, in order. -/
def after : List Use → Simulated → Simulated
  | [], s => s
  | use :: rest, s => after rest (use.apply s)

/-- The exchanges among so many uses, in order. -/
def exchanges : List Use → Simulated → List Exchange
  | [], _ => []
  | use :: rest, s => use.exchanges s ++ exchanges rest (use.apply s)

/-- What a place has been answered for a metric, values and refusals in order. -/
def seen (place : Int) (metric : Metric) (given : List Exchange) :
    List (Except Refusal (List Int)) :=
  (given.filter (·.about place metric)).map (·.values)

variable {place : Int} {metric : Metric} {s t : Simulated}

theorem devices_apply (use : Use) (s : Simulated) : (use.apply s).devices = s.devices := by
  cases use with
  | ask request => exact devices_answer request s
  | inject operation failure => rfl
  | mend => rfl

theorem devices_after (history : List Use) (s : Simulated) :
    (after history s).devices = s.devices := by
  induction history generalizing s with
  | nil => rfl
  | cons use rest ih => exact (ih (use.apply s)).trans (devices_apply use s)

/-- A use that is no request for samples makes no exchange and leaves clock and positions alone. -/
theorem silent_of_other {use : Use}
    (other : ∀ native metric since, use ≠ .ask (.samplesOf native metric since)) (s : Simulated) :
    use.exchanges s = [] ∧ (use.apply s).handedOut = s.handedOut ∧
      (use.apply s).time = s.time := by
  cases use with
  | ask request =>
      have plain : ∀ native metric since, request ≠ .samplesOf native metric since := by
        rintro native metric since rfl
        exact other native metric since rfl
      have state : (Use.ask request).apply s = s.count request := state_answer_of_other plain s
      rw [state]
      cases request with
      | samplesOf native metric since => exact absurd rfl (plain native metric since)
      | _ => exact ⟨rfl, rfl, rfl⟩
  | inject operation failure => exact ⟨rfl, rfl, rfl⟩
  | mend => exact ⟨rfl, rfl, rfl⟩

/-! ## Positions and times -/

/-- What positions and clock tell about the exchanges so far: a position in a list of values is the
number of those served for it, and no sample is ahead of the clock or of a later one. -/
structure Accounts (given : List Exchange) (s : Simulated) : Prop where
  taken : ∀ place metric device, s.deviceAt place = .ok device → device.listed metric ≠ [] →
    s.taken place metric = given.countP (·.serves place metric)
  bound : ∀ sample ∈ given.flatMap (·.samples), sample.timestamp ≤ s.time
  ordered : (given.flatMap (·.samples)).Pairwise (·.timestamp < ·.timestamp)

namespace Accounts

variable {given : List Exchange}

theorem fresh (devices : List Device) : Accounts [] { devices } where
  taken _ _ _ _ _ := rfl
  bound _ member := by cases member
  ordered := .nil

variable (accounts : Accounts given s)
include accounts

theorem congr (devices : t.devices = s.devices) (handedOut : t.handedOut = s.handedOut)
    (time : t.time = s.time) : Accounts given t where
  taken place metric device there some := by
    unfold deviceAt at there
    rw [devices] at there
    rw [← accounts.taken place metric device there some]
    unfold Simulated.taken
    rw [handedOut]
  bound sample member := by
    rw [time]
    exact accounts.bound sample member
  ordered := accounts.ordered

/-- An exchange that gives no sample may be added if no device with values has served it. -/
theorem silent {e : Exchange} (none : e.samples = [])
    (unserved : ∀ place metric device, s.deviceAt place = .ok device →
      device.listed metric ≠ [] → e.serves place metric = false) : Accounts (given ++ [e]) s := by
  have same : (given ++ [e]).flatMap (·.samples) = given.flatMap (·.samples) := by
    simp [none]
  refine ⟨fun place metric device there some => ?_, ?_, ?_⟩
  · rw [List.countP_append, List.countP_singleton, unserved place metric device there some]
    exact accounts.taken place metric device there some
  · rw [same]
    exact accounts.bound
  · rw [same]
    exact accounts.ordered

/-- A value that is handed out moves on its own position and the clock. -/
theorem handing {native : Native} {since : Int} {device : Device}
    (found : s.find native = .ok (place, device)) (value : Int) :
    Accounts (given ++ [⟨native, metric, .ok [⟨s.time + 1000, value⟩]⟩])
      ((s.asking native metric since).handing place metric) := by
  obtain ⟨denoted, _⟩ := find_eq_ok_iff.mp found
  let e : Exchange := ⟨native, metric, .ok [⟨s.time + 1000, value⟩]⟩
  refine ⟨fun other asked device' there some => ?_, fun sample member => ?_, ?_⟩
  · have before : s.taken other asked = given.countP (·.serves other asked) :=
      accounts.taken other asked device' there some
    rw [List.countP_append, ← before, List.countP_singleton]
    by_cases own : other = place ∧ asked = metric
    · -- The new exchange is served for this place and metric, and their position has moved on by
      -- it.
      obtain ⟨rfl, rfl⟩ := own
      have serves : e.serves other asked = true :=
        Exchange.serves_iff.mpr ⟨⟨denoted, rfl⟩, rfl⟩
      rw [taken_handing_self, if_pos serves]
      rfl
    · -- No other position moves, and no other place and metric are served.
      have unserved : ¬ e.serves other asked = true := by
        intro serves
        obtain ⟨⟨denoted', same⟩, _⟩ := Exchange.serves_iff.mp serves
        exact own ⟨Option.some.inj (denoted'.symm.trans denoted), same.symm⟩
      rw [taken_handing_of_ne own, if_neg unserved]
      rfl
  · rw [List.flatMap_append, List.mem_append] at member
    show sample.timestamp ≤ s.time + 1000
    rcases member with early | new
    · have bound := accounts.bound sample early
      omega
    · have same : sample = ⟨s.time + 1000, value⟩ := by simpa [Exchange.samples] using new
      simp [same]
  · rw [List.flatMap_append, List.pairwise_append]
    refine ⟨accounts.ordered, by simp [Exchange.samples], fun early old late new => ?_⟩
    -- All times so far are at most the clock, and the new one is ahead of it.
    have bound := accounts.bound early old
    have same : late = ⟨s.time + 1000, value⟩ := by simpa [Exchange.samples] using new
    simp only [same]
    omega

/-- A request for samples keeps the accounts, whatever becomes of it. -/
theorem samples (native : Native) (metric : Metric) (since : Int) :
    Accounts (given ++ [⟨native, metric, (answer (.samplesOf native metric since) s).result⟩])
      (answer (.samplesOf native metric since) s).state := by
  have refused : ∀ refusal, Accounts (given ++ [⟨native, metric, .error refusal⟩]) s := by
    intro refusal
    apply accounts.silent rfl
    intro place metric device _ _
    simp [Exchange.serves, Except.isOk, Except.toBool]
  cases sampled_answer native metric since s with
  | failed met same =>
      rw [same]
      exact refused _
  | @absent refusal none same =>
      rw [same]
      exact (refused refusal).congr rfl rfl rfl
  | @empty place device found none same =>
      rw [same]
      obtain ⟨denoted, there⟩ := find_eq_ok_iff.mp found
      have silent : Accounts (given ++ [⟨native, metric, .ok []⟩]) s := by
        apply accounts.silent rfl
        intro other asked device' there' some
        rw [Bool.eq_false_iff]
        intro serves
        -- The exchange counts as served, but for a list without values.
        obtain ⟨⟨denoted', rfl⟩, _⟩ := Exchange.serves_iff.mp serves
        cases denoted.symm.trans denoted'
        cases there.symm.trans there'
        exact some none
      exact silent.congr rfl rfl rfl
  | one found some value same =>
      rw [same]
      exact accounts.handing found value

/-- Every use keeps the accounts. -/
theorem use (use : Use) : Accounts (given ++ use.exchanges s) (use.apply s) := by
  by_cases sampling : ∃ native metric since, use = .ask (.samplesOf native metric since)
  · obtain ⟨native, metric, since, rfl⟩ := sampling
    exact accounts.samples native metric since
  · have other : ∀ native metric since, use ≠ .ask (.samplesOf native metric since) :=
      fun native metric since same => sampling ⟨native, metric, since, same⟩
    obtain ⟨none, handedOut, time⟩ := silent_of_other other s
    rw [none, List.append_nil]
    exact accounts.congr (devices_apply use s) handedOut time

/-- So does a whole history. -/
theorem history (history : List Use) :
    Accounts (given ++ exchanges history s) (after history s) := by
  induction history generalizing given s with
  | nil =>
      show Accounts (given ++ []) s
      rw [List.append_nil]
      exact accounts
  | cons use rest ih =>
      have whole := ih (accounts.use use)
      rw [List.append_assoc] at whole
      exact whole

end Accounts

theorem accounts_of_history (devices : List Device) (history : List Use) :
    Accounts (exchanges history { devices }) (after history { devices }) :=
  (Accounts.fresh devices).history history

/-! ## Uses that do not concern a place -/

/-- Two states in which a place is answered alike for a metric. -/
structure Share (place : Int) (metric : Metric) (s t : Simulated) : Prop where
  devices : s.devices = t.devices
  failures : s.failures = t.failures
  taken : s.taken place metric = t.taken place metric

namespace Share

theorem refl (place : Int) (metric : Metric) (s : Simulated) : Share place metric s s :=
  ⟨rfl, rfl, rfl⟩

theorem trans {u : Simulated} (one : Share place metric s t) (two : Share place metric t u) :
    Share place metric s u :=
  ⟨one.devices.trans two.devices, one.failures.trans two.failures, one.taken.trans two.taken⟩

/-- Requests for other samples, and for anything else, leave the share of a place and a metric. -/
theorem of_unconcerned {use : Use} (unconcerned : use.concerns place metric = false)
    (s : Simulated) : Share place metric (use.apply s) s := by
  cases use with
  | inject operation failure => cases unconcerned
  | mend => cases unconcerned
  | ask request =>
      show Share place metric (answer request s).state s
      cases request with
      | samplesOf native asked since =>
          cases sampled_answer native asked since s with
          | failed met same =>
              rw [same]
              exact refl place metric s
          | absent none same =>
              rw [same]
              exact ⟨rfl, rfl, rfl⟩
          | empty found none same =>
              rw [same]
              exact ⟨rfl, rfl, rfl⟩
          | @one other device found some value same =>
              rw [same]
              obtain ⟨denoted, _⟩ := find_eq_ok_iff.mp found
              -- A value was handed out, but for another place or metric, whose position is a
              -- different one.
              have different : ¬ (place = other ∧ metric = asked) := by
                rintro ⟨rfl, rfl⟩
                simp [Use.concerns, denoted] at unconcerned
              exact ⟨rfl, rfl, taken_handing_of_ne different _⟩
      | _ =>
          rw [state_answer_of_other fun _ _ _ same => by cases same]
          exact ⟨rfl, rfl, rfl⟩

/-- A place is answered alike from its share, and keeps it. -/
theorem samples (share : Share place metric s t) {native : Native}
    (denoted : native.value.place? = some place) (since : Int) :
    (answer (.samplesOf native metric since) s).result.map (·.map (·.value)) =
        (answer (.samplesOf native metric since) t).result.map (·.map (·.value)) ∧
      Share place metric (answer (.samplesOf native metric since) s).state
        (answer (.samplesOf native metric since) t).state := by
  have failure := failure?_congr share.failures (.samplesOf native metric since)
  have noted : Share place metric (s.asking native metric since) (t.asking native metric since) :=
    ⟨share.devices, share.failures, share.taken⟩
  cases met : t.failure? (.samplesOf native metric since) with
  | some reason =>
      rw [answer_of_failure (failure.trans met), answer_of_failure met]
      exact ⟨rfl, share⟩
  | none =>
      have finds := find_congr share.devices native
      cases found : t.find native with
      | error refusal =>
          rw [answer_of_absent (failure.trans met) (finds.trans found), answer_of_absent met found]
          exact ⟨rfl, noted⟩
      | ok pair =>
          obtain ⟨other, device⟩ := pair
          obtain ⟨denoted', _⟩ := find_eq_ok_iff.mp found
          -- The device was found at the place of the share, and not at another one.
          cases denoted.symm.trans denoted'
          by_cases none : device.listed metric = []
          · rw [answer_of_nil (failure.trans met) (finds.trans found) none,
              answer_of_nil met found none]
            exact ⟨rfl, noted⟩
          · obtain ⟨value, next, same⟩ :=
              answer_of_ne_nil (failure.trans met) (finds.trans found) none
            obtain ⟨value', next', same'⟩ := answer_of_ne_nil met found none
            -- The positions are the same in both states, and therefore the values.
            rw [share.taken, next'] at next
            cases next
            rw [same, same']
            refine ⟨rfl, share.devices, share.failures, ?_⟩
            show (handing place metric _).taken place metric =
              (handing place metric _).taken place metric
            rw [taken_handing_self, taken_handing_self]
            exact congrArg (· + 1) share.taken

end Share

/-- An exchange that is not about a place leaves no trace in what it has seen. -/
theorem seen_of_unconcerned {use : Use} (unconcerned : use.concerns place metric = false)
    (s : Simulated) : seen place metric (use.exchanges s) = [] := by
  cases use with
  | inject operation failure => rfl
  | mend => rfl
  | ask request =>
      cases request with
      | samplesOf native asked since =>
          have other : Exchange.about place metric
              ⟨native, asked, (answer (.samplesOf native asked since) s).result⟩ = false :=
            unconcerned
          simp [seen, Use.exchanges, other]
      | _ => rfl

/-- A use that concerns a place and a metric is seen alike from the same share. -/
theorem Share.use (share : Share place metric s t) {use : Use}
    (concerned : use.concerns place metric = true) :
    seen place metric (use.exchanges s) = seen place metric (use.exchanges t) ∧
      Share place metric (use.apply s) (use.apply t) := by
  cases use with
  | inject operation failure =>
      refine ⟨rfl, share.devices, ?_, share.taken⟩
      -- A failure is injected for all places at once, so it goes into every share.
      exact congrArg (Register.assign operation failure) share.failures
  | mend => exact ⟨rfl, share.devices, rfl, share.taken⟩
  | ask request =>
      cases request with
      | samplesOf native asked since =>
          obtain ⟨denoted, rfl⟩ : native.value.place? = some place ∧ asked = metric := by
            simpa [Use.concerns] using concerned
          obtain ⟨values, shares⟩ := share.samples denoted since
          have about : ∀ result, Exchange.about place asked ⟨native, asked, result⟩ = true :=
            fun _ => Exchange.about_iff.mpr ⟨denoted, rfl⟩
          refine ⟨?_, shares⟩
          simp only [seen, Use.exchanges, List.filter_cons, about, if_true, List.filter_nil,
            List.map_cons, List.map_nil]
          exact congrArg (fun values => [values]) values
      | _ => cases concerned

theorem seen_append (given more : List Exchange) :
    seen place metric (given ++ more) = seen place metric given ++ seen place metric more := by
  simp [seen]

/-- What a place is answered for a metric depends on the uses that concern the two alone. -/
theorem seen_filter (share : Share place metric s t) (history : List Use) :
    seen place metric (exchanges history s) =
      seen place metric (exchanges (history.filter (·.concerns place metric)) t) := by
  induction history generalizing s t with
  | nil => rfl
  | cons use rest ih =>
      show seen place metric (use.exchanges s ++ exchanges rest (use.apply s)) = _
      rw [seen_append]
      -- A use of concern is a step of both histories, any other one of the first alone.
      cases concerned : use.concerns place metric with
      | true =>
          obtain ⟨now, shares⟩ := share.use concerned
          rw [List.filter_cons_of_pos concerned, now, ih shares]
          exact (seen_append _ _).symm
      | false =>
          have unmoved : Share place metric (use.apply s) t :=
            (Share.of_unconcerned concerned s).trans share
          rw [List.filter_cons_of_neg (by simp [concerned]), seen_of_unconcerned concerned,
            List.nil_append]
          exact ih unmoved

/-! ## Values in order -/

/-- Simulated devices that stay the same, with any use made of them from the beginning. A request
for samples that runs into an injected failure is declined in its words and changes nothing; one for
a handle without a device, or for a metric without values, is at most noted. Any other gives one
sample, whose value is the one behind those already given for the same place and metric, or the last
if there are no more. The times of all samples increase, and what is given for a place and a metric
does not depend on what else is asked in between. -/
theorem values_in_order (devices : List Device) :
    (∀ (before : List Use) (native : Native) (metric : Metric) (since : Int),
      let s := after before { devices }
      let request : Request := .samplesOf native metric since
      (∀ reason, s.failure? request = some reason → answer request s = .decline s reason) ∧
      (s.failure? request = none →
        (∀ refusal, find { devices } native = .error refusal →
          answer request s = .refuse (s.asking native metric since) refusal) ∧
        ∀ place device, find { devices } native = .ok (place, device) →
          let values := device.listed metric
          let position := (exchanges before { devices }).countP (·.serves place metric)
          (values = [] → answer request s = .ok (s.asking native metric since) []) ∧
          (values ≠ [] → ∃ sample, (answer request s).result = .ok [sample] ∧
            values[min position (values.length - 1)]? = some sample.value))) ∧
    (∀ history : List Use, ((exchanges history { devices }).flatMap (·.samples)).Pairwise
      (·.timestamp < ·.timestamp)) ∧
    ∀ place metric (history others : List Use),
      history.filter (·.concerns place metric) = others.filter (·.concerns place metric) →
      seen place metric (exchanges history { devices }) =
        seen place metric (exchanges others { devices }) := by
  refine ⟨fun before native metric since => ?_,
    fun history => (accounts_of_history devices history).ordered, ?_⟩
  · have finds := find_congr (devices_after before { devices }) native
    refine ⟨fun reason met => answer_of_failure met, fun spared =>
      ⟨fun refusal absent => ?_, fun place device found => ⟨fun none => ?_, fun some => ?_⟩⟩⟩
    · exact answer_of_absent spared (finds.trans absent)
    · exact answer_of_nil spared (finds.trans found) none
    · have there := (find_eq_ok_iff.mp (finds.trans found)).2
      obtain ⟨value, next, given⟩ := answer_of_ne_nil spared (finds.trans found) some
      rw [(accounts_of_history devices before).taken place metric device there some] at next
      exact ⟨_, congrArg Reply.result given, next⟩
  · intro place metric history others same
    -- Both histories see what the uses of concern alone would have seen, and those are the same.
    have fresh : Share place metric { devices } { devices } := .refl place metric _
    rw [seen_filter fresh history, seen_filter fresh others, same]

/-- The first device is answered as if alone, though the second fails in between, is read from the
end of the list and a device is missing. -/
theorem values_between_others :
    let devices : List Device :=
      [⟨"A", 0, 0, [(.utilization, [5, 6])]⟩, ⟨"B", 0, 0, [(.utilization, [-1])]⟩]
    let ask (place : Int) : Use := .ask (.samplesOf (.slot place) .utilization 0)
    let lost : Use := .inject .samplesOf ⟨"GPU is lost", some 1⟩
    let mixed := [ask 0, ask 1, lost, ask 1, ask (-1), ask 0, .mend, ask 7, ask 0]
    let alone := [ask 0, lost, ask 0, .mend, ask 0]
    seen 0 .utilization (exchanges mixed { devices }) = [.ok [5], .ok [6], .ok [6]] ∧
      seen 0 .utilization (exchanges alone { devices }) = [.ok [5], .ok [6], .ok [6]] ∧
      seen 1 .utilization (exchanges mixed { devices }) =
        [.ok [-1], .error (.declined "GPU is lost")] ∧
      (exchanges mixed { devices }).flatMap (·.samples) =
        [⟨1000, 5⟩, ⟨2000, -1⟩, ⟨3000, -1⟩, ⟨4000, 6⟩, ⟨5000, 6⟩] := by
  intro devices ask lost mixed alone
  obtain ⟨_, _, independent⟩ := values_in_order devices
  have same : seen 0 .utilization (exchanges mixed { devices }) =
      seen 0 .utilization (exchanges alone { devices }) :=
    independent 0 .utilization mixed alone rfl
  have first : seen 0 .utilization (exchanges mixed { devices }) =
      [.ok [5], .ok [6], .ok [6]] := by
    decide +kernel
  exact ⟨first, same.symm.trans first, by decide +kernel, by decide +kernel⟩

end GpuTelemetry.Simulated
