import GpuTelemetry.Proofs.Collection.Gathering
import GpuTelemetry.Proofs.Mirror

/-!
# Devices apart from each other

Two runs agree if from related states they end in the same fault or in related results, and again in
related states (`Run.Agree`): they mirror each other, whatever their events are.

A backend keeps its devices apart (`Backend.Apart`) if each device has a share of the state, such
that requests about a device are answered from its share alone and touch the share of no other
device. Times are an exception: samples of one device may have other times if another device has
been read before. So a cursor taken from them may differ too, and must not matter.

Main statements: `Backend.Apart.agree_report`, by which a visit of a device gives the same from all
states that are alike to it, and `Backend.Apart.bothOpen_of_other`, by which a visit of another
device leaves the state alike to it.
-/

namespace GpuTelemetry

variable {σ α β γ δ : Type}

/-! ## Agreement of two runs -/

/-- Two outcomes that agree, in related states. -/
structure Outcome.Agree (R : σ → σ → Prop) (E : α → β → Prop) (o : Outcome σ α)
    (p : Outcome σ β) : Prop where
  state : R o.state p.state
  result : Matched E o.result p.result

namespace Run

/-- Two runs that agree from all related states. -/
def Agree (R : σ → σ → Prop) (E : α → β → Prop) (x : Run σ α) (y : Run σ β) : Prop :=
  ∀ s t, R s t → Outcome.Agree R E (x s) (y t)

variable {R : σ → σ → Prop} {E : α → β → Prop} {x : Run σ α} {y : Run σ β}

theorem Agree.pure {a : α} {b : β} (related : E a b) :
    Agree R E (pure a : Run σ α) (pure b : Run σ β) :=
  fun _ _ start => ⟨start, .ok related⟩

theorem Agree.fault (f : Fault) : Agree R E (fault f : Run σ α) (fault f : Run σ β) :=
  fun _ _ start => ⟨start, .error f⟩

/-- An event concerns no state. -/
theorem Agree.emit (e e' : Event) : Agree R Eq (emit e) (emit e') :=
  fun _ _ start => ⟨start, .ok rfl⟩

/-- Agreement is the mirror of a relation of states that does not look at events. -/
theorem agree_iff_mirrors :
    Agree R E x y ↔ Mirrors ⟨R, fun _ _ => True, trivial, fun _ _ => trivial⟩ E x y := by
  constructor
  · intro agree s t start
    exact ⟨(agree s t start).result, (agree s t start).state, trivial⟩
  · intro mirrors s t start
    exact ⟨(mirrors s t start).state, (mirrors s t start).result⟩

/-- Sequences agree if their first runs do, and their second runs from related results on. -/
theorem Agree.bind {F : γ → δ → Prop} {next : α → Run σ γ} {other : β → Run σ δ}
    (one : Agree R E x y) (two : ∀ a b, E a b → Agree R F (next a) (other b)) :
    Agree R F (x >>= next) (y >>= other) :=
  agree_iff_mirrors.mpr <| (agree_iff_mirrors.mp one).bind fun a b related =>
    agree_iff_mirrors.mp (two a b related)

/-- Naming the operation that failed keeps two runs in agreement. -/
theorem Agree.orFail (failure : String → Failure) (agree : Agree R E x y) :
    Agree R E (orFail x failure) (orFail y failure) :=
  agree_iff_mirrors.mpr ((agree_iff_mirrors.mp agree).orFail failure)

end Run

/-! ## Backends that keep devices apart -/

/-- Two answers to a request for samples of which the latest sample is the same but for its time. -/
def SameLatest (close : Int → Int → Prop) (samples others : List Sample) : Prop :=
  Option.Rel (fun u v => u.value = v.value ∧ close u.timestamp v.timestamp)
    (Sample.latest? samples) (Sample.latest? others)

theorem SameLatest.refl {close : Int → Int → Prop} (reflexive : ∀ time, close time time)
    (samples : List Sample) : SameLatest close samples samples := by
  unfold SameLatest
  cases Sample.latest? samples with
  | none => exact .none
  | some sample => exact .some ⟨rfl, reflexive sample.timestamp⟩

/-- A request for anything but samples. -/
def Request.plain : Request → Prop
  | .samplesOf .. => False
  | _ => True

/-- A backend that keeps its devices apart. `alike place` relates states with the same share of the
device at a place, `issued place` holds of the handles of that device, and `close` relates cursors
that make no difference. -/
structure Backend.Apart (b : Backend σ) (alike : Nat → σ → σ → Prop) (issued : Nat → Native → Prop)
    (close : Int → Int → Prop) : Prop where
  equivalence : ∀ place, Equivalence (alike place)
  start : close 0 0
  issues : ∀ (place : Nat) x native, (b.answer (.handleAt place) x).result = .ok native →
    issued place native
  /-- Only requests for samples leave a trace, -/
  still : ∀ place request x, request.plain → alike place x (b.answer request x).state
  /-- and that only in the share of their own device. -/
  others : ∀ place other native metric since x, place ≠ other → issued other native →
    alike place x (b.answer (.samplesOf native metric since) x).state
  handle : ∀ (place : Nat) x y, alike place x y →
    (b.answer (.handleAt place) x).result = (b.answer (.handleAt place) y).result
  property : ∀ place request native x y, alike place x y → request.plain →
    request.device? = some native → issued place native →
    (b.answer request x).result = (b.answer request y).result
  samples : ∀ place native metric since since' x y, alike place x y → issued place native →
    close since since' →
    Matched (SameLatest close) (b.answer (.samplesOf native metric since) x).result
        (b.answer (.samplesOf native metric since') y).result ∧
      alike place (b.answer (.samplesOf native metric since) x).state
        (b.answer (.samplesOf native metric since') y).state
  farewell : ∀ x refusal, (b.answer .shutdown x).result = .error refusal →
    ∃ reason, refusal = .declined reason

/-- Two states with the session open and the same share of a device. -/
def Session.BothOpen (h : Session σ) (alike : σ → σ → Prop) (s t : Sessions σ) : Prop :=
  s.phase h.id = .opened ∧ t.phase h.id = .opened ∧ alike s.backends t.backends

/-- Requests of an open session agree if the backend's replies do. -/
theorem Session.agree_ask {h : Session σ} {alike : σ → σ → Prop} (request request' : Request)
    {E : request.Answer → request'.Answer → Prop} (failure : String → Failure)
    (replies : ∀ x y, alike x y →
      Matched E (h.backend.answer request x).result (h.backend.answer request' y).result ∧
        alike (h.backend.answer request x).state (h.backend.answer request' y).state) :
    Run.Agree (h.BothOpen alike) E (Run.orFail (h.ask request) failure)
      (Run.orFail (h.ask request') failure) := by
  refine Run.Agree.orFail failure ?_
  rintro s t ⟨isOpen, isOpen', share⟩
  obtain ⟨results, shares⟩ := replies _ _ share
  rw [Session.ask_of_opened isOpen, Session.ask_of_opened isOpen']
  exact ⟨⟨isOpen, isOpen', shares⟩, results.mapError Fault.refused⟩

namespace Backend.Apart

open Run (Agree)

variable {h : Session σ} {alike : Nat → σ → σ → Prop} {issued : Nat → Native → Prop}
  {close : Int → Int → Prop} {metric : Metric} {window : Window} {advance : Bool} {place : Nat}
  (apart : h.backend.Apart alike issued close)

include apart

/-- Requests for anything but samples keep states alike. -/
theorem alike_of_plain {request : Request} {x y : σ} (plain : request.plain)
    (share : alike place x y) :
    alike place (h.backend.answer request x).state (h.backend.answer request y).state := by
  have equivalence := apart.equivalence place
  have before := equivalence.symm (apart.still place request x plain)
  exact equivalence.trans before (equivalence.trans share (apart.still place request y plain))

/-! ## A visit of a device -/

/-- What is asked of a device, and is no sample, is answered the same in both states. -/
theorem agree_property (request : Request) {native : Native} (failure : String → Failure)
    (plain : request.plain) (about : request.device? = some native) (known : issued place native) :
    Agree (h.BothOpen (alike place)) Eq (Run.orFail (h.ask request) failure)
      (Run.orFail (h.ask request) failure) := by
  refine Session.agree_ask request request failure fun x y share =>
    ⟨?_, apart.alike_of_plain plain share⟩
  rw [apart.property place request native x y share plain about known]
  exact .refl (fun _ => rfl) _

/-- A handle that is found is one of the device at that place. -/
theorem agree_handle (failure : String → Failure) :
    Agree (h.BothOpen (alike place)) (fun native other => native = other ∧ issued place native)
      (Run.orFail (h.ask (.handleAt place)) failure)
      (Run.orFail (h.ask (.handleAt place)) failure) := by
  refine Session.agree_ask (.handleAt place) (.handleAt place) failure fun x y share =>
    ⟨?_, apart.alike_of_plain trivial share⟩
  rw [← apart.handle place x y share]
  cases given : (h.backend.answer (.handleAt place) x).result with
  | error refusal => exact .error refusal
  | ok native => exact .ok ⟨rfl, apart.issues place x native given⟩

/-- The device that is found at a place has a handle of that place. -/
theorem agree_resolveBelow (count : Int) :
    Agree (h.BothOpen (alike place))
      (fun device other => device = other ∧ issued place device.native)
      (h.resolveBelow count place) (h.resolveBelow count place) := by
  rw [Session.resolveBelow_eq_asks]
  split
  · exact .fault _
  · refine (apart.agree_handle (.handleFailed place)).bind ?_
    rintro native _ ⟨rfl, known⟩
    refine (apart.agree_property (.nameOf native) (.nameFailed place) trivial rfl known).bind ?_
    rintro name _ rfl
    unfold Session.accept
    -- Whether a name fits depends on the name, which is the same in both.
    cases Session.nameProblem? place name with
    | some problem => exact .fault _
    | none => exact .pure ⟨rfl, known⟩

theorem agree_latest {device : Device} (known : issued place device.native) {cursor cursor' : Int}
    (nearby : close cursor cursor') :
    Agree (h.BothOpen (alike place))
      (fun u v => u.value = v.value ∧ close u.timestamp v.timestamp)
      (Sampler.latest h.ask device metric cursor) (Sampler.latest h.ask device metric cursor') := by
  have asked : Agree (h.BothOpen (alike place)) (SameLatest close)
      (Run.orFail (h.ask (.samplesOf device.native metric cursor))
        (.samplesFailed metric device.index))
      (Run.orFail (h.ask (.samplesOf device.native metric cursor'))
        (.samplesFailed metric device.index)) :=
    Session.agree_ask (.samplesOf device.native metric cursor)
      (.samplesOf device.native metric cursor') _ fun x y share =>
        apart.samples place device.native metric cursor cursor' x y share known nearby
  refine asked.bind fun samples others same => ?_
  unfold SameLatest at same
  -- The samples may differ in all but their latest one, and nothing else is looked at.
  generalize Sample.latest? samples = latest at same
  generalize Sample.latest? others = latest' at same
  cases same with
  | none => exact .fault _
  | some same => exact .pure same

theorem agree_total {device : Device} (known : issued place device.native) (whole : Window)
    (left : Nat) {cursor cursor' : Int} (nearby : close cursor cursor') (sum : Int) :
    Agree (h.BothOpen (alike place)) Eq
      (Sampler.total ⟨h, window, advance⟩ h.ask device metric whole left cursor sum)
      (Sampler.total ⟨h, window, advance⟩ h.ask device metric whole left cursor' sum) := by
  induction left generalizing cursor cursor' sum with
  | zero => exact .pure rfl
  | succ left ih =>
      refine (apart.agree_latest known nearby).bind fun sample other same => ?_
      refine (Agree.emit _ _).bind fun _ _ _ => ?_
      have paused : Agree (h.BothOpen (alike place)) Eq (Sampler.pauseBefore whole left)
          (Sampler.pauseBefore whole left) := by
        cases left with
        | zero => exact .pure rfl
        | succ left => exact .emit _ _
      refine paused.bind fun _ _ _ => ?_
      rw [same.1]
      -- The next cursors are the times of the two samples, or those of this round again.
      cases advance with
      | true => exact ih same.2 _
      | false => exact ih nearby _

theorem agree_sample {device : Device} (known : issued place device.native) :
    Agree (h.BothOpen (alike place)) Eq
      (Sampler.sample ⟨h, window, advance⟩ device metric none)
      (Sampler.sample ⟨h, window, advance⟩ device metric none) := by
  have averaged : Agree (h.BothOpen (alike place)) Eq
      (Sampler.average ⟨h, window, advance⟩ device metric window)
      (Sampler.average ⟨h, window, advance⟩ device metric window) := by
    rw [Sampler.average_eq_asks]
    split
    · refine (apart.agree_total known window window.count apart.start 0).bind ?_
      -- Equal sums over windows of equal length have equal averages.
      rintro total _ rfl
      exact .pure rfl
    · exact .fault _
  cases metric with
  | power =>
      exact apart.agree_property (.powerOf device.native) (.powerFailed device.index) trivial rfl
        known
  | frequency =>
      exact apart.agree_property (.clockOf device.native) (.clockFailed device.index) trivial rfl
        known
  | utilization => exact averaged
  | memoryUtilization => exact averaged
  | totalPower => exact averaged

/-- A visit of a device gives the same from all states that are alike to it. -/
theorem agree_report (count : Int) :
    Agree (h.BothOpen (alike place)) Eq (h.report ⟨h, window, advance⟩ metric count place)
      (h.report ⟨h, window, advance⟩ metric count place) := by
  refine (apart.agree_resolveBelow count).bind ?_
  rintro device _ ⟨rfl, known⟩
  refine (apart.agree_sample known).bind ?_
  rintro value _ rfl
  exact .pure rfl

/-! ## A visit of another device -/

/-- A visit of another device leaves the share of this one alone. -/
theorem allows_other {other : Nat} (distinct : place ≠ other) (count : Int) (x : σ) :
    (Discipline.opened h (alike place x) fun _ => True).AllowsVisit h metric count other
      (issued other) where
  note _ := trivial
  pause _ := trivial
  failure _ _ := trivial
  missing _ := trivial
  handle := by
    refine Session.asks_opened (fun _ _ => trivial) ?_ ?_ fun _ _ _ _ => .inr trivial
    · intro y share
      exact (apart.equivalence place).trans share (apart.still place _ y trivial)
    · intro y native _ given
      exact apart.issues other y native given
  device request native about known _ := by
    refine Session.asks_opened (fun _ _ => trivial) ?_ (fun _ _ _ _ => trivial)
      fun _ _ _ _ => .inr trivial
    intro y share
    refine (apart.equivalence place).trans share ?_
    cases request with
    | samplesOf device metric since =>
        -- Samples are the only request that the backend takes note of, and they are of the other
        -- device.
        cases about
        exact apart.others place other native metric since y distinct known
    | _ => exact apart.still place _ y trivial

/-- So what was ready for a visit of this device still is. -/
theorem bothOpen_of_other {other : Nat} (distinct : place ≠ other) (count : Int) {s t : Sessions σ}
    (ready : h.BothOpen (alike place) s t) :
    h.BothOpen (alike place) s
      (h.report ⟨h, window, advance⟩ metric count other t).state := by
  obtain ⟨isOpen, stillOpen, share⟩ := ready
  have visit : (h.report ⟨h, window, advance⟩ metric count other).Obeys
      (.opened h (alike place s.backends) fun _ => True) _ :=
    (apart.allows_other distinct count s.backends).report
  exact ⟨isOpen, (visit t ⟨stillOpen, share⟩).kept⟩

end Backend.Apart

end GpuTelemetry
