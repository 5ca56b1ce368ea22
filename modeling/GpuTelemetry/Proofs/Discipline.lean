import GpuTelemetry.Feed
import GpuTelemetry.Proofs.Dialogue
import GpuTelemetry.Proofs.Session.Heads

/-!
# Disciplines

A discipline is what a run may do at most: an invariant of the state that it keeps, the events that
it may cause and the faults that it may end in. A run obeys a discipline, and gives only results of
which a property holds, however it is put together; there is one rule for each way of building a run
(`Run.Obeys`).

Reading a metric of a device is made of requests through a session, of notes and of pauses, and
obeys whatever discipline these obey (`Discipline.AllowsReading.sample`). So does a visit of a
device, from its index to its report (`Discipline.AllowsVisit.report`).
-/

namespace GpuTelemetry

variable {σ α β : Type}

/-- What a run may do at most: the invariant that it keeps, its events and its faults. -/
structure Discipline (σ : Type) where
  inv : σ → Prop
  event : Event → Prop
  fault : Fault → Prop

/-- The discipline of a run whose declined requests are still to be named. -/
def Discipline.orDeclined (d : Discipline σ) : Discipline σ :=
  { d with fault := fun f => d.fault f ∨ ∃ reason, f = .refused (.declined reason) }

/-- An outcome within a discipline, whose result, if it has one, has a property. -/
structure Discipline.Holds (d : Discipline σ) (Q : α → Prop) (o : Outcome σ α) : Prop where
  kept : d.inv o.state
  events : ∀ e ∈ o.events, d.event e
  gives : ∀ a, o.result = .ok a → Q a
  faults : ∀ f, o.result = .error f → d.fault f

namespace Run

/-- A run that stays within a discipline from every state with its invariant. -/
def Obeys (d : Discipline σ) (Q : α → Prop) (body : Run σ α) : Prop :=
  ∀ s, d.inv s → d.Holds Q (body s)

variable {d : Discipline σ} {Q R : α → Prop} {body : Run σ α}

theorem Obeys.mono (obeys : body.Obeys d Q) (weaker : ∀ a, Q a → R a) : body.Obeys d R := by
  intro s holds
  have outcome := obeys s holds
  exact ⟨outcome.kept, outcome.events, fun a given => weaker a (outcome.gives a given),
    outcome.faults⟩

theorem Obeys.pure {a : α} (property : Q a) : (pure a : Run σ α).Obeys d Q := by
  intro s holds
  refine ⟨holds, by simp, ?_, by simp⟩
  intro b given
  cases given
  exact property

theorem Obeys.fault {f : Fault} (allowed : d.fault f) : (fault f : Run σ α).Obeys d Q := by
  intro s holds
  refine ⟨holds, by simp, by simp, ?_⟩
  intro g given
  cases given
  exact allowed

theorem Obeys.modify {f : σ → σ} (kept : ∀ s, d.inv s → d.inv (f s)) :
    (modify f).Obeys d fun _ => True := by
  intro s holds
  exact ⟨kept s holds, by simp, fun _ _ => trivial, by simp⟩

/-- A look at the state changes nothing. -/
theorem Obeys.look {look : σ → α} :
    Obeys d (fun _ => True) (fun s => ⟨.ok (look s), s, []⟩ : Run σ α) := by
  intro s holds
  exact ⟨holds, by simp, fun _ _ => trivial, by simp⟩

theorem Obeys.emit {event : Event} (allowed : d.event event) :
    (emit event : Run σ Unit).Obeys d fun _ => True := by
  intro s holds
  exact ⟨holds, by simpa using allowed, fun _ _ => trivial, by simp⟩

/-- What a run gives is what the next one may rely on. -/
theorem Obeys.bind {P : β → Prop} {next : α → Run σ β} (one : body.Obeys d Q)
    (two : ∀ a, Q a → (next a).Obeys d P) : (body >>= next).Obeys d P := by
  intro s holds
  have first := one s holds
  rcases result : (body s).result with f | a
  · rw [bind_of_error next result]
    refine ⟨first.kept, first.events, by simp, ?_⟩
    intro g same
    cases same
    exact first.faults f result
  · -- The second run starts from what the first one has kept and given.
    have second := two a (first.gives a result) _ first.kept
    rw [bind_of_ok next result]
    exact ⟨second.kept, List.forall_mem_append.mpr ⟨first.events, second.events⟩, second.gives,
      second.faults⟩

/-- What was caught is a result or a fault that was allowed. -/
theorem Obeys.attempt (obeys : body.Obeys d Q) : (attempt body).Obeys d fun result =>
    (∀ a, result = .ok a → Q a) ∧ ∀ f, result = .error f → d.fault f := by
  intro s holds
  have outcome := obeys s holds
  refine ⟨outcome.kept, outcome.events, ?_, nofun⟩
  intro result given
  cases given
  exact ⟨outcome.gives, outcome.faults⟩

/-- A declined request ends in the failure that it becomes, any other fault stays what it is. -/
theorem Obeys.orFail {failure : String → Failure} (obeys : body.Obeys d.orDeclined Q)
    (allowed : ∀ reason, d.fault (.failed (failure reason))) :
    (orFail body failure).Obeys d Q := by
  intro s holds
  have outcome := obeys s holds
  obtain ⟨state, events⟩ := orFail_apply body failure s
  refine ⟨?_, ?_, ?_, ?_⟩
  · rw [state]
    exact outcome.kept
  · rw [events]
    exact outcome.events
  · intro a given
    rcases result : (body s).result with f | b
    · obtain ⟨g, failed, _⟩ := result_orFail_of_error failure result
      rw [failed] at given
      cases given
    · rw [result_orFail_of_ok failure result] at given
      cases given
      exact outcome.gives _ result
  · intro g failed
    rcases result : (body s).result with f | b
    · rcases outcome.faults f result with tolerated | ⟨reason, rfl⟩
      · -- A fault that is tolerated may still be a declined request, and becomes the failure then.
        obtain ⟨g', failed', origin⟩ := result_orFail_of_error failure result
        rw [failed'] at failed
        cases failed
        rcases origin with rfl | ⟨reason, rfl⟩
        · exact tolerated
        · exact allowed reason
      · rw [result_orFail_of_declined failure result] at failed
        cases failed
        exact allowed reason
    · rw [result_orFail_of_ok failure result] at failed
      cases failed

theorem Obeys.each {P : β → Prop} {visit : α → Run σ β} {items : List α}
    (one : ∀ a ∈ items, (visit a).Obeys d P) :
    (each visit items).Obeys d fun results => ∀ b ∈ results, P b := by
  induction items with
  | nil => exact .pure (by simp)
  | cons a rest ih =>
      have others := ih fun b later => one b (List.mem_cons_of_mem a later)
      refine (one a List.mem_cons_self).bind fun first property => ?_
      refine others.bind fun results properties => .pure ?_
      exact List.forall_mem_cons.mpr ⟨property, properties⟩

end Run

/-! ## Visits -/

/-- A request that is made of a device whose metric is read. -/
def Request.reads (metric : Metric) : Request → Prop
  | .nameOf _ => True
  | .powerOf _ => metric = .power
  | .clockOf _ => metric = .frequency
  | .samplesOf _ sampled _ => sampled = metric ∧ metric.averaged = true
  | .start | .shutdown | .deviceCount | .handleAt _ => False

/-- A request of a session obeys a discipline, whatever failure a refusal of it becomes. Only a
session that cannot be opened fails as unavailable. -/
def Session.AsksWithin (h : Session σ) (d : Discipline (Sessions σ)) (request : Request)
    (Q : request.Answer → Prop) : Prop :=
  ∀ failure : String → Failure, (∀ reason, (failure reason).kind ≠ .unavailable) →
    (Run.orFail (h.ask request) failure).Obeys d Q

/-- A discipline that allows a session to read a metric of devices by handles that were issued. -/
structure Discipline.AllowsReading (d : Discipline (Sessions σ)) (h : Session σ) (metric : Metric)
    (issued : Native → Prop) : Prop where
  note : ∀ n, d.event (.note n)
  pause : ∀ seconds, d.event (.pause seconds)
  failure : ∀ f : Failure, f.kind ≠ .unavailable → d.fault (.failed f)
  device : ∀ request native, request.device? = some native → issued native →
    request.reads metric → h.AsksWithin d request fun _ => True

/-- A discipline that allows a session to read a metric of the device at an index below a number of
devices, by a handle that was issued for it. -/
structure Discipline.AllowsVisit (d : Discipline (Sessions σ)) (h : Session σ) (metric : Metric)
    (count index : Int) (issued : Native → Prop) : Prop extends
    d.AllowsReading h metric issued where
  missing : index < 0 ∨ count ≤ index → d.fault (Session.missing index count)
  handle : h.AsksWithin d (.handleAt index) issued

namespace Discipline.AllowsReading

open Run (Obeys)

variable {d : Discipline (Sessions σ)} {h : Session σ} {metric : Metric}
  {issued : Native → Prop} (allows : d.AllowsReading h metric issued) {window : Window}
  {advance : Bool}

include allows

theorem latest {device : Device} (known : issued device.native) (sampled : metric.averaged = true)
    (cursor : Int) :
    (Sampler.latest h.ask device metric cursor).Obeys d fun _ => True := by
  unfold Sampler.latest
  refine (allows.device (.samplesOf device.native metric cursor) device.native rfl known
    ⟨rfl, sampled⟩ (.samplesFailed metric device.index) nofun).bind fun samples _ => ?_
  cases Sample.latest? samples with
  | some sample => exact .pure trivial
  | none => exact .fault (allows.failure _ nofun)

theorem total {device : Device} (known : issued device.native) (sampled : metric.averaged = true)
    (whole : Window) (left : Nat) (cursor sum : Int) :
    (Sampler.total ⟨h, window, advance⟩ h.ask device metric whole left cursor sum).Obeys d
      fun _ => True := by
  induction left generalizing cursor sum with
  | zero => exact .pure trivial
  | succ left ih =>
      refine (allows.latest known sampled cursor).bind fun sample _ => ?_
      refine (Obeys.emit (allows.note _)).bind fun _ _ => ?_
      -- The pause is left out behind the last round.
      have paused : (Sampler.pauseBefore whole left).Obeys d fun _ => True := by
        cases left with
        | zero => exact .pure trivial
        | succ left => exact .emit (allows.pause _)
      exact paused.bind fun _ _ => ih _ _

theorem average {device : Device} (known : issued device.native)
    (sampled : metric.averaged = true) :
    (Sampler.average ⟨h, window, advance⟩ device metric window).Obeys d fun _ => True := by
  rw [Sampler.average_eq_asks, if_pos sampled]
  exact (allows.total known sampled window window.count 0 0).bind fun _ _ => .pure trivial

theorem sample {device : Device} (known : issued device.native) :
    (Sampler.sample ⟨h, window, advance⟩ device metric none).Obeys d fun _ => True := by
  cases metric with
  | power =>
      exact allows.device (.powerOf device.native) device.native rfl known rfl
        (.powerFailed device.index) nofun
  | frequency =>
      exact allows.device (.clockOf device.native) device.native rfl known rfl
        (.clockFailed device.index) nofun
  | utilization => exact allows.average known rfl
  | memoryUtilization => exact allows.average known rfl
  | totalPower => exact allows.average known rfl

end Discipline.AllowsReading

namespace Discipline.AllowsVisit

open Run (Obeys)

variable {d : Discipline (Sessions σ)} {h : Session σ} {metric : Metric} {count index : Int}
  {issued : Native → Prop} (allows : d.AllowsVisit h metric count index issued) {window : Window}
  {advance : Bool}

include allows

/-- The device that is found at an index has it, and a handle that was issued for it. -/
theorem resolveBelow :
    (h.resolveBelow count index).Obeys d fun device =>
      issued device.native ∧ device.index = index := by
  rw [Session.resolveBelow_eq_asks]
  split
  · rename_i outside
    -- No request has been made, so only the failure or the index too long to name is possible.
    exact .fault (allows.missing outside)
  · refine (allows.handle (.handleFailed index) nofun).bind fun native known => ?_
    refine (allows.device (.nameOf native) native rfl known trivial (.nameFailed index)
      nofun).bind fun name _ => ?_
    unfold Session.accept Session.nameProblem?
    by_cases empty : name = ""
    · rw [if_pos empty]
      exact .fault (allows.failure _ nofun)
    · rw [if_neg empty]
      by_cases long : Failure.nameLimit < name.utf8ByteSize
      · rw [if_pos long]
        exact .fault (allows.failure _ nofun)
      · rw [if_neg long]
        exact .pure ⟨known, rfl⟩

/-- A report is one of the device at the index and of the metric. -/
theorem report :
    (h.report ⟨h, window, advance⟩ metric count index).Obeys d fun report =>
      report.index = index ∧ report.label = metric.label := by
  refine allows.resolveBelow.bind fun device found => ?_
  exact (allows.sample found.1).bind fun value _ => .pure ⟨found.2, rfl⟩

end Discipline.AllowsVisit

/-! ## Open sessions -/

/-- The discipline of an open session on a backend whose state keeps an invariant. -/
def Discipline.opened (h : Session σ) (inv : σ → Prop) (fault : Fault → Prop) :
    Discipline (Sessions σ) where
  inv s := s.phase h.id = .opened ∧ inv s.backends
  event _ := True
  fault := fault

/-- What the backend's replies have to be for a request of an open session to be within it. -/
theorem Session.asks_opened {h : Session σ} {inv : σ → Prop} {fault : Fault → Prop}
    {request : Request} {Q : request.Answer → Prop}
    (failures : ∀ f : Failure, f.kind ≠ .unavailable → fault (.failed f))
    (keeps : ∀ x, inv x → inv (h.backend.answer request x).state)
    (answers : ∀ x a, inv x → (h.backend.answer request x).result = .ok a → Q a)
    (refuses : ∀ x refusal, inv x → (h.backend.answer request x).result = .error refusal →
      (∃ reason, refusal = .declined reason) ∨ fault (.refused refusal)) :
    h.AsksWithin (.opened h inv fault) request Q := by
  intro failure available
  refine Run.Obeys.orFail ?_ fun reason => failures _ (available reason)
  rintro s ⟨isOpen, holds⟩
  -- In an open session the request goes through, and the reply is that of the backend alone.
  have reply : (h.ask request s).result =
      (h.backend.answer request s.backends).result.mapError .refused := by
    rw [Session.ask_of_opened isOpen]
    rfl
  refine ⟨?_, fun _ _ => trivial, ?_, ?_⟩
  · rw [Session.ask_of_opened isOpen]
    exact ⟨isOpen, keeps _ holds⟩
  · intro a answered
    rw [reply] at answered
    rcases given : (h.backend.answer request s.backends).result with refusal | b
    · rw [given] at answered
      cases answered
    · rw [given] at answered
      cases answered
      exact answers _ _ holds given
  · intro f failed
    rw [reply] at failed
    rcases given : (h.backend.answer request s.backends).result with refusal | b
    · rw [given] at failed
      cases failed
      rcases refuses _ refusal holds given with ⟨reason, rfl⟩ | allowed
      · exact .inr ⟨reason, rfl⟩
      · exact .inl allowed
    · rw [given] at failed
      cases failed

end GpuTelemetry
