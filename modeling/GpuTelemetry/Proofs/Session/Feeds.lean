import GpuTelemetry.Feed
import GpuTelemetry.Proofs.Collection.Course
import GpuTelemetry.Proofs.Discipline
import GpuTelemetry.Proofs.Session.Lookup

/-!
# The next report of a feed

A feed that has not been asked yet counts the devices, unless their number is known, and from then
on it goes through the indices that are left, one at a time (`Feed.Advancing`). A report asks for
nothing but the handle at its index and for what its metric is read from by the handle that was
answered (`Session.About`).

Main statements: `Session.about_report` and `Feed.advancing`.
-/

namespace GpuTelemetry

variable {σ : Type}

/-! ## What a report asks for -/

/-- The discipline of asking for nothing but a metric of the device with a handle. -/
def Discipline.reading (metric : Metric) (native : Native) : Discipline σ where
  inv _ := True
  event e := ∀ c, e.call? = some c → c.request.device? = some native ∧ c.request.reads metric
  fault _ := True

theorem Run.Obeys.reads {α : Type} {metric : Metric} {native : Native} {Q : α → Prop}
    {body : Run σ α} (obeys : body.Obeys (.reading metric native) Q) (s : σ) :
    ∀ c ∈ (body s).calls, c.request.device? = some native ∧ c.request.reads metric := by
  intro c member
  obtain ⟨event, listed, called⟩ := List.mem_filterMap.mp member
  exact (obeys s trivial).events event listed c called

namespace Session

open Run (Obeys)

theorem allowsReading (h : Session σ) (metric : Metric) (native : Native) :
    (Discipline.reading metric native).AllowsReading h metric (· = native) where
  note n c called := by cases called
  pause seconds c called := by cases called
  failure _ _ := trivial
  device request other named same reads failure _ := by
    subst same
    refine Obeys.orFail ?_ fun _ => trivial
    refine Obeys.bind (Q := fun _ => True) ?_ fun _ _ => ?_
    · refine Obeys.bind (Q := fun _ => True) .look fun phase _ => ?_
      split
      · exact .pure trivial
      · exact .fault (.inl trivial)
    · intro s _
      -- The call itself reads from the handle; all else that comes with it are notes.
      refine ⟨trivial, fun event member c called => ?_, fun _ _ => trivial, fun _ _ => .inl trivial⟩
      rcases List.mem_cons.mp member with rfl | note
      · cases called
        exact ⟨named, reads⟩
      · obtain ⟨n, _, rfl⟩ := List.mem_map.mp note
        cases called

/-- A call for a report of the device at an index: for the handle at the index, or for what the
metric is read from by the handle that is answered. -/
def About (h : Session σ) (metric : Metric) (index : Int) (t : Sessions σ) (c : Call) : Prop :=
  c.request = .handleAt index ∨
    ∃ native, (h.backend.answer (.handleAt index) t.backends).result = .ok native ∧
      c.request.device? = some native ∧ c.request.reads metric

variable {h : Session σ} {s : Sampler σ} {metric : Metric} {count index : Int} {t : Sessions σ}

/-- Such a call counts no devices. -/
theorem About.ne_deviceCount {c : Call} (about : h.About metric index t c) :
    c.request ≠ .deviceCount := by
  rintro same
  rcases about with handle | ⟨native, _, named, _⟩
  · rw [same] at handle
    cases handle
  · rw [same] at named
    cases named

theorem about_resolveBelow : ∀ c ∈ (h.resolveBelow count index t).calls,
    h.About metric index t c := by
  intro c member
  rcases calls_resolveBelow c member with handle | ⟨native, handle, name⟩
  · exact .inl handle
  · rw [About, name]
    exact .inr ⟨native, handle, rfl, trivial⟩

/-- A device that is found has the index at which it was looked up, and the handle there. -/
theorem found_of_resolveBelow {device : Device}
    (found : (h.resolveBelow count index t).result = .ok device) :
    device.index = index ∧
      (h.backend.answer (.handleAt index) t.backends).result = .ok device.native := by
  by_cases isOpen : t.phase h.id = .opened
  · cases h.resolving isOpen count index with
    | outOfRange outside same =>
        rw [same] at found
        cases found
    | noHandle refusal inside reply result state calls => cases result.symm.trans found
    | noName native refusal inside handle reply result state calls =>
        cases result.symm.trans found
    | named native name inside handle reply unfit fit state calls =>
        rcases problem : nameProblem? index name with _ | f
        · cases (fit problem).symm.trans found
          -- A name that fits leaves the device as it was put together.
          exact ⟨rfl, handle⟩
        · cases (unfit f problem).symm.trans found
  · obtain ⟨fault, same⟩ := resolveBelow_of_not_opened isOpen count index
    rw [same] at found
    cases found

/-- All calls for a report are about it. -/
theorem about_report : ∀ c ∈ (h.report s metric count index t).calls,
    h.About metric index t c := by
  intro c member
  unfold report at member
  rcases found : (h.resolveBelow count index t).result with fault | device
  · rw [Run.calls_bind_of_error _ found] at member
    exact about_resolveBelow c member
  · rw [Run.calls_bind_of_ok _ found, List.mem_append] at member
    rcases member with first | later
    · exact about_resolveBelow c first
    · have sampled : ((s.sample device metric none >>= fun value =>
          pure (Report.of device metric value)) : Run (Sessions σ) Report).Obeys
          (.reading metric device.native) fun _ => True :=
        ((s.session.allowsReading metric device.native).sample rfl).bind fun _ _ => .pure trivial
      -- What is sampled is the handle that the look-up was given.
      exact .inr ⟨device.native, (found_of_resolveBelow found).2, sampled.reads _ c later⟩

/-- And it is a report of the metric and of the index. -/
theorem report_is_of {report : Report}
    (given : (h.report s metric count index t).result = .ok report) :
    report.index = index ∧ report.label = metric.label := by
  unfold Session.report at given
  rcases found : (h.resolveBelow count index t).result with fault | device
  · rw [Run.bind_of_error _ found] at given
    cases given
  · rw [Run.bind_of_ok _ found] at given
    dsimp only at given
    rcases value : (s.sample device metric none (h.resolveBelow count index t).state).result with
      fault | n
    · rw [Run.bind_of_error _ value] at given
      cases given
    · rw [Run.bind_of_ok _ value] at given
      cases given
      exact ⟨(found_of_resolveBelow found).1, rfl⟩

/-! ## Counting -/

variable (h : Session σ) (t : Sessions σ)

/-- Only the number of devices is asked for. -/
theorem countUnless_calls (count? : Option Int) :
    ∀ c ∈ (h.countUnless count? t).calls, c.request = .deviceCount := by
  cases count? with
  | some count =>
      intro c member
      cases member
  | none =>
      intro c member
      by_cases isOpen : t.phase h.id = .opened
      · have called : c ∈ (h.countDevices t).calls := member
        rw [(countDevices_of_opened isOpen).2.2, List.mem_singleton] at called
        rw [called]
        rfl
      · have called : c ∈ (h.countDevices t).calls := member
        rw [countDevices_of_not_opened isOpen] at called
        cases called

/-- And only if it is not known and the session is open. -/
theorem exists_call_countUnless_iff (count? : Option Int) :
    (∃ c, c ∈ (h.countUnless count? t).calls) ↔ count? = none ∧ t.phase h.id = .opened := by
  cases count? with
  | some count =>
      constructor
      · rintro ⟨c, member⟩
        cases member
      · rintro ⟨same, _⟩
        cases same
  | none =>
      show (∃ c, c ∈ (h.countDevices t).calls) ↔ _
      by_cases isOpen : t.phase h.id = .opened
      · rw [(countDevices_of_opened isOpen).2.2]
        exact ⟨fun _ => ⟨rfl, isOpen⟩, fun _ => ⟨_, List.mem_singleton_self _⟩⟩
      · rw [countDevices_of_not_opened isOpen]
        exact ⟨fun ⟨_, member⟩ => (nomatch member), fun ⟨_, opened⟩ => absurd opened isOpen⟩

/-- What is done ahead of the report at a place of the order: behind the first one, nothing. -/
def ahead (h : Session σ) (count? : Option Int) : Nat → Run (Sessions σ) Unit
  | 0 => do
    let _ ← h.countUnless count?
    return ()
  | _ + 1 => return ()

theorem ahead_zero (count? : Option Int) :
    (h.ahead count? 0 t).state = (h.countUnless count? t).state ∧
      (h.ahead count? 0 t).calls = (h.countUnless count? t).calls := by
  show ((h.countUnless count? >>= fun _ => pure ()) t).state = _ ∧
    ((h.countUnless count? >>= fun _ => pure ()) t).calls = _
  rcases counting : (h.countUnless count? t).result with fault | count
  · rw [Run.calls_bind_of_error _ counting, Run.bind_of_error _ counting]
    exact ⟨rfl, rfl⟩
  · rw [Run.calls_bind_of_ok _ counting, Run.bind_of_ok _ counting]
    exact ⟨rfl, List.append_nil _⟩

theorem ahead_calls (count? : Option Int) (place : Nat) :
    ∀ c ∈ (h.ahead count? place t).calls, c.request = .deviceCount := by
  intro c member
  cases place with
  | zero =>
      rw [(h.ahead_zero t count?).2] at member
      exact h.countUnless_calls t count? c member
  | succ place => cases member

theorem exists_call_ahead_iff (count? : Option Int) (place : Nat) :
    (∃ c, c ∈ (h.ahead count? place t).calls) ↔
      place = 0 ∧ count? = none ∧ t.phase h.id = .opened := by
  cases place with
  | zero =>
      rw [(h.ahead_zero t count?).2, h.exists_call_countUnless_iff t count?]
      exact ⟨fun both => ⟨rfl, both⟩, And.right⟩
  | succ place =>
      constructor
      · rintro ⟨c, member⟩
        cases member
      · rintro ⟨same, _⟩
        cases same

end Session

/-! ## Indices one at a time -/

namespace Indices

theorem next?_of_nil {left : Indices} (empty : left.toList = []) : left.next? = none := by
  cases left with
  | listed indices =>
      obtain rfl : indices = [] := empty
      rfl
  | successive next left =>
      cases left with
      | zero => rfl
      | succ left => cases empty

theorem next?_of_cons {left : Indices} {index : Int} {others : List Int}
    (split : left.toList = index :: others) :
    ∃ rest, left.next? = some (index, rest) ∧ rest.toList = others := by
  cases left with
  | listed indices =>
      obtain rfl : indices = index :: others := split
      exact ⟨_, rfl, rfl⟩
  | successive next left =>
      cases left with
      | zero => cases split
      | succ left =>
          obtain ⟨rfl, rfl⟩ := List.cons.inj (show next :: toList.go (next + 1) left = _ from split)
          exact ⟨_, rfl, rfl⟩

/-- The indices that are visited, in order. -/
def order (indices? : Option (List Int)) (count : Int) : List Int :=
  indices?.getD ((List.range count.toNat).map Int.ofNat)

theorem toList_orBelow_eq_order (indices? : Option (List Int)) (count : Int) :
    (orBelow indices? count).toList = order indices? count := by
  cases indices? with
  | none => exact toList_orBelow none count
  | some indices => rfl

end Indices

namespace Feed

variable (f : Feed σ) (count : Int) (left : Indices) (t : Sessions σ)

/-- The ways in which a feed goes on when the number of devices is known. -/
inductive Advancing : Prop
  | finished (empty : left.toList = []) (same : f.advance count left t = ⟨.ok none, t, []⟩)
  | stopped (index : Int) (others : List Int) (fault : Fault)
      (split : left.toList = index :: others)
      (failed : (f.session.report f.sampler f.metric count index t).result = .error fault)
      (result : (f.advance count left t).result = .error fault)
      (calls : (f.advance count left t).calls =
        (f.session.report f.sampler f.metric count index t).calls)
  /-- A report is given, and the other indices are left. -/
  | gave (index : Int) (others : List Int) (report : Report) (rest : Indices)
      (split : left.toList = index :: others) (behind : rest.toList = others)
      (given : (f.session.report f.sampler f.metric count index t).result = .ok report)
      (result : (f.advance count left t).result = .ok (some (report, .running count rest)))
      (calls : (f.advance count left t).calls =
        (f.session.report f.sampler f.metric count index t).calls)

theorem advancing : f.Advancing count left t := by
  rcases all : left.toList with _ | ⟨index, others⟩
  · refine .finished all ?_
    unfold advance
    rw [Indices.next?_of_nil all]
    rfl
  · obtain ⟨rest, next, behind⟩ := Indices.next?_of_cons all
    have unfolded : f.advance count left =
        (f.session.report f.sampler f.metric count index >>= fun report =>
          pure (some (report, .running count rest))) := by
      unfold advance
      rw [next]
    -- One report is made for the first index that is left, and the stage moves on only behind it.
    rcases outcome : (f.session.report f.sampler f.metric count index t).result with fault | report
    · refine .stopped index others fault all outcome ?_ ?_
      · rw [unfolded, Run.bind_of_error _ outcome]
      · rw [unfolded, Run.calls_bind_of_error _ outcome]
    · refine .gave index others report rest all behind outcome ?_ ?_
      · rw [unfolded, Run.bind_of_ok _ outcome]
        rfl
      · rw [unfolded, Run.calls_bind_of_ok _ outcome]
        exact List.append_nil _

/-- The report of an index at a place of the order, behind what is done ahead of it. -/
def reportAt (f : Feed σ) (count? : Option Int) (place : Nat) (count index : Int)
    (t : Sessions σ) : Outcome (Sessions σ) Report :=
  f.session.report f.sampler f.metric count index (f.session.ahead count? place t).state

/-- The stage behind what a feed gives. -/
def Stage.behind : Except Fault (Option (Report × Stage)) → Stage
  | .ok (some (_, stage)) => stage
  | .ok none | .error _ => .ended

/-- The stages of a feed by how often it has been asked, where a number of devices is `counted` if
it has been found out. -/
inductive Stage.Reached (counted : Int → Prop) (indices? : Option (List Int))
    (count? : Option Int) : Nat → Stage → Prop
  | unstarted : Reached counted indices? count? 0 (.unstarted indices? count?)
  | running {place : Nat} {count : Int} {left : Indices} (known : counted count)
      (behind : left.toList = (Indices.order indices? count).drop (place + 1)) :
      Reached counted indices? count? (place + 1) (.running count left)
  | ended {place : Nat} : Reached counted indices? count? (place + 1) .ended

/-- The number of devices does not matter before the feed is asked. -/
theorem Stage.Reached.mono {counted other : Int → Prop} {indices? : Option (List Int)}
    {count? : Option Int} {place : Nat} {stage : Stage}
    (reached : stage.Reached counted indices? count? place)
    (weaker : place ≠ 0 → ∀ count, counted count → other count) :
    stage.Reached other indices? count? place := by
  cases reached with
  | unstarted => exact .unstarted
  | running known behind => exact .running (weaker (Nat.succ_ne_zero _) _ known) behind
  | ended => exact .ended

variable (counted : Int → Prop) (indices? : Option (List Int)) (count? : Option Int) (place : Nat)

/-- The ways in which a feed that has been asked so often is asked once more. -/
inductive Nexting : Prop
  | ended (later : place ≠ 0) (stage : f.stage = .ended) (same : f.next t = ⟨.ok none, t, []⟩)
  | uncounted (fault : Fault) (first : place = 0)
      (failed : (f.session.countUnless count? t).result = .error fault)
      (result : (f.next t).result = .error fault)
      (calls : (f.next t).calls = (f.session.ahead count? place t).calls)
  | finished (count : Int) (known : counted count)
      (exhausted : (Indices.order indices? count)[place]? = none)
      (result : (f.next t).result = .ok none)
      (calls : (f.next t).calls = (f.session.ahead count? place t).calls)
  | stopped (count index : Int) (fault : Fault) (known : counted count)
      (here : (Indices.order indices? count)[place]? = some index)
      (failed : (f.reportAt count? place count index t).result = .error fault)
      (result : (f.next t).result = .error fault)
      (calls : (f.next t).calls =
        (f.session.ahead count? place t).calls ++ (f.reportAt count? place count index t).calls)
  | gave (count index : Int) (report : Report) (rest : Indices) (known : counted count)
      (here : (Indices.order indices? count)[place]? = some index)
      (behind : rest.toList = (Indices.order indices? count).drop (place + 1))
      (given : (f.reportAt count? place count index t).result = .ok report)
      (result : (f.next t).result = .ok (some (report, .running count rest)))
      (calls : (f.next t).calls =
        (f.session.ahead count? place t).calls ++ (f.reportAt count? place count index t).calls)

variable {f count left t counted indices? count? place}

/-- Going on from a place of the order, behind what is done ahead of it. -/
theorem nexting_of_advancing (known : counted count)
    (split : left.toList = (Indices.order indices? count).drop place)
    (result : (f.next t).result =
      (f.advance count left (f.session.ahead count? place t).state).result)
    (calls : (f.next t).calls = (f.session.ahead count? place t).calls ++
      (f.advance count left (f.session.ahead count? place t).state).calls) :
    f.Nexting t counted indices? count? place := by
  -- What is left begins with the index at the place, if there is one.
  have here : (Indices.order indices? count)[place]? = left.toList.head? := by
    rw [split, List.head?_drop]
  have behind : (Indices.order indices? count).drop (place + 1) = left.toList.tail := by
    rw [split, List.tail_drop]
  cases f.advancing count left (f.session.ahead count? place t).state with
  | finished empty same =>
      rw [same] at result calls
      rw [empty] at here
      exact .finished count known here result (calls.trans (List.append_nil _))
  | stopped index others fault all failed ends asked =>
      rw [all] at here
      exact .stopped count index fault known here failed (result.trans ends) (asked ▸ calls)
  | gave index others report rest all remaining given ends asked =>
      rw [all] at here behind
      exact .gave count index report rest known here (remaining.trans behind.symm) given
        (result.trans ends) (asked ▸ calls)

/-- A feed that has come to its end gives nothing and does nothing. -/
theorem next_of_ended (ended : f.stage = .ended) (t : Sessions σ) :
    f.next t = ⟨.ok none, t, []⟩ := by
  unfold next
  rw [ended]
  rfl

theorem nexting (reached : f.stage.Reached counted indices? count? place)
    (first : place = 0 →
      ∀ count, (f.session.countUnless count? t).result = .ok count → counted count) :
    f.Nexting t counted indices? count? place := by
  generalize stage : f.stage = now at reached
  cases reached with
  | unstarted =>
      have unfolded : f.next = (f.session.countUnless count? >>= fun count =>
          f.advance count (.orBelow indices? count)) := by
        unfold next
        rw [stage]
      -- At its first step the feed counts the devices before it takes up an index.
      obtain ⟨state, calls⟩ := f.session.ahead_zero t count?
      rcases counting : (f.session.countUnless count? t).result with fault | count
      · refine .uncounted fault rfl counting ?_ ?_
        · rw [unfolded, Run.bind_of_error _ counting]
        · rw [unfolded, Run.calls_bind_of_error _ counting]
          exact calls.symm
      · refine nexting_of_advancing (first rfl count counting)
          (Indices.toList_orBelow_eq_order indices? count) ?_ ?_
        · rw [state, unfolded, Run.bind_of_ok _ counting]
        · rw [state, calls, unfolded, Run.calls_bind_of_ok _ counting]
  | @running place count left known behind =>
      have unfolded : f.next = f.advance count left := by
        unfold next
        rw [stage]
      -- A running feed has counted already, and nothing is done ahead of its report.
      refine nexting_of_advancing known behind ?_ ?_
      · rw [unfolded]
        rfl
      · rw [unfolded]
        rfl
  | ended => exact .ended (Nat.succ_ne_zero _) stage (next_of_ended stage t)

/-- However it went, the feed has been asked once more. -/
theorem Nexting.reached (nexting : f.Nexting t counted indices? count? place) :
    (Stage.behind (f.next t).result).Reached counted indices? count? (place + 1) := by
  cases nexting with
  | ended later stage same =>
      rw [same]
      exact .ended
  | uncounted fault first failed result calls =>
      rw [result]
      exact .ended
  | finished count known exhausted result calls =>
      rw [result]
      exact .ended
  | stopped count index fault known here failed result calls =>
      rw [result]
      exact .ended
  | gave count index report rest known here behind given result calls =>
      rw [result]
      exact .running known behind

/-- A report is the one of the index at the place, and the feed goes on behind it. -/
theorem Nexting.gives (nexting : f.Nexting t counted indices? count? place) {report : Report}
    {stage : Stage} (given : (f.next t).result = .ok (some (report, stage))) :
    stage ≠ .ended ∧ ∃ count index, counted count ∧
      (Indices.order indices? count)[place]? = some index ∧
      (f.reportAt count? place count index t).result = .ok report := by
  cases nexting with
  | ended later ended same => cases (congrArg Outcome.result same).symm.trans given
  | uncounted fault first failed result calls => cases result.symm.trans given
  | finished count known exhausted result calls => cases result.symm.trans given
  | stopped count index fault known here failed result calls => cases result.symm.trans given
  | gave count index report rest known here behind made result calls =>
      cases result.symm.trans given
      exact ⟨Stage.noConfusion, count, index, known, here, made⟩

/-- A feed that has not ended tries the index at its place, if it can count the devices. -/
theorem Nexting.goesOn (nexting : f.Nexting t counted indices? count? place)
    (unended : f.stage ≠ .ended) {index : Int} (only : ∀ other, counted other → other = count)
    (first : place = 0 → (f.session.countUnless count? t).result = .ok count)
    (here : (Indices.order indices? count)[place]? = some index) :
    (∃ fault, (f.reportAt count? place count index t).result = .error fault ∧
        (f.next t).result = .error fault) ∨
      ∃ report stage, (f.reportAt count? place count index t).result = .ok report ∧
        (f.next t).result = .ok (some (report, stage)) := by
  cases nexting with
  | ended later ended same => exact absurd ended unended
  | uncounted fault atFirst failed result calls => cases failed.symm.trans (first atFirst)
  | finished other known exhausted result calls =>
      obtain rfl := only other known
      cases exhausted.symm.trans here
  | stopped other index fault known there failed result calls =>
      obtain rfl := only other known
      cases there.symm.trans here
      exact .inl ⟨fault, failed, result⟩
  | gave other index report rest known there behind made result calls =>
      obtain rfl := only other known
      cases there.symm.trans here
      exact .inr ⟨report, _, made, result⟩

/-- Whatever is asked for beside the number of devices is asked for the report at the place. -/
theorem Nexting.asks (nexting : f.Nexting t counted indices? count? place) :
    ∀ c ∈ (f.next t).calls, c ∈ (f.session.ahead count? place t).calls ∨
      ∃ count index, counted count ∧ (Indices.order indices? count)[place]? = some index ∧
        f.session.About f.metric index (f.session.ahead count? place t).state c := by
  intro c member
  cases nexting with
  | ended later stage same =>
      rw [same] at member
      cases member
  | uncounted fault first failed result calls => exact .inl (calls ▸ member)
  | finished count known exhausted result calls => exact .inl (calls ▸ member)
  | stopped count index fault known here failed result calls
  | gave count index report rest known here behind given result calls =>
      rw [calls, List.mem_append] at member
      rcases member with early | late
      · exact .inl early
      · exact .inr ⟨count, index, known, here, Session.about_report c late⟩

/-- All that is done ahead is done. -/
theorem Nexting.ahead_subset (nexting : f.Nexting t counted indices? count? place) :
    (f.session.ahead count? place t).calls ⊆ (f.next t).calls := by
  cases nexting with
  | ended later stage same =>
      intro c member
      cases place with
      | zero => exact absurd rfl later
      | succ place => cases member
  | uncounted fault first failed result calls => rw [calls]; exact List.Subset.refl _
  | finished count known exhausted result calls => rw [calls]; exact List.Subset.refl _
  | stopped count index fault known here failed result calls
  | gave count index report rest known here behind given result calls =>
      rw [calls]
      exact List.subset_append_left _ _

/-- The devices are counted at the first place, if their number is not known and the session is
open, and at no other. -/
theorem Nexting.counts (nexting : f.Nexting t counted indices? count? place) :
    (∃ c ∈ (f.next t).calls, c.request = .deviceCount) ↔
      place = 0 ∧ count? = none ∧ t.phase f.session.id = .opened := by
  rw [← f.session.exists_call_ahead_iff t]
  constructor
  · rintro ⟨c, member, counts⟩
    rcases nexting.asks c member with early | ⟨count, index, _, _, about⟩
    · exact ⟨c, early⟩
    · exact absurd counts about.ne_deviceCount
  · rintro ⟨c, member⟩
    exact ⟨c, nexting.ahead_subset member, f.session.ahead_calls t count? place c member⟩

end Feed

end GpuTelemetry
