import GpuTelemetry.Feed
import GpuTelemetry.Proofs.Dialogue
import GpuTelemetry.Proofs.Sampling.Answers
import GpuTelemetry.Proofs.Session.Heads
import GpuTelemetry.Proofs.Writing

/-!
# The course of a collection

What a collection says to its backend, stage by stage, as a grammar of exchanges with their results:
taking the latest sample, the rounds of an average, a reading, a look-up, a visit, all visits, and
the whole from the start to the shutdown (`Course`). Each stage goes on only behind a stage that
gave something, and each refusal has its failure beside it.

On a civil backend, a collection on an idle backend takes such a course: `Backend.Civil.course`.
The grammar has no failure for an index that is too long to be named, so there must be none
(`Nameable`).
-/

namespace GpuTelemetry

variable {σ : Type}

/-! ## The grammar -/

section Grammar

variable (metric : Metric) (window : Window) (advance : Bool)

/-- Taking the latest sample of a device since a cursor. -/
inductive Taking (device : Device) (cursor : Int) : List Exchange → Except Failure Sample → Prop
  | declined (reason : String) :
      Taking device cursor [⟨.samplesOf device.native metric cursor, .error (.declined reason)⟩]
        (.error (.samplesFailed metric device.index reason))
  | empty :
      Taking device cursor [⟨.samplesOf device.native metric cursor, .ok []⟩]
        (.error (.samplesEmpty metric device.index))
  | latest {samples : List Sample} {sample : Sample}
      (found : Sample.latest? samples = some sample) :
      Taking device cursor [⟨.samplesOf device.native metric cursor, .ok samples⟩] (.ok sample)

/-- The rounds that are left of an average, from a cursor and a sum. -/
inductive Rounds (device : Device) : Nat → Int → Int → List Exchange → Except Failure Int → Prop
  | done (cursor sum : Int) : Rounds device 0 cursor sum [] (.ok sum)
  | stopped {left : Nat} {cursor sum : Int} {log : List Exchange} {f : Failure}
      (taking : Taking metric device cursor log (.error f)) :
      Rounds device (left + 1) cursor sum log (.error f)
  | next {left : Nat} {cursor sum : Int} {early late : List Exchange} {sample : Sample}
      {result : Except Failure Int} (taking : Taking metric device cursor early (.ok sample))
      (rest : Rounds device left (if advance then sample.timestamp else cursor)
        (sum + sample.value) late result) :
      Rounds device (left + 1) cursor sum (early ++ late) result

/-- Reading a metric of a device, in the way that suits it. -/
inductive Reading (device : Device) : Metric → List Exchange → Except Failure Int → Prop
  | power (value : Int) : Reading device .power [⟨.powerOf device.native, .ok value⟩] (.ok value)
  | noPower (reason : String) :
      Reading device .power [⟨.powerOf device.native, .error (.declined reason)⟩]
        (.error (.powerFailed device.index reason))
  | clock (value : Int) :
      Reading device .frequency [⟨.clockOf device.native, .ok value⟩] (.ok value)
  | noClock (reason : String) :
      Reading device .frequency [⟨.clockOf device.native, .error (.declined reason)⟩]
        (.error (.clockFailed device.index reason))
  | averaged {metric : Metric} {log : List Exchange} {result : Except Failure Int}
      (sampled : metric.averaged = true)
      (rounds : Rounds metric advance device window.count 0 0 log result) :
      Reading device metric log (result.map (Int.fdiv · window.count))

/-- Counting the devices. -/
inductive Counting : List Exchange → Except Failure Int → Prop
  | declined (reason : String) :
      Counting [⟨.deviceCount, .error (.declined reason)⟩] (.error (.countFailed reason))
  | counted (count : Int) : Counting [⟨.deviceCount, .ok count⟩] (.ok count)

/-- Looking up the device at an index below a number of devices. -/
inductive Lookup (count index : Int) : List Exchange → Except Failure Device → Prop
  | outOfRange (outside : index < 0 ∨ count ≤ index) :
      Lookup count index [] (.error (.outOfRange index count))
  | noHandle (inside : 0 ≤ index ∧ index < count) (reason : String) :
      Lookup count index [⟨.handleAt index, .error (.declined reason)⟩]
        (.error (.handleFailed index reason))
  | noName (inside : 0 ≤ index ∧ index < count) (native : Native) (reason : String) :
      Lookup count index
        [⟨.handleAt index, .ok native⟩, ⟨.nameOf native, .error (.declined reason)⟩]
        (.error (.nameFailed index reason))
  | emptyName (inside : 0 ≤ index ∧ index < count) (native : Native) :
      Lookup count index [⟨.handleAt index, .ok native⟩, ⟨.nameOf native, .ok ""⟩]
        (.error (.nameEmpty index))
  | longName (inside : 0 ≤ index ∧ index < count) (native : Native) {name : String}
      (long : Failure.nameLimit < name.utf8ByteSize) :
      Lookup count index [⟨.handleAt index, .ok native⟩, ⟨.nameOf native, .ok name⟩]
        (.error (.nameTooLong index name.utf8ByteSize))
  | found (inside : 0 ≤ index ∧ index < count) (native : Native) {name : String}
      (named : name ≠ "") (fits : name.utf8ByteSize ≤ Failure.nameLimit) :
      Lookup count index [⟨.handleAt index, .ok native⟩, ⟨.nameOf native, .ok name⟩]
        (.ok ⟨index, name, native⟩)

/-- Looking up the device at an index and reading it. -/
inductive Visit (count index : Int) : List Exchange → Except Failure Report → Prop
  | lost {log : List Exchange} {f : Failure} (lookup : Lookup count index log (.error f)) :
      Visit count index log (.error f)
  | read {early late : List Exchange} {device : Device} {result : Except Failure Int}
      (lookup : Lookup count index early (.ok device))
      (reading : Reading window advance device metric late result) :
      Visit count index (early ++ late) (result.map (Report.of device metric))

/-- Visiting indices one after the other, up to the first visit that fails. -/
inductive Visits (count : Int) : List Int → List Exchange → Except Failure (List Report) → Prop
  | none : Visits count [] [] (.ok [])
  | stopped {index : Int} {others : List Int} {log : List Exchange} {f : Failure}
      (visit : Visit metric window advance count index log (.error f)) :
      Visits count (index :: others) log (.error f)
  | next {index : Int} {others : List Int} {early late : List Exchange} {report : Report}
      {result : Except Failure (List Report)}
      (visit : Visit metric window advance count index early (.ok report))
      (rest : Visits count others late result) :
      Visits count (index :: others) (early ++ late) (result.map (report :: ·))

/-- The indices that a collection visits: the given one, or all below the number of devices. -/
def selected (index? : Option Int) (count : Int) : List Int :=
  match index? with
  | some index => [index]
  | none => (List.range count.toNat).map Int.ofNat

/-- Counting the devices and visiting the selected ones. -/
inductive Round (index? : Option Int) : List Exchange → Except Failure (List Report) → Prop
  | uncounted {log : List Exchange} {f : Failure} (counting : Counting log (.error f)) :
      Round index? log (.error f)
  | visited {early late : List Exchange} {count : Int} {result : Except Failure (List Report)}
      (counting : Counting early (.ok count))
      (visits : Visits metric window advance count (selected index? count) late result) :
      Round index? (early ++ late) result

/-- A whole collection: a round in a session of its own. -/
abbrev Course (vendor : String) (index? : Option Int) :
    List Exchange → Except Failure (List Report) → Prop :=
  Served vendor (Round metric window advance index?)

end Grammar

/-- Every index that no device has is short enough to be named in a failure, and so is the number of
devices beside it. -/
def Nameable (count : Int) (indices : List Int) : Prop :=
  ∀ index ∈ indices, index < 0 ∨ count ≤ index →
    ∀ n ∈ [index, count], Numeral.digitCount n ≤ Numeral.digitLimit

/-- Only a given index can be out of range. -/
theorem given_of_outside {index? : Option Int} {count index : Int}
    (member : index ∈ selected index? count) (outside : index < 0 ∨ count ≤ index) :
    index? = some index := by
  cases index? with
  | some given => exact congrArg some (List.mem_singleton.mp member).symm
  | none =>
      obtain ⟨place, below, rfl⟩ := List.mem_map.mp member
      have := List.mem_range.mp below
      change (place : Int) < 0 ∨ count ≤ (place : Int) at outside
      omega

section Stages

variable {h : Session σ} {inv : σ → Prop} {issued : Native → Prop} {metric : Metric}
  {window : Window} {advance : Bool} (civil : h.backend.Civil inv issued)

include civil

theorem says_latest {device : Device} (known : issued device.native) (cursor : Int) :
    Says h inv (Taking metric device cursor)
      (Sampler.latest h.ask device metric cursor) := by
  have polite := issued_of_some known
  refine Says.bind (Says.ask civil (.samplesOf device.native metric cursor) polite _) ?_ ?_
  · intro log f asked
    cases asked with
    | declined reason => exact .declined reason
  · intro early samples asked
    cases asked with
    | answered _ _ _ =>
        cases found : Sample.latest? samples with
        | none =>
            rw [Sample.latest?_eq_none_iff.mp found]
            exact .fail _ .empty
        | some sample => exact .pure _ (.latest found)

theorem says_total {device : Device} (known : issued device.native) (whole : Window) (left : Nat) :
    ∀ cursor sum, Says h inv (Rounds metric advance device left cursor sum)
      (Sampler.total ⟨h, window, advance⟩ h.ask device metric whole left cursor sum) := by
  induction left with
  | zero =>
      intro cursor sum
      exact .pure _ (.done cursor sum)
  | succ left ih =>
      intro cursor sum
      refine Says.bind (says_latest civil known cursor) (fun log f taking => .stopped taking) ?_
      intro early sample taking
      refine Says.behind (fun _ => rfl) (fun _ => rfl) (fun _ => rfl) ?_
      have rest := (ih (if advance then sample.timestamp else cursor) (sum + sample.value)).mono
        fun late result rounds => Rounds.next taking rounds
      -- There is a pause only if a round is left, and the backend does not notice either way.
      cases left with
      | zero => exact .behind (fun _ => rfl) (fun _ => rfl) (fun _ => rfl) rest
      | succ left => exact .behind (fun _ => rfl) (fun _ => rfl) (fun _ => rfl) rest

theorem says_average {device : Device} (known : issued device.native)
    (sampled : metric.averaged = true) :
    Says h inv (Reading window advance device metric)
      (Sampler.average ⟨h, window, advance⟩ device metric window) := by
  rw [Sampler.average_eq_asks, if_pos sampled]
  refine Says.bind (says_total civil known window window.count 0 0) ?_ ?_
  · intro log f rounds
    exact .averaged sampled rounds
  · intro early sum rounds
    refine .pure _ ?_
    rw [List.append_nil]
    exact .averaged sampled rounds

theorem says_sample {device : Device} (known : issued device.native) :
    Says h inv (Reading window advance device metric)
      (Sampler.sample ⟨h, window, advance⟩ device metric none) := by
  have polite := issued_of_some known
  cases metric with
  | power =>
      refine (Says.ask civil (.powerOf device.native) polite _).mono ?_
      intro log result asked
      cases asked with
      | declined reason => exact .noPower reason
      | answered value _ _ => exact .power value
  | frequency =>
      refine (Says.ask civil (.clockOf device.native) polite _).mono ?_
      intro log result asked
      cases asked with
      | declined reason => exact .noClock reason
      | answered value _ _ => exact .clock value
  | utilization => exact says_average civil known rfl
  | memoryUtilization => exact says_average civil known rfl
  | totalPower => exact says_average civil known rfl

/-- A device that is found has a handle that the backend issued. -/
theorem says_resolveBelow {count index : Int} (nameable : Nameable count [index]) :
    Says h inv (fun log result => Lookup count index log result ∧
        ∀ device, result = .ok device → issued device.native)
      (h.resolveBelow count index) := by
  rw [Session.resolveBelow_eq_asks]
  split
  · rename_i outside
    have short := nameable index List.mem_cons_self outside
    -- The number is short enough to be named, so the failure is the one in words.
    rw [Session.missing_of_short (short index (by simp)) (short count (by simp))]
    exact .fail _ ⟨.outOfRange outside, fun device failed => nomatch failed⟩
  · rename_i within
    have inside : 0 ≤ index ∧ index < count := by omega
    refine Says.bind (Says.ask civil (.handleAt index) (fun _ none => nomatch none) _) ?_ ?_
    · intro log f asked
      cases asked with
      | declined reason => exact ⟨.noHandle inside reason, fun device failed => nomatch failed⟩
    · intro early native asked
      cases asked with
      | answered _ holds given =>
          -- From here on the handle is one that the backend has issued.
          have known : issued native := civil.issues index _ native holds given
          refine Says.bind (Says.ask civil (.nameOf native) (issued_of_some known) _) ?_ ?_
          · intro log f asked
            cases asked with
            | declined reason =>
                exact ⟨.noName inside native reason, fun device failed => nomatch failed⟩
          · intro early name asked
            cases asked with
            | answered _ _ _ =>
                unfold Session.accept Session.nameProblem?
                by_cases empty : name = ""
                · rw [if_pos empty, empty]
                  exact .fail _ ⟨.emptyName inside native, fun device failed => nomatch failed⟩
                · rw [if_neg empty]
                  by_cases long : Failure.nameLimit < name.utf8ByteSize
                  · rw [if_pos long]
                    exact .fail _
                      ⟨.longName inside native long, fun device failed => nomatch failed⟩
                  · rw [if_neg long]
                    refine .pure _ ⟨.found inside native empty (Nat.le_of_not_lt long), ?_⟩
                    intro device same
                    cases same
                    exact known

theorem says_report {count index : Int} (nameable : Nameable count [index]) :
    Says h inv (Visit metric window advance count index)
      (h.report ⟨h, window, advance⟩ metric count index) := by
  refine Says.bind (says_resolveBelow civil nameable) (fun log f lookup => .lost lookup.1) ?_
  rintro early device ⟨lookup, known⟩
  refine Says.bind (says_sample civil (known device rfl)) ?_ ?_
  · intro late f reading
    exact .read lookup reading
  · intro late value reading
    refine .pure _ ?_
    rw [List.append_nil]
    exact .read lookup reading

theorem says_visits {count : Int} {indices : List Int} (nameable : Nameable count indices) :
    Says h inv (Visits metric window advance count indices)
      (Run.each (h.report ⟨h, window, advance⟩ metric count) indices) := by
  induction indices with
  | nil => exact .pure _ .none
  | cons index others ih =>
      obtain ⟨first, rest⟩ := List.forall_mem_cons.mp nameable
      refine Says.bind (says_report civil (List.forall_mem_singleton.mpr first))
        (fun log f visit => .stopped visit) ?_
      intro early report visit
      refine Says.bind (ih rest) ?_ ?_
      · intro late f visits
        exact .next visit visits
      · intro late reports visits
        refine .pure _ ?_
        rw [List.append_nil]
        exact .next visit visits

/-- The devices are counted as the backend counts them. -/
theorem says_countDevices :
    Says h inv (fun log result => Counting log result ∧ ∀ count, result = .ok count →
        ∃ x, inv x ∧ (h.backend.answer .deviceCount x).result = .ok count)
      h.countDevices := by
  unfold Session.countDevices
  refine Says.bind (Says.ask civil .deviceCount (fun _ none => nomatch none) _) ?_ ?_
  · intro log f asked
    cases asked with
    | declined reason => exact ⟨.declined reason, fun count failed => nomatch failed⟩
  · intro early count asked
    cases asked with
    | @answered count x holds given =>
        refine .behind (fun _ => rfl) (fun _ => rfl) (fun _ => rfl) (.pure count ?_)
        refine ⟨.counted count, fun count' same => ?_⟩
        cases same
        exact ⟨x, holds, given⟩

end Stages

/-! ## Indices -/

/-- Visiting indices one by one as they come is visiting them as a list. -/
theorem Indices.visit_eq_each {α : Type} (visit : Int → Run σ α) (indices : Indices) :
    indices.visit visit = Run.each visit indices.toList := by
  cases indices with
  | listed indices => rfl
  | successive next left =>
      show visitSuccessive visit next left = Run.each visit (toList.go next left)
      induction left generalizing next with
      | zero => rfl
      | succ left ih =>
          show (visit next >>= fun first => visitSuccessive visit (next + 1) left >>= _) = _
          rw [ih]
          rfl

theorem Indices.go_eq_map (next : Int) (left : Nat) :
    toList.go next left = (List.range left).map fun (place : Nat) => next + place := by
  induction left generalizing next with
  | zero => rfl
  | succ left ih =>
      rw [List.range_succ_eq_map, List.map_cons, List.map_map]
      show next :: toList.go (next + 1) left = _
      rw [ih]
      have first : next + ((0 : Nat) : Int) = next := by omega
      rw [first]
      refine congrArg (next :: ·) (List.map_congr_left fun place _ => ?_)
      show next + 1 + (place : Int) = next + ((place + 1 : Nat) : Int)
      omega

/-- The indices of a collection are the selected ones. -/
theorem Indices.toList_orBelow (index? : Option Int) (count : Int) :
    (orBelow (index?.map ([·])) count).toList = selected index? count := by
  cases index? with
  | some index => rfl
  | none =>
      show toList.go 0 count.toNat = (List.range count.toNat).map Int.ofNat
      rw [go_eq_map]
      exact List.map_congr_left fun place _ => Int.zero_add place

/-! ## Whole collections -/

section Collections

variable {b : Backend σ} {inv : σ → Prop} {issued : Native → Prop}

theorem says_round {h : Session σ} (civil : h.backend.Civil inv issued) (metric : Metric)
    (window : Window) (advance : Bool) {index? : Option Int}
    (nameable : ∀ x count, inv x → (h.backend.answer .deviceCount x).result = .ok count →
      Nameable count (selected index? count)) :
    Says h inv (Round metric window advance index?) (do
      let count ← h.countDevices
      (Indices.orBelow (index?.map ([·])) count).visit
        (h.report ⟨h, window, advance⟩ metric count)) := by
  refine Says.bind (says_countDevices civil) (fun log f counting => .uncounted counting.1) ?_
  rintro early count ⟨counting, counted⟩
  obtain ⟨x, holds, given⟩ := counted count rfl
  rw [Indices.visit_eq_each, Indices.toList_orBelow]
  exact (says_visits civil (nameable x count holds given)).mono fun late result visits =>
    .visited counting visits

/-- On an idle and civil backend a collection takes its course. -/
theorem Backend.Civil.course (civil : b.Civil inv issued) {s : Sessions σ}
    (idle : s.busy b.id = false) (holds : inv s.backends) (metric : Metric) {index? : Option Int}
    (nameable : ∀ x count, inv x → (b.answer .deviceCount x).result = .ok count →
      Nameable count (selected index? count)) (window? : Option Window) (advance : Bool) :
    ∃ log result, Amounts b s (collect b metric index? window? advance s) log result ∧
      Course metric (window?.getD .single) advance b.vendor index? log result :=
  Says.within civil idle holds
    (says_round civil metric (window?.getD .single) advance nameable)

end Collections

end GpuTelemetry
