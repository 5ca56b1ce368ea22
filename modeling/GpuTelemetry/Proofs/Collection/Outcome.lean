import GpuTelemetry.Proofs.Collection.Course

/-!
# The outcome of a collection

Which failure an exchange leads to, if it does (`Exchange.failure?`), and what follows from the
course of a collection for its outcome (`Conduct`): behind an exchange that leads to a failure there
is nothing but a shutdown, there are reports exactly if nothing failed, one for each selected index,
and otherwise the failure is that of the one exchange, or of the index that is out of range.

Main statement: `Course.conduct`.
-/

namespace GpuTelemetry

namespace Exchange

/-- The failure that an exchange leads to, if any, told for the device at an index. A shutdown leads
to none. -/
def failure? (vendor : String) (index : Int) : Exchange → Option Failure
  | ⟨.start, .error (.declined reason)⟩ => some (.startFailed vendor reason)
  | ⟨.deviceCount, .error (.declined reason)⟩ => some (.countFailed reason)
  | ⟨.handleAt index, .error (.declined reason)⟩ => some (.handleFailed index reason)
  | ⟨.nameOf _, .error (.declined reason)⟩ => some (.nameFailed index reason)
  | ⟨.nameOf _, .ok name⟩ => Session.nameProblem? index name
  | ⟨.powerOf _, .error (.declined reason)⟩ => some (.powerFailed index reason)
  | ⟨.clockOf _, .error (.declined reason)⟩ => some (.clockFailed index reason)
  | ⟨.samplesOf _ metric _, .error (.declined reason)⟩ => some (.samplesFailed metric index reason)
  | ⟨.samplesOf _ metric _, .ok []⟩ => some (.samplesEmpty metric index)
  | _ => none

/-- The kind of failure that an exchange can lead to. -/
def failureKind : Exchange → FailureKind
  | ⟨.start, _⟩ => .unavailable
  | ⟨.deviceCount, _⟩ | ⟨.handleAt _, _⟩ | ⟨.nameOf _, .error _⟩ => .queryFailed
  | ⟨.nameOf _, .ok name⟩ => if name = "" then .queryFailed else .nameTooLong
  | ⟨.powerOf _, _⟩ | ⟨.clockOf _, _⟩ | ⟨.samplesOf .., _⟩ => .sampleFailed
  | ⟨.shutdown, _⟩ => .general

/-- An exchange that leads to no failure. -/
def Fine (e : Exchange) : Prop := ∀ vendor index, e.failure? vendor index = none

theorem kind_of_nameProblem? {index : Int} {name : String} {f : Failure}
    (told : Session.nameProblem? index name = some f) :
    f.kind = if name = "" then .queryFailed else .nameTooLong := by
  unfold Session.nameProblem? at told
  by_cases empty : name = ""
  · rw [if_pos empty] at told ⊢
    cases told
    rfl
  · rw [if_neg empty] at told ⊢
    split at told
    · cases told
      rfl
    · cases told

theorem kind_of_failure? {e : Exchange} {vendor : String} {index : Int} {f : Failure}
    (told : e.failure? vendor index = some f) : f.kind = e.failureKind := by
  unfold failure? at told
  split at told
  case h_5 name => exact kind_of_nameProblem? told
  case h_10 => cases told
  all_goals
    cases told
    rfl

theorem fine_name {native : Native} {name : String} (named : name ≠ "")
    (fits : name.utf8ByteSize ≤ Failure.nameLimit) : Fine ⟨.nameOf native, .ok name⟩ := by
  intro vendor index
  show Session.nameProblem? index name = none
  unfold Session.nameProblem?
  rw [if_neg named, if_neg (Nat.not_lt.mpr fits)]

end Exchange

/-- How a stage of a collection ends: with a result, and every exchange was fine; with the failure
of its last exchange; or with a failure for which nothing had to be asked. -/
inductive Ended {α : Type} (vendor : String) (unasked : Failure → Prop) :
    List Exchange → Except Failure α → Prop
  | well {log : List Exchange} (a : α) (fine : ∀ e ∈ log, e.Fine) : Ended vendor unasked log (.ok a)
  | ill {before : List Exchange} {last : Exchange} {f : Failure} (fine : ∀ e ∈ before, e.Fine)
      (index : Int) (told : last.failure? vendor index = some f) :
      Ended vendor unasked (before ++ [last]) (.error f)
  | astray {log : List Exchange} {f : Failure} (fine : ∀ e ∈ log, e.Fine) (why : unasked f) :
      Ended vendor unasked log (.error f)

namespace Ended

variable {α β : Type} {vendor : String} {unasked other : Failure → Prop}
  {log early late : List Exchange} {result : Except Failure α}

theorem single {e : Exchange} {f : Failure} (index : Int)
    (told : e.failure? vendor index = some f) :
    Ended vendor unasked [e] (.error f : Except Failure α) :=
  .ill (List.forall_mem_nil _) index told

theorem fine (ended : Ended vendor unasked log (.ok a : Except Failure α)) :
    ∀ e ∈ log, e.Fine := by
  cases ended with
  | well _ fine => exact fine

/-- A failure is one for callers of every type. -/
theorem cast {f : Failure} (ended : Ended vendor unasked log (.error f : Except Failure α)) :
    Ended vendor unasked log (.error f : Except Failure β) := by
  cases ended with
  | ill fine index told => exact .ill fine index told
  | astray fine why => exact .astray fine why

theorem map (ended : Ended vendor unasked log result) (g : α → β) :
    Ended vendor unasked log (result.map g) := by
  cases ended with
  | well a fine => exact .well (g a) fine
  | ill fine index told => exact .ill fine index told
  | astray fine why => exact .astray fine why

theorem mono (ended : Ended vendor unasked log result) (wider : ∀ f, unasked f → other f) :
    Ended vendor other log result := by
  cases ended with
  | well a fine => exact .well a fine
  | ill fine index told => exact .ill fine index told
  | astray fine why => exact .astray fine (wider _ why)

/-- What ends after fine exchanges ends in the same way. -/
theorem behind (before : ∀ e ∈ early, e.Fine) (ended : Ended vendor unasked late result) :
    Ended vendor unasked (early ++ late) result := by
  have joined : ∀ log : List Exchange, (∀ e ∈ log, e.Fine) → ∀ e ∈ early ++ log, e.Fine :=
    fun log fine => List.forall_mem_append.mpr ⟨before, fine⟩
  cases ended with
  | well a fine => exact .well a (joined _ fine)
  | ill fine index told =>
      rw [← List.append_assoc]
      exact .ill (joined _ fine) index told
  | astray fine why => exact .astray (joined _ fine) why

/-- Only the last exchange can be one that is not fine. -/
theorem pairwise (ended : Ended vendor unasked log result) :
    log.Pairwise fun e _ => e.Fine := by
  have all : ∀ log : List Exchange, (∀ e ∈ log, e.Fine) → log.Pairwise fun e _ => e.Fine :=
    fun log fine => List.pairwise_of_forall_mem_list fun e member _ _ => fine e member
  cases ended with
  | well a fine => exact all _ fine
  | ill fine index told =>
      refine List.pairwise_append.mpr ⟨all _ fine, List.pairwise_singleton .., ?_⟩
      intro e early _ _
      exact fine e early
  | astray fine why => exact all _ fine

end Ended

/-! ## How the stages end -/

variable {metric : Metric} {window : Window} {advance : Bool} {vendor : String}
  {unasked : Failure → Prop} {log : List Exchange}

theorem Taking.ended {device : Device} {cursor : Int} {result : Except Failure Sample}
    (taking : Taking metric device cursor log result) : Ended vendor unasked log result := by
  cases taking with
  | declined reason => exact .single device.index rfl
  | empty => exact .single device.index rfl
  | @latest samples sample found =>
      refine .well sample (List.forall_mem_singleton.mpr ?_)
      cases samples with
      | nil => cases found
      | cons first rest => exact fun _ _ => rfl

theorem Rounds.ended {device : Device} {left : Nat} {cursor sum : Int} {result : Except Failure Int}
    (rounds : Rounds metric advance device left cursor sum log result) :
    Ended vendor unasked log result := by
  induction rounds with
  | done cursor sum => exact .well sum (List.forall_mem_nil _)
  | stopped taking => exact taking.ended.cast
  | next taking rest ih =>
      have taken : Ended vendor unasked _ _ := taking.ended
      exact ih.behind taken.fine

theorem Reading.ended {device : Device} {result : Except Failure Int}
    (reading : Reading window advance device metric log result) :
    Ended vendor unasked log result := by
  cases reading with
  | power value => exact .well value (List.forall_mem_singleton.mpr fun _ _ => rfl)
  | noPower reason => exact .single device.index rfl
  | clock value => exact .well value (List.forall_mem_singleton.mpr fun _ _ => rfl)
  | noClock reason => exact .single device.index rfl
  | averaged sampled rounds => exact rounds.ended.map _

/-- The failure of an index that is out of range. -/
def Astray (count : Int) (indices : List Int) (f : Failure) : Prop :=
  ∃ index ∈ indices, (index < 0 ∨ count ≤ index) ∧ f = .outOfRange index count

theorem Lookup.ended {count index : Int} {result : Except Failure Device}
    (lookup : Lookup count index log result) : Ended vendor (Astray count [index]) log result := by
  have handled : ∀ native, ∀ e ∈ [(⟨.handleAt index, .ok native⟩ : Exchange)], e.Fine :=
    fun native => List.forall_mem_singleton.mpr fun _ _ => rfl
  cases lookup with
  | outOfRange outside =>
      exact .astray (List.forall_mem_nil _) ⟨index, List.mem_singleton_self index, outside, rfl⟩
  | noHandle inside reason => exact .single index rfl
  | noName inside native reason => exact .ill (handled native) index rfl
  | emptyName inside native => exact .ill (handled native) index rfl
  | @longName inside native name long =>
      refine .ill (handled native) index ?_
      show Session.nameProblem? index name = _
      unfold Session.nameProblem?
      -- A name that is too long is not empty, so its length is the problem.
      have named : name ≠ "" := by
        rintro rfl
        exact absurd long (by decide)
      rw [if_neg named, if_pos long]
  | found inside native named fits =>
      have accepted : (⟨.nameOf native, .ok _⟩ : Exchange).Fine := Exchange.fine_name named fits
      exact .behind (handled native) (.well _ (List.forall_mem_singleton.mpr accepted))

theorem Visit.ended {count index : Int} {result : Except Failure Report}
    (visit : Visit metric window advance count index log result) :
    Ended vendor (Astray count [index]) log result := by
  cases visit with
  | lost lookup => exact lookup.ended.cast
  | read lookup reading =>
      have found : Ended vendor (Astray count [index]) _ _ := lookup.ended
      exact reading.ended.map _ |>.behind found.fine

theorem Visits.ended {count : Int} {indices : List Int} {result : Except Failure (List Report)}
    (visits : Visits metric window advance count indices log result) :
    Ended vendor (Astray count indices) log result := by
  induction visits with
  | none => exact .well [] (List.forall_mem_nil _)
  | @stopped index others log f visit =>
      -- An index that is astray is one of those that the visits are for.
      refine Ended.mono visit.ended.cast ?_
      rintro f ⟨place, member, outside, rfl⟩
      refine ⟨place, ?_, outside, rfl⟩
      rw [List.mem_singleton.mp member]
      exact List.mem_cons_self
  | @next index others early late report result visit rest ih =>
      have visited : Ended vendor (Astray count [index]) _ _ := visit.ended
      refine Ended.mono ((ih.map _).behind visited.fine) ?_
      rintro f ⟨place, member, outside, rfl⟩
      exact ⟨place, List.mem_cons_of_mem _ member, outside, rfl⟩

/-- A visit that gives a report gives that of its index, which is in range. -/
theorem Visit.report {count index : Int} {report : Report}
    (visit : Visit metric window advance count index log (.ok report)) :
    report.index = index ∧ 0 ≤ index ∧ index < count := by
  -- A report comes from a reading only, and so behind a look-up that found a device.
  generalize given : Except.ok report = result at visit
  cases visit with
  | lost lookup => cases given
  | read lookup reading =>
      rename_i value
      cases value with
      | error f => cases given
      | ok value =>
          cases lookup with
          | found inside native named fits =>
              cases given
              exact ⟨rfl, inside⟩

/-- Visits that all give a report give one for each index, in order. -/
theorem Visits.reports {count : Int} {indices : List Int} {result : Except Failure (List Report)}
    (visits : Visits metric window advance count indices log result) :
    ∀ reports, result = .ok reports →
      reports.map (·.index) = indices ∧ ∀ index ∈ indices, 0 ≤ index ∧ index < count := by
  induction visits with
  | none =>
      intro reports given
      cases given
      exact ⟨rfl, List.forall_mem_nil _⟩
  | stopped visit =>
      intro reports given
      cases given
  | @next index others early late report result visit rest ih =>
      intro reports given
      cases result with
      | error f => cases given
      | ok more =>
          cases given
          obtain ⟨same, within⟩ := visit.report
          obtain ⟨all, inside⟩ := ih more rfl
          refine ⟨?_, List.forall_mem_cons.mpr ⟨within, inside⟩⟩
          rw [List.map_cons, same, all]

/-- Visits give reports exactly if every exchange was fine and every index is in range. -/
theorem Visits.complete {count : Int} {indices : List Int} {result : Except Failure (List Report)}
    (visits : Visits metric window advance count indices log result) :
    (∃ reports, result = .ok reports) ↔
      (∀ e ∈ log, e.Fine) ∧ ∀ index ∈ indices, 0 ≤ index ∧ index < count := by
  have ended : Ended "" (Astray count indices) log result := visits.ended
  constructor
  · rintro ⟨reports, rfl⟩
    exact ⟨ended.fine, (visits.reports reports rfl).2⟩
  · rintro ⟨all, inside⟩
    cases ended with
    | well reports _ => exact ⟨reports, rfl⟩
    | ill _ index told =>
        -- The exchange that stopped the visits has a failure to tell, so it was not fine.
        have quiet := all _ (List.mem_append_right _ List.mem_cons_self) "" index
        rw [quiet] at told
        cases told
    | astray _ why =>
        obtain ⟨index, member, outside, _⟩ := why
        have range := inside index member
        omega

/-- The failure of visits is that of an exchange, or that of an index that is out of range. -/
theorem Visits.told (vendor : String) {count : Int} {indices : List Int} {f : Failure}
    (visits : Visits metric window advance count indices log (.error f)) :
    (∃ e ∈ log, (∃ index, e.failure? vendor index = some f) ∧ f.kind = e.failureKind) ∨
      Astray count indices f ∧ f.kind = .deviceNotFound := by
  have ended : Ended vendor (Astray count indices) log (.error f) := visits.ended
  cases ended with
  | ill _ index told =>
      exact .inl ⟨_, List.mem_append_right _ List.mem_cons_self, ⟨index, told⟩,
        Exchange.kind_of_failure? told⟩
  | astray _ why =>
      obtain ⟨index, member, outside, rfl⟩ := why
      exact .inr ⟨⟨index, member, outside, rfl⟩, rfl⟩

/-! ## The outcome -/

/-- What the exchanges of a collection, in a session from beginning to end, have to do with its
result. -/
structure Conduct (vendor : String) (indices : Int → List Int) (log : List Exchange)
    (result : Except Failure (List Report)) : Prop where
  /-- Nothing comes behind an exchange that leads to a failure, except a shutdown. -/
  stops : log.Pairwise fun e later => e.Fine ∨ later.request = .shutdown
  /-- There are reports exactly if no exchange leads to a failure and the devices have been counted
  and include all the selected ones. -/
  complete : (∃ reports, result = .ok reports) ↔ (∀ e ∈ log, e.Fine) ∧
    ∃ count, log[1]? = some ⟨.deviceCount, .ok count⟩ ∧
      ∀ index ∈ indices count, 0 ≤ index ∧ index < count
  /-- Then there is one report for each selected index, in order. -/
  reports : ∀ reports, result = .ok reports → ∃ count,
    log[1]? = some ⟨.deviceCount, .ok count⟩ ∧ reports.map (·.index) = indices count
  /-- A failure is that of an exchange, or that of an index that is out of range. -/
  told : ∀ f, result = .error f →
    (∃ e ∈ log, (∃ index, e.failure? vendor index = some f) ∧ f.kind = e.failureKind) ∨
    ∃ count, log[1]? = some ⟨.deviceCount, .ok count⟩ ∧ Astray count (indices count) f ∧
      f.kind = .deviceNotFound

/-- Exchanges of a session that was refused at the start. -/
theorem Conduct.unavailable (vendor : String) (indices : Int → List Int) (reason : String) :
    Conduct vendor indices [⟨.start, .error (.declined reason)⟩]
      (.error (.startFailed vendor reason)) where
  stops := List.pairwise_singleton ..
  complete := by
    constructor
    · rintro ⟨_, failed⟩
      cases failed
    · rintro ⟨_, count, counted, _⟩
      cases counted
  reports _ failed := nomatch failed
  told f same := by
    cases same
    exact .inl ⟨_, List.mem_singleton_self _, ⟨0, rfl⟩, rfl⟩

theorem Conduct.uncounted (vendor : String) (indices : Int → List Int) (reason : String)
    (goodbye : Except Refusal Unit) :
    Conduct vendor indices
      [⟨.start, .ok ()⟩, ⟨.deviceCount, .error (.declined reason)⟩, ⟨.shutdown, goodbye⟩]
      (.error (.countFailed reason)) where
  stops := by
    refine .cons (fun _ _ => .inl fun _ _ => rfl) (.cons ?_ (List.pairwise_singleton ..))
    exact List.forall_mem_singleton.mpr (.inr rfl)
  complete := by
    constructor
    · rintro ⟨_, failed⟩
      cases failed
    · -- The count was declined, and no other one is in the log.
      rintro ⟨_, count, counted, _⟩
      cases counted
  reports _ failed := nomatch failed
  told f same := by
    cases same
    exact .inl ⟨_, List.mem_cons_of_mem _ List.mem_cons_self, ⟨0, rfl⟩, rfl⟩

theorem Conduct.visited {indices : Int → List Int} {count : Int} {late : List Exchange}
    {result : Except Failure (List Report)}
    (visits : Visits metric window advance count (indices count) late result)
    (goodbye : Except Refusal Unit) :
    Conduct vendor indices
      (⟨.start, .ok ()⟩ :: ([⟨.deviceCount, .ok count⟩] ++ late) ++ [⟨.shutdown, goodbye⟩])
      result := by
  have farewell : (⟨.shutdown, goodbye⟩ : Exchange).Fine := by
    intro vendor index
    cases goodbye <;> rfl
  -- The start, the count and the shutdown are fine, so it is the visits that matter.
  have fine : (∀ e ∈ (⟨.start, .ok ()⟩ :: ([⟨.deviceCount, .ok count⟩] ++ late) ++
      [⟨.shutdown, goodbye⟩] : List Exchange), e.Fine) ↔ ∀ e ∈ late, e.Fine := by
    constructor
    · intro all e member
      exact all e (List.mem_append_left _ (List.mem_cons_of_mem _ (List.mem_append_right _ member)))
    · intro all
      refine List.forall_mem_append.mpr ⟨List.forall_mem_cons.mpr ⟨fun _ _ => rfl, ?_⟩, ?_⟩
      · exact List.forall_mem_cons.mpr ⟨fun _ _ => rfl, all⟩
      · exact List.forall_mem_singleton.mpr farewell
  refine ⟨?_, ⟨?_, ?_⟩, ?_, ?_⟩
  · refine List.pairwise_append.mpr ⟨?_, List.pairwise_singleton .., ?_⟩
    · have ended : Ended vendor (Astray count (indices count)) late result := visits.ended
      refine .cons (fun _ _ => .inl fun _ _ => rfl) (.cons (fun _ _ => .inl fun _ _ => rfl) ?_)
      exact ended.pairwise.imp .inl
    · exact fun e _ => List.forall_mem_singleton.mpr (.inr rfl)
  · intro succeeded
    obtain ⟨all, inside⟩ := visits.complete.mp succeeded
    exact ⟨fine.mpr all, count, rfl, inside⟩
  · rintro ⟨all, count', counted, inside⟩
    cases counted
    exact visits.complete.mpr ⟨fine.mp all, inside⟩
  · rintro reports rfl
    exact ⟨count, rfl, (visits.reports reports rfl).1⟩
  · rintro f rfl
    rcases visits.told vendor with ⟨e, member, told⟩ | astray
    · have counted := List.mem_append_right [⟨.deviceCount, .ok count⟩] member
      exact .inl ⟨e, List.mem_append_left _ (List.mem_cons_of_mem _ counted), told⟩
    · exact .inr ⟨count, rfl, astray⟩

end GpuTelemetry
