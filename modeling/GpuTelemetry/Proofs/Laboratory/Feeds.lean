import GpuTelemetry.Proofs.Laboratory.Queries
import GpuTelemetry.Proofs.Session.Feeds
import Mathlib.Data.List.Induction
import Mathlib.Data.List.TakeWhile

/-!
# Feeds among other steps

A feed is asked for its reports one at a time, and anything may happen to the bench in between
(`Workbench.Turn`): other steps are taken, be it on its own session and its own sampler, backends
come under names, and the backends change by themselves. Only a turn that puts another feed under
the name ends the story of a feed.

What the feed does next depends on its stage alone, and the stage tells how often it has been asked
(`reached_after`). What happens in a laboratory are such turns, a single step
(`Laboratory.exists_plays`) as well as many (`Laboratory.exists_after`).

Main statement: `Workbench.feed_lazy_one_way`.
-/

namespace GpuTelemetry

variable {σ α : Type}

namespace Workbench

open Run (Follows)

/-! ## Turns -/

/-- What can happen to a bench. -/
inductive Turn (σ : Type) where
  | step (step : Step)
  /-- A backend comes under a name. -/
  | provide (name : String) (backend : Backend σ)
  /-- The state behind the backends changes, and nobody has asked for it. -/
  | change (change : σ → σ)

namespace Turn

/-- The bench behind a turn. A step that ends in a fault is a turn like any other. -/
def play : Turn σ → Workbench σ → Workbench σ
  | .step taken, bench => (take taken bench).state
  | .provide name backend, bench =>
    { bench with backends := Register.assign name backend bench.backends }
  | .change f, bench =>
    { bench with sessions := { bench.sessions with backends := f bench.sessions.backends } }

/-- A turn by which a feed is asked for its next report. -/
def asks (name : String) : Turn σ → Bool
  | .step (.next feed) => feed == name
  | _ => false

/-- A turn by which a feed comes under a name. -/
def replaces (name : String) : Turn σ → Bool
  | .step (.feed feed ..) => feed == name
  | _ => false

end Turn

/-- The bench behind turns. -/
def after (turns : List (Turn σ)) (bench : Workbench σ) : Workbench σ :=
  turns.foldl (fun bench turn => turn.play bench) bench

theorem after_append (turns later : List (Turn σ)) (bench : Workbench σ) :
    after (turns ++ later) bench = after later (after turns bench) :=
  List.foldl_append

theorem after_snoc (turns : List (Turn σ)) (turn : Turn σ) (bench : Workbench σ) :
    after (turns ++ [turn]) bench = turn.play (after turns bench) :=
  after_append turns [turn] bench

/-- How often a feed is asked for its next report. -/
def asked (name : String) (turns : List (Turn σ)) : Nat :=
  turns.countP (Turn.asks name)

theorem asked_snoc (name : String) (turns : List (Turn σ)) (turn : Turn σ) :
    asked name (turns ++ [turn]) = asked name turns + if turn.asks name then 1 else 0 := by
  simp [asked, List.countP_append, List.countP_singleton]

/-- The turns ahead of the first one by which a feed is asked. -/
def unasked (name : String) (turns : List (Turn σ)) : List (Turn σ) :=
  turns.takeWhile fun turn => !turn.asks name

theorem unasked_of_asked_eq_zero {name : String} {turns : List (Turn σ)}
    (never : asked name turns = 0) : unasked name turns = turns := by
  rw [unasked, List.takeWhile_eq_self_iff]
  intro turn member
  simpa using List.countP_eq_zero.mp never turn member

/-- Once a feed has been asked, or when it is, no more turns come ahead. -/
theorem unasked_snoc {name : String} {turns : List (Turn σ)} {turn : Turn σ}
    (late : turn.asks name = true ∨ asked name turns ≠ 0) :
    unasked name (turns ++ [turn]) = unasked name turns := by
  induction turns with
  | nil =>
      rcases late with asks | none
      · simp [unasked, asks]
      · exact absurd rfl none
  | cons first rest ih =>
      show (first :: (rest ++ [turn])).takeWhile _ = (first :: rest).takeWhile _
      rw [List.takeWhile_cons, List.takeWhile_cons]
      cases asks : first.asks name with
      | true => rfl
      | false =>
          -- The first turn does not ask, so it is one behind it that has asked or does now.
          refine congrArg (first :: ·) (ih (late.imp_right fun some none => some ?_))
          rw [asked, List.countP_cons, asks]
          exact none

/-! ## Feeds under other names -/

/-- The moves that leave a name with the feed that it has. -/
abbrev aside (name : String) (found? : Option (Feed σ)) : Moves (Workbench σ) :=
  .keeping fun bench _ => bench.feeds.lookup name = found?

section Aside

variable {name : String} {found? : Option (Feed σ)}

theorem aside_onSessions (run : Run (Sessions σ) α) :
    (onSessions run).Follows (aside name found?) :=
  fun _ _ same => same

theorem aside_assign {other : String} (apart : (other == name) = false) (f : Feed σ) :
    (Run.modify fun bench : Workbench σ =>
      { bench with feeds := Register.assign other f bench.feeds }).Follows (aside name found?) := by
  refine .keeping_of_silent (fun _ => rfl) fun bench _ same => ?_
  refine (Register.lookup_assign_of_ne f bench.feeds ?_).trans same
  rintro rfl
  simp at apart

theorem aside_nextOf {other : String} (apart : (other == name) = false) :
    (nextOf other : Run (Workbench σ) Answer).Follows (aside name found?) := by
  refine follows_namedAny fun f => (aside_onSessions f.next).attempt.bind fun result => ?_
  split
  · exact (aside_assign apart _).bind fun _ => .pure _
  · exact (aside_assign apart _).bind fun _ => .pure _
  · exact (aside_assign apart _).bind fun _ => .fault _

theorem aside_keepDevice (name? : Option String) (device : Device) :
    (keepDevice name? device : Run (Workbench σ) Unit).Follows (aside name found?) := by
  cases name? with
  | none => exact .pure ()
  | some name => exact .keeping_of_silent (fun _ => rfl) fun _ _ same => same

/-- A step on a session that is kept under a name. -/
theorem aside_atHandle {β : Type} {session : String} (run : Session σ → Run (Sessions σ) α)
    {rest : α → Run (Workbench σ) β} (aside : ∀ a, (rest a).Follows (aside name found?)) :
    (named (·.handles) session >>= fun h => onSessions (run h) >>= rest).Follows
      (Workbench.aside name found?) :=
  follows_namedAny fun h => (aside_onSessions (run h)).bind aside

/-- A step on a sampler and a device that are kept under names. -/
theorem aside_atSampler {sampler device : String}
    (run : Sampler σ → Device → Run (Sessions σ) Int) :
    (named (·.samplers) sampler >>= fun s => named (·.devices) device >>= fun d =>
      onSessions (run s d) >>= fun value => pure (Answer.number value)).Follows
        (aside name found?) :=
  follows_namedAny fun s => follows_namedAny fun d =>
    (aside_onSessions (run s d)).bind fun _ => .pure _

/-- Every step by which the feed is neither asked nor replaced. -/
theorem aside_take (step : Step) (unasked : (Turn.step step : Turn σ).asks name = false)
    (unreplaced : (Turn.step step : Turn σ).replaces name = false) :
    (take step : Run (Workbench σ) Answer).Follows (aside name found?) := by
  cases step with
  | ask backend request =>
      exact follows_namedAny fun b => (aside_onSessions (b.ask none request)).bind fun _ => .pure _
  | vendor backend => exact follows_namedAny fun b => .pure _
  | make session backend =>
      refine follows_namedAny fun b => (aside_onSessions (Session.make b)).bind fun h => ?_
      exact Follows.bind (.keeping_of_silent (fun _ => rfl) fun _ _ same => same) fun _ => .pure _
  | start session => exact aside_atHandle Session.start fun _ => .pure _
  | finish session => exact aside_atHandle Session.finish fun _ => .pure _
  | enter session => exact aside_atHandle Session.enter fun _ => .pure _
  | leave session => exact aside_atHandle Session.finish fun _ => .pure _
  | isOpen session => exact aside_atHandle Session.phase fun _ => .pure _
  | vendorWhileOpen session => exact aside_atHandle Session.vendor fun _ => .pure _
  | count session => exact aside_atHandle Session.countDevices fun _ => .pure _
  | resolve session index count? name? =>
      exact aside_atHandle (fun h => h.resolve index count?) fun device =>
        (aside_keepDevice name? device).bind fun _ => .pure _
  | resolveAll session => exact aside_atHandle Session.resolveAll fun _ => .pure _
  | device name device => exact (aside_keepDevice (some name) device).bind fun _ => .pure _
  | sampler sampler session window? advance =>
      refine follows_namedAny fun h => ?_
      exact Follows.bind (.keeping_of_silent (fun _ => rfl) fun _ _ same => same) fun _ => .pure _
  | sample sampler device metric window? =>
      exact aside_atSampler fun s d => s.sample d metric window?
  | average sampler device metric window? =>
      exact aside_atSampler fun s d => s.averageOver d metric window?
  | power sampler device => exact aside_atSampler Sampler.power
  | frequency sampler device => exact aside_atSampler Sampler.frequency
  | feed other session sampler metric indices? count? =>
      -- A feed is put under another name, for nothing is put in the place of this one.
      refine follows_namedAny fun h => follows_namedAny fun s => ?_
      exact (aside_assign unreplaced _).bind fun _ => .pure _
  | next other => exact aside_nextOf unasked
  | collect backend metric index? window? advance =>
      refine follows_namedAny fun b => ?_
      exact (aside_onSessions (GpuTelemetry.collect b metric index? window? advance)).bind
        fun _ => .pure _

/-- Whatever else happens, a name keeps its feed. -/
theorem lookup_play {turn : Turn σ} (unasked : turn.asks name = false)
    (unreplaced : turn.replaces name = false) (bench : Workbench σ) :
    (turn.play bench).feeds.lookup name = bench.feeds.lookup name := by
  cases turn with
  | step step => exact aside_take step unasked unreplaced bench [] rfl
  | provide other backend => rfl
  | change change => rfl

end Aside

/-! ## The next report -/

/-- What is answered when a feed has been asked. -/
def Answer.ofNext : Except Fault (Option (Report × Feed.Stage)) → Except Fault Answer
  | .ok (some (given, _)) => .ok (.report given)
  | .ok none => .ok .ended
  | .error fault => .error fault

theorem Answer.ofNext_eq_report {next : Except Fault (Option (Report × Feed.Stage))}
    {report : Report} (given : ofNext next = .ok (.report report)) :
    ∃ stage, next = .ok (some (report, stage)) := by
  rcases next with fault | _ | ⟨other, stage⟩
  · cases given
  · cases given
  · cases given
    exact ⟨stage, rfl⟩

theorem Answer.behind_eq_ended {next : Except Fault (Option (Report × Feed.Stage))}
    (none : ∀ report, ofNext next ≠ .ok (.report report)) : Feed.Stage.behind next = .ended := by
  rcases next with fault | _ | ⟨report, stage⟩
  · rfl
  · rfl
  · exact absurd rfl (none report)

variable {name : String} {bench : Workbench σ} {f : Feed σ}

/-- A feed is asked in the sessions as they are, and its stage is what is left of it. -/
theorem nextOf_of_lookup (found : bench.feeds.lookup name = some f) :
    nextOf name bench =
      ⟨Answer.ofNext (f.next bench.sessions).result,
        { bench with
          sessions := (f.next bench.sessions).state
          feeds := Register.assign name
            { f with stage := .behind (f.next bench.sessions).result } bench.feeds },
        (f.next bench.sessions).events⟩ := by
  have attempted : (Run.attempt (onSessions f.next) bench).result =
      .ok (f.next bench.sessions).result := rfl
  unfold nextOf
  rw [Run.bind_of_silent _ (named_of_lookup found)]
  show (Run.attempt (onSessions f.next) >>= _) bench = _
  rw [Run.bind_of_ok _ attempted]
  rcases (f.next bench.sessions).result with fault | _ | ⟨report, stage⟩
  all_goals exact congrArg (Outcome.mk _ _) (List.append_nil _)

theorem lookup_next (found : bench.feeds.lookup name = some f) :
    (take (.next name) bench).state.feeds.lookup name =
      some { f with stage := .behind (f.next bench.sessions).result } := by
  show (nextOf name bench).state.feeds.lookup name = _
  rw [nextOf_of_lookup found]
  exact Register.lookup_assign_self ..

/-- A feed that has come to its end gives nothing and asks for nothing. -/
theorem next_of_ended (found : bench.feeds.lookup name = some f) (ended : f.stage = .ended) :
    (take (.next name) bench).result = .ok .ended ∧ (take (.next name) bench).calls = [] := by
  show (nextOf name bench).result = _ ∧ (nextOf name bench).calls = _
  rw [nextOf_of_lookup found, Feed.next_of_ended ended]
  exact ⟨rfl, rfl⟩

theorem eq_next_of_asks {turn : Turn σ} (asks : turn.asks name = true) :
    turn = .step (.next name) := by
  unfold Turn.asks at asks
  split at asks
  · rw [eq_of_beq asks]
  · cases asks

/-- And it stays there, whatever happens. -/
theorem ended_after (found : bench.feeds.lookup name = some f) (ended : f.stage = .ended)
    (turns : List (Turn σ)) (own : ∀ turn ∈ turns, turn.replaces name = false) :
    (after turns bench).feeds.lookup name = some f := by
  induction turns using List.reverseRecOn with
  | nil => exact found
  | append_singleton turns turn ih =>
      have before := ih fun other member => own other (List.mem_append_left _ member)
      rw [after_snoc]
      cases asks : turn.asks name with
      | true =>
          rw [eq_next_of_asks asks]
          refine (lookup_next before).trans (congrArg some ?_)
          obtain ⟨h, s, metric, stage⟩ := f
          obtain rfl : stage = .ended := ended
          rfl
      | false =>
          rw [lookup_play asks (own turn (List.mem_append_right _ List.mem_cons_self))]
          exact before

/-! ## From the making of a feed on -/

section Story

variable (h : Session σ) (s : Sampler σ) (metric : Metric) (indices? : Option (List Int))
  (count? : Option Int) (name : String) (made : Workbench σ) (turns : List (Turn σ))

/-- Asking a feed for its next report behind some turns. -/
def asking : Outcome (Workbench σ) Answer :=
  take (.next name) (after turns made)

/-- A number of devices is the one that a feed was given or found when it was asked first. -/
def Counted (count : Int) : Prop :=
  (h.countUnless count? (after (unasked name turns) made).sessions).result = .ok count

/-- The sessions in which the next report of a feed is made: the devices may have to be counted
ahead of it. -/
def readied : Sessions σ :=
  (h.ahead count? (asked name turns) (after turns made).sessions).state

/-- A feed has given a report whenever it was asked. -/
def Unbroken : Prop :=
  ∀ before behind, turns = before ++ .step (.next name) :: behind →
    ∃ report, (asking name made before).result = .ok (.report report)

/-- What a feed does next that was made from a session and a sampler and has been through some
turns. -/
structure LazyNext : Prop where
  /-- The devices are counted when the feed is asked first, if their number was not given and the
  session is open at that moment. -/
  counts : (∃ c ∈ (asking name made turns).calls, c.request = .deviceCount) ↔
    asked name turns = 0 ∧ count? = none ∧ (after turns made).sessions.phase h.id = .opened
  /-- A report comes behind as many others as the feed has been asked for, and is the one of the
  index at this place. -/
  gives : ∀ report, (asking name made turns).result = .ok (.report report) →
    Unbroken name made turns ∧ ∃ count index, Counted h count? name made turns count ∧
      (Indices.order indices? count)[asked name turns]? = some index ∧
      (h.report s metric count index (readied h count? name made turns)).result = .ok report ∧
      report.index = index ∧ report.label = metric.label
  /-- Nothing is asked for that is not about this index. -/
  asks : ∀ c ∈ (asking name made turns).calls, c.request = .deviceCount ∨
    ∃ count index, Counted h count? name made turns count ∧
      (Indices.order indices? count)[asked name turns]? = some index ∧
      h.About metric index (readied h count? name made turns) c
  /-- The feed does not end before its indices do, nor before a report that cannot be made. -/
  goesOn : Unbroken name made turns → ∀ count index, Counted h count? name made turns count →
    (Indices.order indices? count)[asked name turns]? = some index →
    (asking name made turns).result =
      (h.report s metric count index (readied h count? name made turns)).result.map .report
  /-- Once no report is given, the feed has ended for good. -/
  closes : (∀ report, (asking name made turns).result ≠ .ok (.report report)) →
    ∀ later : List (Turn σ), (∀ turn ∈ later, turn.replaces name = false) →
      (asking name (asking name made turns).state later).result = .ok .ended ∧
        (asking name (asking name made turns).state later).calls = []

variable {h s metric indices? count? name made turns}

theorem Counted.unique {count other : Int} (one : Counted h count? name made turns count)
    (two : Counted h count? name made turns other) : count = other :=
  Except.ok.inj (one.symm.trans two)

/-- The turns ahead of the first one by which the feed is asked end where it is asked first. -/
theorem counted_of_first (first : asked name turns = 0) {count : Int} :
    Counted h count? name made turns count ↔
      (h.countUnless count? (after turns made).sessions).result = .ok count := by
  unfold Counted
  rw [unasked_of_asked_eq_zero first]

theorem asking_of_lookup {f : Feed σ} (there : (after turns made).feeds.lookup name = some f) :
    (asking name made turns).result = Answer.ofNext (f.next (after turns made).sessions).result ∧
      (asking name made turns).calls = (f.next (after turns made).sessions).calls := by
  show (nextOf name (after turns made)).result = _ ∧ (nextOf name (after turns made)).calls = _
  rw [nextOf_of_lookup there]
  exact ⟨rfl, rfl⟩

variable (found : made.feeds.lookup name = some ⟨h, s, metric, .unstarted indices? count?⟩)

include found

/-- However often it has been asked, a feed stays with its session, its sampler and its metric, and
its stage tells how often that was. -/
theorem reached_after (own : ∀ turn ∈ turns, turn.replaces name = false) :
    ∃ stage, (after turns made).feeds.lookup name = some ⟨h, s, metric, stage⟩ ∧
      stage.Reached (Counted h count? name made turns) indices? count? (asked name turns) := by
  induction turns using List.reverseRecOn with
  | nil => exact ⟨_, found, .unstarted⟩
  | append_singleton turns turn ih =>
      obtain ⟨stage, there, reached⟩ := ih fun other member =>
        own other (List.mem_append_left _ member)
      rw [after_snoc, asked_snoc]
      cases asks : turn.asks name with
      | true =>
          -- The feed is asked in the sessions that the earlier turns have left.
          have nexting := Feed.nexting (f := ⟨h, s, metric, stage⟩)
            (t := (after turns made).sessions) reached fun first _ => (counted_of_first first).mpr
          refine ⟨_, eq_next_of_asks asks ▸ lookup_next there, nexting.reached.mono ?_⟩
          intro _ count known
          unfold Counted
          rwa [unasked_snoc (.inl asks)]
      | false =>
          have last := own turn (List.mem_append_right _ List.mem_cons_self)
          -- Another turn leaves the feed alone, and what it counted stands as it was.
          refine ⟨stage, (lookup_play asks last _).trans there, reached.mono ?_⟩
          intro started count known
          unfold Counted
          rwa [unasked_snoc (.inr started)]

/-- So its next step is known, case by case. -/
theorem nexting_after (own : ∀ turn ∈ turns, turn.replaces name = false) :
    ∃ stage, (after turns made).feeds.lookup name = some ⟨h, s, metric, stage⟩ ∧
      Feed.Nexting ⟨h, s, metric, stage⟩ (after turns made).sessions
        (Counted h count? name made turns) indices? count? (asked name turns) := by
  obtain ⟨stage, there, reached⟩ := reached_after found own
  exact ⟨stage, there, Feed.nexting reached fun first _ => (counted_of_first first).mpr⟩

/-- As long as it has always given a report, it has not ended. -/
theorem unended_of_unbroken (own : ∀ turn ∈ turns, turn.replaces name = false)
    (unbroken : Unbroken name made turns) {f : Feed σ}
    (there : (after turns made).feeds.lookup name = some f) : f.stage ≠ .ended := by
  induction turns using List.reverseRecOn generalizing f with
  | nil =>
      obtain rfl := Option.some.inj (found.symm.trans there)
      exact Feed.Stage.noConfusion
  | append_singleton turns turn ih =>
      have before : ∀ turn ∈ turns, turn.replaces name = false := fun other member =>
        own other (List.mem_append_left _ member)
      rw [after_snoc] at there
      cases asks : turn.asks name with
      | true =>
          have same := eq_next_of_asks asks
          -- This time, too, a report was given, and only without one does a feed end.
          obtain ⟨report, gave⟩ := unbroken turns [] (by rw [same])
          obtain ⟨stage, lookup, nexting⟩ := nexting_after found before
          rw [(asking_of_lookup lookup).1] at gave
          obtain ⟨behind, given⟩ := Answer.ofNext_eq_report gave
          rw [same] at there
          obtain rfl := Option.some.inj ((lookup_next lookup).symm.trans there)
          rw [given]
          exact (nexting.gives given).1
      | false =>
          have last := own turn (List.mem_append_right _ List.mem_cons_self)
          rw [lookup_play asks last] at there
          -- What is unbroken with one more turn is so without it.
          refine ih before (fun early behind split => ?_) there
          refine unbroken early (behind ++ [turn]) ?_
          rw [split, List.append_assoc]
          rfl

/-- And it has ended as soon as it has given none. -/
theorem unbroken_of_unended (own : ∀ turn ∈ turns, turn.replaces name = false) {f : Feed σ}
    (there : (after turns made).feeds.lookup name = some f) (unended : f.stage ≠ .ended) :
    Unbroken name made turns := by
  rintro before behind rfl
  by_contra none
  obtain ⟨stage, lookup, _⟩ := nexting_after found fun turn member =>
    own turn (List.mem_append_left _ member)
  have ended := Answer.behind_eq_ended fun report gave =>
    none ⟨report, (asking_of_lookup lookup).1.trans gave⟩
  have stays := ended_after (lookup_next lookup) ended behind fun turn member =>
    own turn (List.mem_append_right _ (List.mem_cons_of_mem _ member))
  rw [after_append] at there
  obtain rfl := Option.some.inj (stays.symm.trans there)
  exact unended ended

theorem lazyNext (own : ∀ turn ∈ turns, turn.replaces name = false) :
    LazyNext h s metric indices? count? name made turns := by
  obtain ⟨stage, there, nexting⟩ := nexting_after found own
  obtain ⟨result, calls⟩ := asking_of_lookup there
  have unended := fun unbroken => unended_of_unbroken found own unbroken there
  refine ⟨?_, ?_, ?_, ?_, ?_⟩
  · rw [calls]
    exact nexting.counts
  · intro report gave
    rw [result] at gave
    obtain ⟨behind, given⟩ := Answer.ofNext_eq_report gave
    obtain ⟨_, count, index, known, here, made⟩ := nexting.gives given
    -- Had it ended before, it would have given no report now.
    refine ⟨unbroken_of_unended found own there fun ended => ?_, count, index, known, here, made,
      Session.report_is_of made⟩
    rw [Feed.next_of_ended ended] at given
    cases given
  · intro c member
    rw [calls] at member
    rcases nexting.asks c member with early | about
    · exact .inl (h.ahead_calls _ count? _ c early)
    · exact .inr about
  · intro unbroken count index known here
    rcases nexting.goesOn (unended unbroken) (fun other also => also.unique known)
      (fun first => (counted_of_first first).mp known) here with
      ⟨fault, failed, stopped⟩ | ⟨report, behind, made, gave⟩
    · rw [result, stopped]
      exact (congrArg (Except.map Answer.report) failed).symm
    · rw [result, gave]
      exact (congrArg (Except.map Answer.report) made).symm
  · intro none later others
    rw [result] at none
    -- It gave none, so it is kept as ended, and whatever comes later leaves it there.
    have ended := Answer.behind_eq_ended none
    exact next_of_ended (ended_after (lookup_next there) ended later others) ended

end Story

/-! ## Main statement -/

/-- Making a feed asks for nothing, and whatever happens from then on, the feed is asked at its own
pace: it counts the devices at most once, when it is asked first; each time it makes the report of
one index and asks for nothing else; and once it has given none, it has ended for good. -/
theorem feed_lazy_one_way (bench : Workbench σ) (name session sampler : String) (metric : Metric)
    (indices? : Option (List Int)) (count? : Option Int) {h : Session σ} {s : Sampler σ}
    (held : bench.handles.lookup session = some h) (kept : bench.samplers.lookup sampler = some s)
    (turns : List (Turn σ)) (own : ∀ turn ∈ turns, turn.replaces name = false) :
    let made := take (.feed name session sampler metric indices? count?) bench
    made.result = .ok .nothing ∧ made.calls = [] ∧
      LazyNext h s metric indices? count? name made.state turns := by
  intro made
  have same : made = ⟨.ok .nothing,
      { bench with
        feeds := Register.assign name ⟨h, s, metric, .unstarted indices? count?⟩ bench.feeds },
      []⟩ := by
    show (named (·.handles) session >>= _) bench = _
    rw [Run.bind_of_silent _ (named_of_lookup held)]
    show (named (·.samplers) sampler >>= _) bench = _
    rw [Run.bind_of_silent _ (named_of_lookup kept)]
    rfl
  rw [same]
  exact ⟨rfl, rfl, lazyNext (Register.lookup_assign_self ..) own⟩

/-- Two feeds read by turns. The first one runs into a failure, and ends there although the devices
are mended. -/
theorem failed_feed_stays_ended :
    let h : Session Simulated := ⟨0, Simulated.backend 0⟩
    let s : Sampler Simulated := ⟨h, .single, true⟩
    let bench : Workbench Simulated :=
      { sessions :=
          { backends := { devices := [⟨"A", 250, 0, []⟩, ⟨"B", 300, 0, []⟩, ⟨"C", 350, 0, []⟩] },
            phase := fun _ => .opened, made := 1 }
        handles := [("main", h)], samplers := [("reader", s)] }
    let made := take (.feed "reports" "main" "reader" .power none none) bench
    let early : List (Turn Simulated) :=
      [.step (.next "reports"), .step (.feed "others" "main" "reader" .power (some [2]) (some 3)),
        .step (.next "others"), .change (Simulated.inject .powerOf ⟨"GPU is lost", none⟩)]
    let late : List (Turn Simulated) := early ++ [.step (.next "reports"), .change Simulated.mend]
    bench.handles.lookup "main" = some h ∧ bench.samplers.lookup "reader" = some s ∧
      (∀ turn ∈ late, turn.replaces "reports" = false) ∧
      (made.calls = [] ∧ LazyNext h s .power none none "reports" made.state late) ∧
      (asking "reports" made.state []).result = .ok (.report ⟨0, "A", "gpu_power", 250⟩) ∧
      (asking "reports" made.state early).result =
        .error (.failed (.powerFailed 1 "GPU is lost")) ∧
      (asking "reports" made.state late).result = .ok .ended := by
  intro h s bench made early late
  have own : ∀ turn ∈ late, turn.replaces "reports" = false := by decide
  obtain ⟨_, silent, next⟩ :=
    feed_lazy_one_way bench "reports" "main" "reader" .power none none rfl rfl late own
  exact ⟨rfl, rfl, own, ⟨silent, next⟩, by decide +kernel, by decide +kernel, by decide +kernel⟩

end Workbench

/-! ## In a laboratory -/

namespace Laboratory

open Run (Follows)

/-- What a step in a laboratory is on its bench. -/
inductive Plays : Step → Workbench.Turn Equipment → Prop
  | onBench (step : Workbench.Step) : Plays (.onBench step) (.step step)
  | provide (name : String) (b : Backend Equipment) : Plays (.create name) (.provide name b)
  | change {step : Step} (change : Equipment → Equipment) (off : ∀ taken, step ≠ .onBench taken) :
      Plays step (.change change)

/-- Simulated devices change, if there are any behind the name. -/
theorem exists_adjustSimulated (name : String) (change : Simulated → Simulated)
    (answer : Workbench.Answer) (lab : Laboratory) :
    ∃ f, ((adjustSimulated name change >>= fun _ => pure answer) lab).state.bench =
      (Workbench.Turn.change f).play lab.bench := by
  have rest : (adjustSimulated name change >>= fun _ => pure answer) =
      (simulatedId name >>= fun id =>
        adjust (fun e => e.setSimulation id (change (e.simulation id))) >>= fun _ => pure answer) :=
    bind_assoc ..
  obtain ⟨_, state⟩ := simulatedId_still name lab
  rw [rest]
  rcases result : (simulatedId name lab).result with fault | place
  · refine ⟨id, ?_⟩
    -- No backend of simulated devices has the name, so nothing changes.
    rw [Run.bind_of_error _ result, state]
    rfl
  · refine ⟨fun e => e.setSimulation place (change (e.simulation place)), ?_⟩
    rw [Run.bind_of_ok _ result, state]
    rfl

/-- Every step in a laboratory is a turn on its bench. -/
theorem exists_plays (step : Step) (lab : Laboratory) :
    ∃ turn, Plays step turn ∧ (take step lab).state.bench = turn.play lab.bench := by
  cases step with
  | onBench step => exact ⟨_, .onBench step, rfl⟩
  | create name =>
      rcases made : Nvml.create lab.bench.sessions.backends.driver lab.nextId with failure | b
      · refine ⟨.change id, .change id fun _ => Step.noConfusion, ?_⟩
        show ((Run.ofExcept ((Nvml.create lab.bench.sessions.backends.driver lab.nextId).mapError
          .failed) >>= _) lab).state.bench = _
        rw [made]
        rfl
      · refine ⟨_, .provide name (Equipment.driverBackend b), ?_⟩
        show ((Run.ofExcept ((Nvml.create lab.bench.sessions.backends.driver lab.nextId).mapError
          .failed) >>= _) lab).state.bench = _
        rw [made]
        rfl
  | inject name operation failure =>
      obtain ⟨f, same⟩ := exists_adjustSimulated name (·.inject operation failure) .nothing lab
      exact ⟨_, .change f fun _ => Step.noConfusion, same⟩
  | mend name =>
      obtain ⟨f, same⟩ := exists_adjustSimulated name (·.mend) .nothing lab
      exact ⟨_, .change f fun _ => Step.noConfusion, same⟩
  | replaceDevices name devices =>
      obtain ⟨f, same⟩ := exists_adjustSimulated name (fun s => { s with devices }) .nothing lab
      exact ⟨_, .change f fun _ => Step.noConfusion, same⟩
  | queries name =>
      refine ⟨.change id, .change id fun _ => Step.noConfusion, ?_⟩
      have still : (take (.queries name)).Follows .still :=
        (simulatedId_still name).bind fun place => Follows.get.bind fun lab => .pure _
      -- Looking at the record of requests changes nothing.
      rw [(still lab).2]
      rfl
  | replaceDriver driver =>
      exact ⟨_, .change (fun e => { e with driver := { driver with given := e.driver.given } })
        fun _ => Step.noConfusion, rfl⟩

/-- Whatever happens in a laboratory, its bench goes through such turns. -/
theorem exists_after (steps : List Step) (lab : Laboratory) :
    ∃ turns, List.Forall₂ Plays steps turns ∧
      (perform steps lab).state.bench = Workbench.after turns lab.bench := by
  induction steps generalizing lab with
  | nil => exact ⟨[], .nil, rfl⟩
  | cons step rest ih =>
      obtain ⟨turn, plays, first⟩ := exists_plays step lab
      obtain ⟨turns, others, behind⟩ := ih (take step lab).state
      have taken : (Run.attempt (take step) lab).result = .ok (take step lab).result := rfl
      refine ⟨turn :: turns, .cons plays others, ?_⟩
      show (Run.each (fun step => Run.attempt (take step)) (step :: rest) lab).state.bench = _
      rw [Run.each_cons_of_ok rest taken]
      exact behind.trans (congrArg (Workbench.after turns) first)

end Laboratory

end GpuTelemetry
