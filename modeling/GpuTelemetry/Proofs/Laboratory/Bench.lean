import GpuTelemetry.Laboratory
import GpuTelemetry.Proofs.Session.Ledger

/-!
# A bench with a ledger

Whatever is kept by what sessions do (`Ledger`) is kept on a workbench, where sessions are looked up
by name and samplers and feeds hold on to them, and in a laboratory, where the equipment changes
between two steps. A bench refers to known sessions only (`Workbench.Refers`). Most steps leave the
known sessions as they are (`Workbench.follows_step`); one more is known after a session has been
made and after a collection. Main statements: `Workbench.booked_take` and `Laboratory.booked_take`.
-/

namespace GpuTelemetry

variable {σ α β : Type}

open Run (Follows)

namespace Workbench

/-- All backends on the bench are lawful, all sessions that it refers to are known, and an invariant
holds of the sessions and of the calls so far. -/
structure Refers (lawful : Backend σ → Prop) (known : Session σ → Prop)
    (inv : Sessions σ → List Call → Prop) (bench : Workbench σ) (past : List Call) : Prop where
  backends : ∀ pair ∈ bench.backends, lawful pair.2
  handles : ∀ pair ∈ bench.handles, known pair.2
  samplers : ∀ pair ∈ bench.samplers, known pair.2.session
  feeds : ∀ pair ∈ bench.feeds, known pair.2.session ∧ known pair.2.sampler.session
  sessions : inv bench.sessions past

/-- The moves on a bench that make no further session known. -/
abbrev referring (lawful : Backend σ → Prop) (known : Session σ → Prop)
    (inv : Sessions σ → List Call → Prop) : Moves (Workbench σ) :=
  .keeping (Refers lawful known inv)

/-- The moves on a bench that may make further sessions known. -/
abbrev booked (lawful : Backend σ → Prop)
    (inv : (Session σ → Prop) → Sessions σ → List Call → Prop) : Moves (Workbench σ) :=
  .keeping fun bench past => ∃ known, Refers lawful known (inv known) bench past

section Known

variable {lawful : Backend σ → Prop} {known : Session σ → Prop}
  {inv : Sessions σ → List Call → Prop}

/-- What keeps the sessions keeps the bench. -/
theorem follows_onSessions {run : Run (Sessions σ) α} (one : run.Follows (.keeping inv)) :
    (onSessions run).Follows (referring lawful known inv) := by
  refine one.zoom fun bench calls s moved past kept => ?_
  exact ⟨kept.backends, kept.handles, kept.samplers, kept.feeds, moved past kept.sessions⟩

/-- A change of the bench alone, without any call. -/
theorem follows_modify {change : Workbench σ → Workbench σ}
    (one : ∀ bench past, Refers lawful known inv bench past →
      Refers lawful known inv (change bench) past) :
    (Run.modify change).Follows (referring lawful known inv) :=
  .keeping_of_silent (fun _ => rfl) one

/-- Nothing happens to a bench on which something is looked up. -/
theorem named_idle (register : Workbench σ → List (String × α)) (name : String)
    (bench : Workbench σ) :
    named register name bench = ⟨.error (.unknownName name), bench, []⟩ ∨
      ∃ a, (name, a) ∈ register bench ∧ named register name bench = ⟨.ok a, bench, []⟩ := by
  unfold named
  rw [Run.bind_of_silent _ (Run.get_apply bench)]
  cases found : (register bench).lookup name with
  | none => exact .inl rfl
  | some a => exact .inr ⟨a, Register.mem_of_lookup found, rfl⟩

theorem named_of_lookup {register : Workbench σ → List (String × α)} {name : String}
    {bench : Workbench σ} {a : α} (found : (register bench).lookup name = some a) :
    named register name bench = ⟨.ok a, bench, []⟩ := by
  unfold named
  rw [Run.bind_of_silent _ (Run.get_apply bench), found]
  rfl

theorem named_still (register : Workbench σ → List (String × α)) (name : String) :
    (named register name).Follows .still := by
  intro bench
  rcases named_idle register name bench with unknown | ⟨a, _, known⟩
  · rw [unknown]
    exact ⟨rfl, rfl⟩
  · rw [known]
    exact ⟨rfl, rfl⟩

/-- What comes behind a look-up may rely on what holds of everything in the register. -/
theorem follows_named {inv : Workbench σ → List Call → Prop}
    {register : Workbench σ → List (String × α)} {name : String}
    {next : α → Run (Workbench σ) β} (P : α → Prop)
    (all : ∀ bench past, inv bench past → ∀ pair ∈ register bench, P pair.2)
    (rest : ∀ a, P a → (next a).Follows (.keeping inv)) :
    (named register name >>= next).Follows (.keeping inv) := by
  intro bench past kept
  rcases named_idle register name bench with unknown | ⟨a, member, found⟩
  · rw [Run.bind_of_silent_error _ unknown]
    exact (Moves.keeping inv).stay bench past kept
  · rw [Run.bind_of_silent _ found]
    exact rest a (all bench past kept _ member) bench past kept

section Lookup

variable {name : String} {register : Workbench σ → List (String × α)}

theorem follows_namedAny {inv : Workbench σ → List Call → Prop}
    {next : α → Run (Workbench σ) β} (rest : ∀ a, (next a).Follows (.keeping inv)) :
    (named register name >>= next).Follows (.keeping inv) :=
  follows_named (fun _ => True) (fun _ _ _ _ _ => trivial) fun a _ => rest a

theorem follows_namedHandle {next : Session σ → Run (Workbench σ) β}
    (rest : ∀ h, known h → (next h).Follows (referring lawful known inv)) :
    (named (·.handles) name >>= next).Follows (referring lawful known inv) :=
  follows_named known (fun _ _ kept => kept.handles) rest

theorem follows_namedSampler {next : Sampler σ → Run (Workbench σ) β}
    (rest : ∀ s : Sampler σ, known s.session → (next s).Follows (referring lawful known inv)) :
    (named (·.samplers) name >>= next).Follows (referring lawful known inv) :=
  follows_named (fun s => known s.session) (fun _ _ kept => kept.samplers) rest

theorem follows_namedFeed {next : Feed σ → Run (Workbench σ) β}
    (rest : ∀ f : Feed σ, known f.session ∧ known f.sampler.session →
      (next f).Follows (referring lawful known inv)) :
    (named (·.feeds) name >>= next).Follows (referring lawful known inv) :=
  follows_named (fun f => known f.session ∧ known f.sampler.session)
    (fun _ _ kept => kept.feeds) rest

end Lookup

theorem follows_keepDevice (name? : Option String) (device : Device) :
    (keepDevice name? device : Run (Workbench σ) Unit).Follows (referring lawful known inv) := by
  cases name? with
  | none => exact .pure ()
  | some name =>
      exact follows_modify fun bench past kept =>
        ⟨kept.backends, kept.handles, kept.samplers, kept.feeds, kept.sessions⟩

/-- A feed stays with its sessions, in whatever stage it is kept. -/
theorem follows_setStage {f : Feed σ} (held : known f.session ∧ known f.sampler.session)
    (name : String) (stage : Feed.Stage) :
    (Run.modify fun bench : Workbench σ =>
      { bench with feeds := Register.assign name { f with stage } bench.feeds }).Follows
        (referring lawful known inv) := by
  refine follows_modify fun bench past kept =>
    ⟨kept.backends, kept.handles, kept.samplers, ?_, kept.sessions⟩
  intro pair member
  rcases Register.mem_assign member with rfl | old
  · exact held
  · exact kept.feeds pair old

end Known

/-- A step by which a session comes into being. -/
def Step.making : Step → Bool
  | .make .. | .collect .. => true
  | _ => false

/-- A step by which a backend is asked without a session. -/
def Step.direct : Step → Bool
  | .ask .. => true
  | _ => false

section Kept

variable {lawful : Backend σ → Prop} {inv : (Session σ → Prop) → Sessions σ → List Call → Prop}
  (ledger : Ledger lawful inv)

include ledger

theorem follows_nextOf {known : Session σ → Prop} (name : String) :
    (nextOf name : Run (Workbench σ) Answer).Follows (referring lawful known (inv known)) := by
  refine follows_namedFeed fun f held => ?_
  have next : f.next.Follows (.keeping (inv known)) :=
    Feed.follows_next (ledger.queries held.1) (ledger.queries held.2)
  refine (follows_onSessions next).attempt.bind fun result => ?_
  -- Whatever comes of the request, the feed is put back with its sessions.
  split
  · exact (follows_setStage held name _).bind fun _ => .pure _
  · exact (follows_setStage held name .ended).bind fun _ => .pure _
  · exact (follows_setStage held name .ended).bind fun _ => .fault _

/-- Every step that makes no session keeps the bench, if asking backends directly does no harm where
the step does so. -/
theorem follows_step {known : Session σ → Prop} (step : Step)
    (asks : step.direct = true → ∀ (b : Backend σ) request,
      (b.ask none request).Follows (.keeping (inv known)))
    (old : step.making = false) :
    (take step : Run (Workbench σ) Answer).Follows (referring lawful known (inv known)) := by
  cases step with
  -- The only two steps that make a session.
  | make name backend => cases old
  | collect backend metric index? window? advance => cases old
  | ask backend request =>
      refine follows_namedAny fun b => ?_
      exact (follows_onSessions (asks rfl b request)).bind fun _ => .pure _
  | vendor backend => exact follows_namedAny fun b => .pure _
  | start session =>
      refine follows_namedHandle fun h held => ?_
      exact (follows_onSessions (ledger.start held)).bind fun _ => .pure _
  | finish session =>
      refine follows_namedHandle fun h held => ?_
      exact (follows_onSessions (ledger.finish held)).bind fun _ => .pure _
  | enter session =>
      refine follows_namedHandle fun h held => ?_
      exact (follows_onSessions (Session.follows_enter (ledger.start held))).bind fun _ => .pure _
  | leave session =>
      refine follows_namedHandle fun h held => ?_
      exact (follows_onSessions (ledger.finish held)).bind fun _ => .pure _
  | isOpen session =>
      refine follows_namedHandle fun h held => ?_
      have phase : h.phase.Follows (.keeping (inv known)) :=
        .idle (fun _ => rfl) fun _ => rfl
      exact (follows_onSessions phase).bind fun _ => .pure _
  | vendorWhileOpen session =>
      refine follows_namedHandle fun h held => ?_
      exact (follows_onSessions (Session.Queries.vendor h)).bind fun _ => .pure _
  | count session =>
      refine follows_namedHandle fun h held => ?_
      exact (follows_onSessions (ledger.queries held).countDevices).bind fun _ => .pure _
  | resolve session index count? name? =>
      refine follows_namedHandle fun h held => ?_
      have found := (ledger.queries held).resolve index count?
      refine (follows_onSessions found).bind fun device => ?_
      exact (follows_keepDevice name? device).bind fun _ => .pure _
  | resolveAll session =>
      refine follows_namedHandle fun h held => ?_
      exact (follows_onSessions (ledger.queries held).resolveAll).bind fun _ => .pure _
  | device name device => exact (follows_keepDevice (some name) device).bind fun _ => .pure _
  | sampler name session window? advance =>
      refine follows_namedHandle fun h held => ?_
      refine Follows.bind (follows_modify fun bench past kept => ?_) fun _ => .pure _
      -- What is kept under the name now is the new sampler, whose session is known.
      refine ⟨kept.backends, kept.handles, ?_, kept.feeds, kept.sessions⟩
      intro pair member
      rcases Register.mem_assign member with rfl | old
      · exact held
      · exact kept.samplers pair old
  | sample sampler device metric window? =>
      refine follows_namedSampler fun s held => follows_namedAny fun d => ?_
      have sampled := Sampler.follows_sample (ledger.queries held) d metric window?
      exact (follows_onSessions sampled).bind fun _ => .pure _
  | average sampler device metric window? =>
      refine follows_namedSampler fun s held => follows_namedAny fun d => ?_
      have averaged := Sampler.follows_averageOver (ledger.queries held) d metric window?
      exact (follows_onSessions averaged).bind fun _ => .pure _
  | power sampler device =>
      refine follows_namedSampler fun s held => follows_namedAny fun d => ?_
      exact (follows_onSessions (Sampler.follows_power (ledger.queries held) d)).bind
        fun _ => .pure _
  | frequency sampler device =>
      refine follows_namedSampler fun s held => follows_namedAny fun d => ?_
      exact (follows_onSessions (Sampler.follows_frequency (ledger.queries held) d)).bind
        fun _ => .pure _
  | feed name session sampler metric indices? count? =>
      refine follows_namedHandle fun h held => follows_namedSampler fun s sampled => ?_
      refine Follows.bind (follows_modify fun bench past kept => ?_) fun _ => .pure _
      -- A feed holds two sessions, its own and that of its sampler.
      refine ⟨kept.backends, kept.handles, kept.samplers, ?_, kept.sessions⟩
      intro pair member
      rcases Register.mem_assign member with rfl | old
      · exact ⟨held, sampled⟩
      · exact kept.feeds pair old
  | next feed => exact follows_nextOf ledger feed

theorem booked_make (name backend : String) :
    (take (.make name backend) : Run (Workbench σ) Answer).Follows (booked lawful inv) := by
  refine follows_named lawful ?_ fun b law => .keeping_of_silent (fun _ => rfl) ?_
  · rintro bench past ⟨known, kept⟩
    exact kept.backends
  rintro bench past ⟨known, kept⟩
  -- The new session joins the known ones, and everything else that is held is as it was.
  refine ⟨fun h => known h ∨ h = Session.upcoming b bench.sessions, kept.backends, ?_, ?_, ?_,
    ledger.make b law kept.sessions⟩
  · intro pair member
    rcases Register.mem_assign member with rfl | old
    · exact .inr rfl
    · exact .inl (kept.handles pair old)
  · intro pair member
    exact .inl (kept.samplers pair member)
  · intro pair member
    exact ⟨.inl (kept.feeds pair member).1, .inl (kept.feeds pair member).2⟩

theorem booked_collect (backend : String) (metric : Metric) (index? : Option Int)
    (window? : Option Window) (advance : Bool) :
    (take (.collect backend metric index? window? advance) : Run (Workbench σ) Answer).Follows
      (booked lawful inv) := by
  refine follows_named lawful ?_ fun b law => Follows.bind ?_ fun reports => .pure _
  · rintro bench past ⟨known, kept⟩
    exact kept.backends
  intro bench past ⟨known, kept⟩
  -- The session of the collection becomes known too, although no name leads to it.
  obtain ⟨grown, more, sessions⟩ := ledger.within law kept.sessions fun known h held =>
    Session.follows_collection (ledger.queries held) metric index? (window?.getD .single) advance
  refine ⟨grown, kept.backends, ?_, ?_, ?_, sessions⟩
  · intro pair member
    exact more _ (kept.handles pair member)
  · intro pair member
    exact more _ (kept.samplers pair member)
  · intro pair member
    exact ⟨more _ (kept.feeds pair member).1, more _ (kept.feeds pair member).2⟩

/-- Every step keeps a bench with a ledger. -/
theorem booked_take (step : Step)
    (asks : step.direct = true → ∀ (known : Session σ → Prop) (b : Backend σ) request,
      (b.ask none request).Follows (.keeping (inv known))) :
    (take step : Run (Workbench σ) Answer).Follows (booked lawful inv) := by
  cases making : step.making with
  | true =>
      cases step with
      | make name backend => exact booked_make ledger name backend
      | collect backend metric index? window? advance =>
          exact booked_collect ledger backend metric index? window? advance
      | _ => cases making
  | false =>
      -- No session is made, so the known ones stay the same ones.
      intro bench past ⟨known, kept⟩
      have quiet := follows_step ledger step (fun direct => asks direct known) making
      exact ⟨known, quiet bench past kept⟩

end Kept

end Workbench

namespace Laboratory

/-- Takes steps one after the other. A step that ends in a fault is not the end. -/
def perform (steps : List Step) : Run Laboratory (List (Except Fault Workbench.Answer)) :=
  Run.each (fun step => Run.attempt (take step)) steps

/-- A step by which a backend is asked without a session. -/
def Step.direct : Step → Bool
  | .onBench step => step.direct
  | _ => false

/-- Nothing happens to a laboratory in which the number of a backend is looked up. -/
theorem simulatedId_still (name : String) : (simulatedId name).Follows .still := by
  refine Follows.bind ((Workbench.named_still (·.backends) name).zoom ?_) fun b =>
    Follows.get.bind fun lab => ?_
  · rintro lab calls bench ⟨rfl, rfl⟩
    exact ⟨rfl, rfl⟩
  · split
    · exact .pure _
    · exact .fault _

/-- The moves in a laboratory that keep its bench, on which further sessions may become known. -/
abbrev booked (lawful : Backend Equipment → Prop)
    (inv : (Session Equipment → Prop) → Sessions Equipment → List Call → Prop) : Moves Laboratory :=
  .keeping fun lab past => ∃ known, Workbench.Refers lawful known (inv known) lab.bench past

section Kept

variable {lawful : Backend Equipment → Prop}
  {inv : (Session Equipment → Prop) → Sessions Equipment → List Call → Prop}

theorem follows_onBench {run : Run (Workbench Equipment) α}
    (one : run.Follows (Workbench.booked lawful inv)) :
    (onBench run).Follows (booked lawful inv) :=
  one.zoom fun _ _ _ moved => moved

variable (ledger : Ledger lawful inv)

include ledger

/-- A change of the equipment concerns no session. -/
theorem follows_adjust (change : Equipment → Equipment) :
    (adjust change).Follows (booked lawful inv) := by
  refine follows_onBench (.keeping_of_silent (fun _ => rfl) ?_)
  rintro bench past ⟨known, kept⟩
  -- The past calls are the same; the ledger allows the state behind the backends to change.
  exact ⟨known, kept.backends, kept.handles, kept.samplers, kept.feeds,
    ledger.behind _ kept.sessions⟩

/-- A step in a laboratory keeps its bench, if every backend on the driver is lawful. -/
theorem booked_take (created : ∀ id, lawful (Equipment.driverBackend (Nvml.backend id)))
    (step : Step)
    (asks : step.direct = true → ∀ (known : Session Equipment → Prop) (b : Backend Equipment)
      request, (b.ask none request).Follows (.keeping (inv known))) :
    (take step).Follows (booked lawful inv) := by
  have change : ∀ name change, (adjustSimulated name change).Follows (booked lawful inv) :=
    fun name change => (simulatedId_still name).of_still.bind fun id => follows_adjust ledger _
  cases step with
  | onBench step => exact follows_onBench (Workbench.booked_take ledger step asks)
  | create name =>
      refine Follows.get.bind fun lab => ?_
      cases made : Nvml.create lab.bench.sessions.backends.driver lab.nextId with
      | error failure => exact .idle (fun _ => rfl) fun _ => rfl
      | ok b =>
          -- A backend is only created on the driver, under the next number.
          have law : lawful (Equipment.driverBackend b) := by
            unfold Nvml.create at made
            split at made
            · cases made
              exact created lab.nextId
            · cases made
          show Follows _ (pure b >>= _)
          rw [pure_bind]
          refine Follows.bind (.keeping_of_silent (fun _ => rfl) ?_) fun _ => .pure _
          rintro lab past ⟨known, kept⟩
          refine ⟨known, ?_, kept.handles, kept.samplers, kept.feeds, kept.sessions⟩
          intro pair member
          rcases Register.mem_assign member with rfl | old
          · exact law
          · exact kept.backends pair old
  | inject name operation failure => exact (change name _).bind fun _ => .pure _
  | mend name => exact (change name _).bind fun _ => .pure _
  | replaceDevices name devices => exact (change name _).bind fun _ => .pure _
  | queries name =>
      exact (simulatedId_still name).of_still.bind fun id => Follows.get.bind fun lab => .pure _
  | replaceDriver driver => exact (follows_adjust ledger _).bind fun _ => .pure _

end Kept

end Laboratory

end GpuTelemetry
