import GpuTelemetry.Proofs.Laboratory.Queries
import GpuTelemetry.Proofs.Shutdown.Twins

/-!
# Workbenches on twins

Two workbenches that hold the same under each name, but on twins in the place of backends: sessions
on twins in the place of sessions, and samplers and feeds on those. Every step that asks no backend
directly mirrors the same step on the other bench, and leaves such benches again.

Main statement: `Workbench.mirrors_perform`.
-/

namespace GpuTelemetry

variable {σ τ α β : Type} {R : σ → τ → Prop}

open Run (Mirrors)

/-! ## Registers -/

/-- Registers that hold nothing or related values under each name. -/
def Register.Related (E : α → β → Prop) (register : List (String × α))
    (other : List (String × β)) : Prop :=
  ∀ name, Option.Rel E (register.lookup name) (other.lookup name)

theorem Register.Related.nil {E : α → β → Prop} : Related E [] [] := fun _ => .none

theorem Register.Related.assign {E : α → β → Prop} {register : List (String × α)}
    {other : List (String × β)} (related : Related E register other) (name : String) {a : α} {b : β}
    (values : E a b) : Related E (assign name a register) (assign name b other) := by
  intro key
  by_cases own : key = name
  · rw [own, lookup_assign_self, lookup_assign_self]
    exact .some values
  · rw [lookup_assign_of_ne _ _ own, lookup_assign_of_ne _ _ own]
    exact related key

/-! ## Steps -/

namespace Workbench

/-- Workbenches that hold the same under each name, but on twins in the place of backends. -/
structure Twin (R : σ → τ → Prop) (w : Workbench σ) (v : Workbench τ) : Prop where
  sessions : Sessions.Twin R w.sessions v.sessions
  backends : Register.Related (Backend.Twin R) w.backends v.backends
  handles : Register.Related (Session.Twin R) w.handles v.handles
  samplers : Register.Related (Sampler.Paired (Session.Twin R)) w.samplers v.samplers
  devices : w.devices = v.devices
  feeds : Register.Related (Feed.Paired (Session.Twin R)) w.feeds v.feeds

abbrev mirror (R : σ → τ → Prop) : Mirror (Workbench σ) (Workbench τ) := .forgiving (Twin R)

theorem mirrors_onSessions {E : α → β → Prop} {run : Run (Sessions σ) α}
    {other : Run (Sessions τ) β} (one : Mirrors (Sessions.mirror R) E run other) :
    Mirrors (mirror R) E (onSessions run) (onSessions other) := by
  refine one.zoom (fun _ _ same => same) (fun w v twin => twin.sessions) ?_
  intro w v s t twin sessions
  exact { twin with sessions }

/-- What registers of two benches hold under a name is related. -/
theorem mirrors_named {E : α → β → Prop} {register : Workbench σ → List (String × α)}
    {other : Workbench τ → List (String × β)}
    (related : ∀ w v, Twin R w v → Register.Related E (register w) (other v)) (name : String) :
    Mirrors (mirror R) E (named register name) (named other name) := by
  have get : Mirrors (mirror R) (Twin R) Run.get Run.get := .look fun _ _ twin => twin
  refine get.bind fun w v twin => ?_
  have values := related w v twin name
  generalize (register w).lookup name = found at values
  generalize (other v).lookup name = found' at values
  cases values with
  | none => exact .fault _
  | some values => exact .pure values

theorem mirrors_handle (name : String) :
    Mirrors (mirror R) (Session.Twin R) (named (·.handles) name) (named (·.handles) name) :=
  mirrors_named (fun _ _ twin => twin.handles) name

theorem mirrors_backend (name : String) :
    Mirrors (mirror R) (Backend.Twin R) (named (·.backends) name) (named (·.backends) name) :=
  mirrors_named (fun _ _ twin => twin.backends) name

theorem mirrors_sampler (name : String) :
    Mirrors (mirror R) (Sampler.Paired (Session.Twin R)) (named (·.samplers) name)
      (named (·.samplers) name) :=
  mirrors_named (fun _ _ twin => twin.samplers) name

theorem mirrors_device (name : String) :
    Mirrors (mirror R) Eq (named (·.devices) name) (named (·.devices) name) := by
  refine mirrors_named (fun w v twin key => ?_) name
  -- Devices are the same on both benches and not only related.
  rw [twin.devices]
  cases v.devices.lookup key with
  | none => exact .none
  | some device => exact .some rfl

theorem mirrors_keepDevice (name? : Option String) (device : Device) :
    Mirrors (mirror R) Eq (keepDevice name? device) (keepDevice name? device) := by
  cases name? with
  | none => exact .pure rfl
  | some name =>
      refine .modify fun w v twin => { twin with devices := ?_ }
      rw [twin.devices]

theorem mirrors_nextOf (name : String) :
    Mirrors (mirror R) Eq (nextOf name) (nextOf name) := by
  have found : Mirrors (mirror R) (Feed.Paired (Session.Twin R)) (named (·.feeds) name)
      (named (·.feeds) name) := mirrors_named (fun _ _ twin => twin.feeds) name
  refine found.bind fun f g paired => ?_
  -- Both feeds are in the same stage afterwards, whatever it is.
  have staged : ∀ stage : Feed.Stage, Mirrors (mirror R) Eq
      (Run.modify fun w : Workbench σ =>
        { w with feeds := Register.assign name { f with stage } w.feeds })
      (Run.modify fun v : Workbench τ =>
        { v with feeds := Register.assign name { g with stage } v.feeds }) := by
    refine fun stage => .modify fun w v twin => { twin with feeds := ?_ }
    exact twin.feeds.assign name { paired with stage := rfl }
  have next := (paired.mono fun _ _ twin => (Session.Twin.linked twin).inStep).next
  refine (mirrors_onSessions next).caught.andThen fun result => ?_
  split
  · exact (staged _).andThen fun _ => .pure rfl
  · exact (staged _).andThen fun _ => .pure rfl
  · exact (staged _).andThen fun _ => .fault _

/-- What is done with the session under a name mirrors itself, if it does for twins. -/
theorem mirrors_atHandle (name : String) {run : Session σ → Run (Sessions σ) α}
    {other : Session τ → Run (Sessions τ) α} {next : α → Run (Workbench σ) β}
    {next' : α → Run (Workbench τ) β}
    (one : ∀ h k, Session.Twin R h k → Mirrors (Sessions.mirror R) Eq (run h) (other k))
    (two : ∀ a, Mirrors (mirror R) Eq (next a) (next' a)) :
    Mirrors (mirror R) Eq
      (named (·.handles) name >>= fun h => onSessions (run h) >>= next)
      (named (·.handles) name >>= fun k => onSessions (other k) >>= next') :=
  (mirrors_handle name).bind fun h k twin => (mirrors_onSessions (one h k twin)).andThen two

/-- What a sampler under a name does with a device under a name mirrors itself, if it does for
samplers in step. -/
theorem mirrors_atSampler (name device : String) {run : Sampler σ → Device → Run (Sessions σ) α}
    {other : Sampler τ → Device → Run (Sessions τ) α} {next : α → Run (Workbench σ) β}
    {next' : α → Run (Workbench τ) β}
    (one : ∀ (s : Sampler σ) (r : Sampler τ), s.Paired (Session.InStep (Sessions.mirror R)) r →
      ∀ d, Mirrors (Sessions.mirror R) Eq (run s d) (other r d))
    (two : ∀ a, Mirrors (mirror R) Eq (next a) (next' a)) :
    Mirrors (mirror R) Eq
      (named (·.samplers) name >>= fun s => named (·.devices) device >>= fun d =>
        onSessions (run s d) >>= next)
      (named (·.samplers) name >>= fun r => named (·.devices) device >>= fun d =>
        onSessions (other r d) >>= next') := by
  refine (mirrors_sampler name).bind fun s r paired => (mirrors_device device).andThen fun d => ?_
  have step := paired.mono fun _ _ twin => (Session.Twin.linked twin).inStep
  exact (mirrors_onSessions (one s r step d)).andThen two

/-- A step that asks no backend directly mirrors the same step on twins. -/
theorem mirrors_take (step : Step) (indirect : step.direct = false) :
    Mirrors (mirror R) Eq (take step) (take step) := by
  cases step with
  | ask backend request => cases indirect
  | vendor backend =>
      -- Twins differ in what they answer, but not in their vendor.
      refine (mirrors_backend backend).bind fun b c twin => ?_
      rw [twin.vendor]
      exact .pure rfl
  | make name backend =>
      refine (mirrors_backend backend).bind fun b c twin => ?_
      refine (mirrors_onSessions (Session.mirrors_make twin)).bind fun h k same => ?_
      refine Mirrors.andThen (.modify fun w v bench => ?_) fun _ => .pure rfl
      -- The new sessions are twins, and so the handles stay related.
      exact { bench with handles := bench.handles.assign name same }
  | start session =>
      exact mirrors_atHandle session (fun _ _ twin => twin.linked.matching.start) fun _ => .pure rfl
  | finish session =>
      -- Here the backends answer differently; a shutdown that is declined is only noted.
      exact mirrors_atHandle session (fun _ _ twin => twin.finish) fun _ => .pure rfl
  | enter session =>
      exact mirrors_atHandle session (fun _ _ twin => twin.linked.matching.enter) fun _ => .pure rfl
  | leave session =>
      exact mirrors_atHandle session (fun _ _ twin => twin.finish) fun _ => .pure rfl
  | isOpen session =>
      exact mirrors_atHandle session (fun _ _ twin => twin.linked.matching.looked)
        fun _ => .pure rfl
  | vendorWhileOpen session =>
      exact mirrors_atHandle session (fun _ _ twin => twin.linked.matching.vendor)
        fun _ => .pure rfl
  | count session =>
      exact mirrors_atHandle session (fun _ _ twin => twin.linked.inStep.countDevices) fun _ =>
        .pure rfl
  | resolve session index count? name? =>
      refine mirrors_atHandle session (fun _ _ twin => twin.linked.inStep.resolve index count?) ?_
      exact fun device => (mirrors_keepDevice name? device).andThen fun _ => .pure rfl
  | resolveAll session =>
      exact mirrors_atHandle session (fun _ _ twin => twin.linked.inStep.resolveAll) fun _ =>
        .pure rfl
  | device name device =>
      exact (mirrors_keepDevice (some name) device).andThen fun _ => .pure rfl
  | sampler name session window? advance =>
      refine (mirrors_handle session).bind fun h k twin => ?_
      refine Mirrors.andThen (.modify fun w v bench => ?_) fun _ => .pure rfl
      exact { bench with samplers := bench.samplers.assign name ⟨twin, rfl, rfl⟩ }
  | sample sampler device metric window? =>
      exact mirrors_atSampler sampler device (fun _ _ step d => step.sample d metric window?)
        fun _ => .pure rfl
  | average sampler device metric window? =>
      exact mirrors_atSampler sampler device (fun _ _ step d => step.averageOver d metric window?)
        fun _ => .pure rfl
  | power sampler device =>
      exact mirrors_atSampler sampler device (fun _ _ step d => step.power d) fun _ => .pure rfl
  | frequency sampler device =>
      exact mirrors_atSampler sampler device (fun _ _ step d => step.frequency d) fun _ => .pure rfl
  | feed name session sampler metric indices? count? =>
      refine (mirrors_handle session).bind fun h k twin => ?_
      refine (mirrors_sampler sampler).bind fun s r paired => ?_
      refine Mirrors.andThen (.modify fun w v bench => ?_) fun _ => .pure rfl
      exact { bench with feeds := bench.feeds.assign name ⟨twin, paired, rfl, rfl⟩ }
  | next feed => exact mirrors_nextOf feed
  | collect backend metric index? window? advance =>
      refine (mirrors_backend backend).bind fun b c twin => ?_
      exact (mirrors_onSessions (mirrors_collect twin metric index? window? advance)).andThen
        fun _ => .pure rfl

/-- Takes steps one after the other. A step that ends in a fault is not the end. -/
def perform (steps : List Step) : Run (Workbench σ) (List (Except Fault Answer)) :=
  Run.each (fun step => Run.attempt (take step)) steps

theorem mirrors_perform (steps : List Step) (indirect : ∀ step ∈ steps, step.direct = false) :
    Mirrors (mirror R) Eq (perform steps) (perform steps) :=
  Mirrors.each fun step member => (mirrors_take step (indirect step member)).caught

end Workbench

end GpuTelemetry
