import GpuTelemetry.Sampler

/-!
# Feeds and collections

A feed gives the reports of a metric one at a time and does nothing in between: each step looks up
one device and samples it. The number of devices is asked for by the first step unless it is known.
A feed that has come to its end or to a fault gives nothing more.

A collection is the whole of a feed, taken in a session of its own.
-/

namespace GpuTelemetry

inductive Feed.Stage where
  | unstarted (indices? : Option (List Int)) (count? : Option Int)
  /-- The number of devices is known and some indices are left. -/
  | running (count : Int) (left : Indices)
  | ended
  deriving Repr, DecidableEq

/-- A source of the reports of a metric, one device at a time. -/
structure Feed (σ : Type) where
  session : Session σ
  sampler : Sampler σ
  metric : Metric
  stage : Feed.Stage

/-- The indices that are visited: the given ones, or every index below the number of devices. -/
def Indices.orBelow (indices? : Option (List Int)) (count : Int) : Indices :=
  match indices? with
  | some indices => .listed indices
  | none => .below count

variable {σ : Type}

/-- The report of a metric of the device at an index below a known number of devices. -/
def Session.report (h : Session σ) (sampler : Sampler σ) (metric : Metric) (count index : Int) :
    Run (Sessions σ) Report := do
  let device ← h.resolveBelow count index
  let value ← sampler.sample device metric none
  return Report.of device metric value

/-- The report for the first of the indices left, and the stage behind it. -/
def Feed.advance (f : Feed σ) (count : Int) (left : Indices) :
    Run (Sessions σ) (Option (Report × Feed.Stage)) :=
  match left.next? with
  | none => return none
  | some (index, left) => do
    let report ← f.session.report f.sampler f.metric count index
    return some (report, .running count left)

/-- The next report of a feed and the stage behind it, or nothing at its end. -/
def Feed.next (f : Feed σ) : Run (Sessions σ) (Option (Report × Feed.Stage)) :=
  match f.stage with
  | .unstarted indices? count? => do
    let count ← f.session.countUnless count?
    f.advance count (.orBelow indices? count)
  | .running count left => f.advance count left
  | .ended => return none

/-- The reports of a metric, of every device or of the one at an index, in a session of their own on
an idle backend. -/
def collect (b : Backend σ) (metric : Metric) (index? : Option Int) (window? : Option Window)
    (advance : Bool) : Run (Sessions σ) (List Report) :=
  Session.within b fun h => do
    let sampler : Sampler σ := ⟨h, window?.getD .single, advance⟩
    let count ← h.countDevices
    (Indices.orBelow (index?.map ([·])) count).visit (h.report sampler metric count)

end GpuTelemetry
