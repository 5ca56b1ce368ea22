import GpuTelemetry.Lookup
import GpuTelemetry.Window

/-!
# Sampling

A sampler reads metrics of devices in a session. Power and clock are read once. The other metrics
are averaged: each round of the window asks for the samples since a cursor and takes the latest of
them, and the result is the sum of the values taken, divided by their number and rounded down.

An advancing cursor moves to the sample taken, so that no sample is taken twice; it usually needs a
delay between the rounds, as the buffer would have nothing newer yet. A cursor that does not advance
stays at zero, and each round sees the whole buffer.

The session has to be open when an average begins, and is not looked at again in its rounds.
-/

namespace GpuTelemetry

/-- Reads metrics of devices in a session, over a window and with or without advancing cursor. -/
structure Sampler (σ : Type) where
  session : Session σ
  window : Window := .single
  advance : Bool := true

/-- The first of the samples with the greatest timestamp. -/
def Sample.latest? : List Sample → Option Sample
  | [] => none
  | s :: rest =>
    match latest? rest with
    | none => some s
    | some later => some (if s.timestamp < later.timestamp then later else s)

namespace Sampler

variable {σ : Type}

def power (s : Sampler σ) (device : Device) : Run (Sessions σ) Int :=
  Run.orFail (s.session.ask (.powerOf device.native)) (.powerFailed device.index)

def frequency (s : Sampler σ) (device : Device) : Run (Sessions σ) Int :=
  Run.orFail (s.session.ask (.clockOf device.native)) (.clockFailed device.index)

/-- The latest sample since a cursor; `ask` is how requests are put. -/
def latest (ask : (request : Request) → Run (Sessions σ) request.Answer) (device : Device)
    (metric : Metric) (cursor : Int) : Run (Sessions σ) Sample := do
  let samples ← Run.orFail (ask (.samplesOf device.native metric cursor))
    (.samplesFailed metric device.index)
  match Sample.latest? samples with
  | some sample => return sample
  | none => Run.fail (.samplesEmpty metric device.index)

/-- Waits for the delay of a window if a round is still to come. -/
def pauseBefore (window : Window) : Nat → Run (Sessions σ) Unit
  | 0 => return ()
  | _ + 1 => Run.emit (.pause window.delay)

/-- The sum of the values of the remaining rounds of a window and of those taken before. -/
def total (s : Sampler σ) (ask : (request : Request) → Run (Sessions σ) request.Answer)
    (device : Device) (metric : Metric) (window : Window) : Nat → Int → Int → Run (Sessions σ) Int
  | 0, _, sum => return sum
  | left + 1, cursor, sum => do
    let sample ← latest ask device metric cursor
    Run.note (.sampled device.index metric (window.count - left) window.count sample.value)
    pauseBefore window left
    s.total ask device metric window left (if s.advance then sample.timestamp else cursor)
      (sum + sample.value)

/-- The average of a metric over a window, rounded down. -/
def average (s : Sampler σ) (device : Device) (metric : Metric) (window : Window) :
    Run (Sessions σ) Int := do
  if metric.averaged then
    s.session.requireOpen
    let sum ← s.total s.session.put device metric window window.count 0 0
    return Int.fdiv sum window.count
  else
    Run.fault (.notSampled metric)

/-- The average over a window that may be missing. That it is missing comes to light only when the
sampling would begin: on an open session and for a metric with a sample buffer. -/
def averageOver (s : Sampler σ) (device : Device) (metric : Metric) :
    Option Window → Run (Sessions σ) Int
  | some window => s.average device metric window
  | none => do
    if metric.averaged then
      s.session.requireOpen
      Run.fault .noWindow
    else
      Run.fault (.notSampled metric)

/-- A metric of a device, read in the way that suits it. Averages are over the sampler's own window
unless another is given. -/
def sample (s : Sampler σ) (device : Device) (metric : Metric) (window? : Option Window) :
    Run (Sessions σ) Int :=
  match metric with
  | .power => s.power device
  | .frequency => s.frequency device
  | _ => s.average device metric (window?.getD s.window)

end Sampler

end GpuTelemetry
