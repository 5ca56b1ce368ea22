import Mathlib.Control.Monad.Basic
import GpuTelemetry.Proofs.Collection.Gathering
import GpuTelemetry.Proofs.Collection.Outcome
import GpuTelemetry.Proofs.Numeral
import GpuTelemetry.Proofs.Nvml
import GpuTelemetry.Proofs.Simulated

/-!
# Collections from simulated devices and from the driver

Both backends are civil: simulated devices as long as they are asked with handles that they issued,
and the driver as long as its samples are finite. So a collection from either takes its course,
whatever fails on the way, unless it is to name an index that is too long to be written. Main
statement: `collections_take_their_course`.
-/

namespace GpuTelemetry

/-- A request about an issued handle, or about none, is refused in words if at all. -/
theorem Simulated.declined_of_issued {request : Request} {s : Simulated} {refusal : Refusal}
    (polite : ∀ native, request.device? = some native → Issued s.devices.length native)
    (refused : (answer request s).result = .error refusal) :
    ∃ reason, refusal = .declined reason := by
  cases met : (s.count request).failure? request with
  | some reason =>
      rw [answer_of_failure met] at refused
      exact ⟨reason, (Except.error.inj refused).symm⟩
  | none =>
      rw [answer_of_spared met] at refused
      have found : ∀ native, request.device? = some native →
          ∃ pair, (s.count request).find native = .ok pair := by
        intro native same
        refine find_of_issued ?_
        rw [devices_count]
        exact polite native same
      have property : ∀ {α : Type} (read : Device → α) native, request.device? = some native →
          ((s.count request).property native read).result ≠ .error refusal := by
        intro α read native same refused
        obtain ⟨pair, hit⟩ := found native same
        unfold Simulated.property at refused
        rw [hit] at refused
        cases refused
      cases request with
      | start => cases refused
      | shutdown => cases refused
      | deviceCount => cases refused
      | handleAt index =>
          unfold serve at refused
          dsimp only at refused
          split at refused
          · cases refused
          · exact ⟨_, (Except.error.inj refused).symm⟩
      | nameOf native => exact absurd refused (property (·.name) native rfl)
      | powerOf native => exact absurd refused (property (·.power) native rfl)
      | clockOf native => exact absurd refused (property (·.clock) native rfl)
      | samplesOf native metric since =>
          obtain ⟨pair, hit⟩ := found native rfl
          -- Noting the request changes nothing that a look-up depends on.
          have asked : ({ s with asked := (native, metric, since) :: s.asked } : Simulated).find
              native = .ok pair := hit
          unfold serve at refused
          dsimp only [count] at refused
          rw [asked] at refused
          cases refused

theorem Simulated.civil_backend (id : BackendId) (devices : Nat) :
    (Simulated.backend id).Civil (·.devices.length = devices) (Issued devices) where
  keeps request s same := by
    show (answer request s).state.devices.length = devices
    rw [devices_answer]
    exact same
  issues index s native same given := by
    rw [← same]
    exact issued_of_handleAt given
  declines request s refusal same polite refused := by
    rw [← same] at polite
    exact declined_of_issued polite refused

theorem Nvml.civil_backend (id : BackendId) (count : Except ErrorCode Int) :
    (Nvml.backend id).Civil (fun d => d.Finite ∧ d.count = count) fun _ => True where
  keeps request d holds := by
    obtain ⟨finite, same⟩ := holds
    refine ⟨?_, (count_answer request d).trans same⟩
    show ∀ device ∈ (answer request d).state.devices, _
    rw [devices_answer]
    exact finite
  issues _ _ _ _ _ := trivial
  declines request d refusal holds _ refused := declined_of_finite holds.1 refused

end GpuTelemetry
