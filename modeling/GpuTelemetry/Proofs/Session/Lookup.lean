import GpuTelemetry.Proofs.Session.Heads

/-!
# Looking up devices

What counting the devices and looking one up does, case by case. A request that can fail in the
backend's words ends as the backend replies (`query_of_opened`), counting is one such request
(`countDevices_of_opened`), and looking up a device goes one of four ways (`Resolving`). Later
proofs split on these cases and open neither of the two.

Without an open session nothing is asked (`resolveBelow_of_not_opened`).
-/

namespace GpuTelemetry

variable {σ α : Type}

/-- What a refused request ends in, if it fails in the backend's words where the backend has any. -/
def Refusal.named (failure : String → Failure) : Refusal → Fault
  | .declined reason => .failed (failure reason)
  | other => .refused other

namespace Session

variable {h : Session σ} {s : Sessions σ}

/-! ## Requests that can fail -/

/-- A request of an open session ends as the backend replies. -/
theorem query_of_opened (isOpen : s.phase h.id = .opened) (request : Request)
    (failure : String → Failure) :
    Run.orFail (h.ask request) failure s =
      ⟨(h.backend.answer request s.backends).result.mapError (Refusal.named failure),
        h.backend.asked request s, (h.backend.ask (some h.id) request s).events⟩ := by
  unfold Run.orFail
  rw [ask_of_opened isOpen]
  unfold Backend.ask Backend.asked
  rcases h.backend.answer request s.backends with ⟨result, state, notes⟩
  cases result with
  | ok answer => rfl
  | error refusal => cases refusal <;> rfl

section Query

variable {request : Request} {failure : String → Failure}
  {next : request.Answer → Run (Sessions σ) α}

/-- A refused request is the last one. -/
theorem query_of_refused (isOpen : s.phase h.id = .opened) {refusal : Refusal}
    (reply : (h.backend.answer request s.backends).result = .error refusal) :
    ((Run.orFail (h.ask request) failure >>= next) s).result = .error (refusal.named failure) ∧
      ((Run.orFail (h.ask request) failure >>= next) s).state = h.backend.asked request s ∧
      ((Run.orFail (h.ask request) failure >>= next) s).calls = [h.call request false] := by
  have asked := query_of_opened isOpen request failure
  have called := calls_ask h.backend (some h.id) request s
  rw [reply] at asked called
  have failed : (Run.orFail (h.ask request) failure s).result = .error (refusal.named failure) := by
    rw [asked]
    rfl
  rw [Run.calls_bind_of_error _ failed, Run.bind_of_error _ failed, asked]
  exact ⟨rfl, rfl, called⟩

/-- What is done with an answer comes behind the request. -/
theorem query_of_answered (isOpen : s.phase h.id = .opened) {answer : request.Answer}
    (reply : (h.backend.answer request s.backends).result = .ok answer) :
    ((Run.orFail (h.ask request) failure >>= next) s).result =
        (next answer (h.backend.asked request s)).result ∧
      ((Run.orFail (h.ask request) failure >>= next) s).state =
        (next answer (h.backend.asked request s)).state ∧
      ((Run.orFail (h.ask request) failure >>= next) s).calls =
        h.call request true :: (next answer (h.backend.asked request s)).calls := by
  have asked := query_of_opened isOpen request failure
  have called := calls_ask h.backend (some h.id) request s
  rw [reply] at asked called
  have given : (Run.orFail (h.ask request) failure s).result = .ok answer := by
    rw [asked]
    rfl
  rw [Run.calls_bind_of_ok _ given, Run.bind_of_ok _ given, asked]
  exact ⟨rfl, rfl, congrArg (· ++ (next answer (h.backend.asked request s)).calls) called⟩

end Query

/-! ## Counting -/

/-- Counting the devices of an open session is one request. -/
theorem countDevices_of_opened (isOpen : s.phase h.id = .opened) :
    (h.countDevices s).result =
        (h.backend.answer .deviceCount s.backends).result.mapError (Refusal.named .countFailed) ∧
      (h.countDevices s).state = h.backend.asked .deviceCount s ∧
      (h.countDevices s).calls =
        [h.call .deviceCount (h.backend.answer .deviceCount s.backends).result.isOk] := by
  unfold countDevices
  rcases reply : (h.backend.answer .deviceCount s.backends).result with refusal | count
  · exact query_of_refused isOpen reply
  · exact query_of_answered isOpen reply

/-- A session that is not open counts nothing. -/
theorem countDevices_of_not_opened (shut : s.phase h.id ≠ .opened) :
    h.countDevices s = ⟨.error (.notOpen (s.phase h.id)), s, []⟩ :=
  Run.bind_of_silent_error _ (query_of_not_opened shut _ _)

/-! ## Looking up -/

variable (h s)

/-- The ways in which looking up a device goes in an open session. -/
inductive Resolving (count index : Int) : Prop
  | outOfRange (outside : index < 0 ∨ count ≤ index)
      (result : h.resolveBelow count index s = ⟨.error (missing index count), s, []⟩)
  | noHandle (refusal : Refusal) (inside : 0 ≤ index ∧ index < count)
      (reply : (h.backend.answer (.handleAt index) s.backends).result = .error refusal)
      (result : (h.resolveBelow count index s).result =
        .error (refusal.named (.handleFailed index)))
      (state : (h.resolveBelow count index s).state = h.backend.asked (.handleAt index) s)
      (calls : (h.resolveBelow count index s).calls = [h.call (.handleAt index) false])
  | noName (native : Native) (refusal : Refusal) (inside : 0 ≤ index ∧ index < count)
      (handle : (h.backend.answer (.handleAt index) s.backends).result = .ok native)
      (reply : (h.backend.answer (.nameOf native)
        (h.backend.asked (.handleAt index) s).backends).result = .error refusal)
      (result : (h.resolveBelow count index s).result = .error (refusal.named (.nameFailed index)))
      (state : (h.resolveBelow count index s).state =
        h.backend.asked (.nameOf native) (h.backend.asked (.handleAt index) s))
      (calls : (h.resolveBelow count index s).calls =
        [h.call (.handleAt index) true, h.call (.nameOf native) false])
  /-- The name is known, and it settles whether there is such a device. -/
  | named (native : Native) (name : String) (inside : 0 ≤ index ∧ index < count)
      (handle : (h.backend.answer (.handleAt index) s.backends).result = .ok native)
      (reply : (h.backend.answer (.nameOf native)
        (h.backend.asked (.handleAt index) s).backends).result = .ok name)
      (unfit : ∀ problem, nameProblem? index name = some problem →
        (h.resolveBelow count index s).result = .error (.failed problem))
      (fit : nameProblem? index name = none →
        (h.resolveBelow count index s).result = .ok ⟨index, name, native⟩)
      (state : (h.resolveBelow count index s).state =
        h.backend.asked (.nameOf native) (h.backend.asked (.handleAt index) s))
      (calls : (h.resolveBelow count index s).calls =
        [h.call (.handleAt index) true, h.call (.nameOf native) true])

variable {h s}

/-- Out of range nothing is asked, whether the session is open or not. -/
theorem resolveBelow_of_outside {count index : Int} (outside : index < 0 ∨ count ≤ index) :
    h.resolveBelow count index s = ⟨.error (missing index count), s, []⟩ := by
  unfold resolveBelow
  rw [if_pos outside]
  rfl

/-- A session that is not open finds nothing and asks nothing. -/
theorem resolveBelow_of_not_opened (shut : s.phase h.id ≠ .opened) (count index : Int) :
    ∃ fault, h.resolveBelow count index s = ⟨.error fault, s, []⟩ := by
  by_cases outside : index < 0 ∨ count ≤ index
  · exact ⟨_, resolveBelow_of_outside outside⟩
  · rw [resolveBelow_eq_asks, if_neg outside]
    exact ⟨_, Run.bind_of_silent_error _ (query_of_not_opened shut _ _)⟩

private theorem accept_idle (index : Int) (native : Native) (name : String) (t : Sessions σ) :
    (accept index native name t).state = t ∧ (accept index native name t).calls = [] := by
  unfold accept
  cases nameProblem? index name <;> exact ⟨rfl, rfl⟩

private theorem resolveBelow_of_inside {count index : Int} (inside : 0 ≤ index ∧ index < count) :
    h.resolveBelow count index =
      Run.orFail (h.ask (.handleAt index)) (.handleFailed index) >>= fun native =>
        Run.orFail (h.ask (.nameOf native)) (.nameFailed index) >>= accept index native := by
  rw [resolveBelow_eq_asks, if_neg (by omega)]

/-- A device that is found has the index, which is in range, and a name. -/
theorem device_of_resolveBelow {count index : Int} {device : Device}
    (found : (h.resolveBelow count index s).result = .ok device) :
    0 ≤ index ∧ index < count ∧ device.index = index ∧ device.name ≠ "" := by
  by_cases outside : index < 0 ∨ count ≤ index
  · rw [resolveBelow_of_outside outside] at found
    cases found
  · have inside : 0 ≤ index ∧ index < count := by omega
    rw [resolveBelow_of_inside inside] at found
    obtain ⟨native, _, found⟩ := Run.results_of_bind found
    obtain ⟨name, _, found⟩ := Run.results_of_bind found
    -- Handle and name have been given, so it is the name that decides.
    unfold accept nameProblem? at found
    by_cases empty : name = ""
    · rw [if_pos empty] at found
      cases found
    · rw [if_neg empty] at found
      by_cases long : Failure.nameLimit < name.utf8ByteSize
      · rw [if_pos long] at found
        cases found
      · rw [if_neg long] at found
        cases found
        exact ⟨inside.1, inside.2, rfl, empty⟩

theorem resolving (isOpen : s.phase h.id = .opened) (count index : Int) :
    h.Resolving s count index := by
  by_cases outside : index < 0 ∨ count ≤ index
  · exact .outOfRange outside (resolveBelow_of_outside outside)
  have inside : 0 ≤ index ∧ index < count := by omega
  have split := resolveBelow_of_inside (h := h) inside
  rcases handle : (h.backend.answer (.handleAt index) s.backends).result with refusal | native
  · obtain ⟨result, state, calls⟩ := query_of_refused isOpen handle
    exact .noHandle refusal inside handle (split ▸ result) (split ▸ state) (split ▸ calls)
  · obtain ⟨result, state, calls⟩ := query_of_answered isOpen handle
    rw [← split] at result state calls
    -- The request for the handle has left the session open.
    have stillOpen : (h.backend.asked (.handleAt index) s).phase h.id = .opened := isOpen
    rcases reply : (h.backend.answer (.nameOf native)
        (h.backend.asked (.handleAt index) s).backends).result with refusal | name
    · obtain ⟨result', state', calls'⟩ := query_of_refused stillOpen reply
      exact .noName native refusal inside handle reply (result.trans result') (state.trans state')
        (calls.trans (congrArg _ calls'))
    · obtain ⟨result', state', calls'⟩ := query_of_answered stillOpen reply
      refine .named native name inside handle reply (fun problem wrong => ?_) (fun fits => ?_)
        ((state.trans state').trans (accept_idle ..).1) (calls.trans (congrArg _ (calls'.trans ?_)))
      · rw [result, result']
        unfold accept
        rw [wrong]
        rfl
      · rw [result, result']
        unfold accept
        rw [fits]
        rfl
      · rw [(accept_idle ..).2]

/-- Looking up a device asks for the handle at its index, and for the name behind it. -/
theorem calls_resolveBelow {count index : Int} : ∀ c ∈ (h.resolveBelow count index s).calls,
    c.request = .handleAt index ∨
      ∃ native, (h.backend.answer (.handleAt index) s.backends).result = .ok native ∧
        c.request = .nameOf native := by
  intro c member
  by_cases isOpen : s.phase h.id = .opened
  · cases h.resolving isOpen count index with
    | outOfRange outside same =>
        rw [same] at member
        cases member
    | noHandle refusal inside reply result state calls =>
        rw [calls, List.mem_singleton] at member
        exact .inl (member ▸ rfl)
    | noName native refusal inside handle reply result state calls
    | named native name inside handle reply unfit fit state calls =>
        rw [calls, List.mem_cons, List.mem_singleton] at member
        -- Whether the name is given or refused, it is asked for at the handle.
        rcases member with rfl | rfl
        · exact .inl rfl
        · exact .inr ⟨native, handle, rfl⟩
  · obtain ⟨fault, same⟩ := resolveBelow_of_not_opened isOpen count index
    rw [same] at member
    cases member

/-! ## With and without a count -/

/-- With a given number of devices, looking one up is all there is to it. -/
theorem resolve_of_given (count index : Int) :
    h.resolve index (some count) = h.resolveBelow count index :=
  pure_bind ..

/-- Otherwise the devices are counted first. -/
theorem resolve_of_counted (isOpen : s.phase h.id = .opened) {count : Int}
    (counted : (h.backend.answer .deviceCount s.backends).result = .ok count) (index : Int) :
    (h.resolve index none s).result =
        (h.resolveBelow count index (h.backend.asked .deviceCount s)).result ∧
      (h.resolve index none s).state =
        (h.resolveBelow count index (h.backend.asked .deviceCount s)).state ∧
      (h.resolve index none s).calls = h.call .deviceCount true ::
        (h.resolveBelow count index (h.backend.asked .deviceCount s)).calls := by
  obtain ⟨result, state, calls⟩ := countDevices_of_opened isOpen
  have given : (h.countDevices s).result = .ok count := by rw [result, counted]; rfl
  rw [counted] at calls
  show ((h.countDevices >>= fun count => h.resolveBelow count index) s).result = _ ∧
    ((h.countDevices >>= fun count => h.resolveBelow count index) s).state = _ ∧
      ((h.countDevices >>= fun count => h.resolveBelow count index) s).calls = _
  rw [Run.calls_bind_of_ok _ given, Run.bind_of_ok _ given, state, calls]
  exact ⟨rfl, rfl, rfl⟩

end Session

end GpuTelemetry
