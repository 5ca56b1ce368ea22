import GpuTelemetry.Nvml.Backend
import GpuTelemetry.Proofs.Collection.Gathering
import GpuTelemetry.Proofs.Session.Lookup
import GpuTelemetry.Proofs.Simulated

/-!
# Looking up every device

Looking up all devices in one go, or one of them with a known number of devices, comes to the same
as looking each of them up by itself. What single look-ups give, from the first index on and up to
the first fault, is a `Stretch`; the state in which each of them begins is `Session.passed`.

Looking up has no effect on the backends that there are (`Backend.Still`), and then all of them
begin in one and the same state (`passed_of_still`). Nothing here depends on that.

Main statements: `precounted`, on one index with and without a count, and `bulk_of_ok` and
`bulk_of_breaks`, on all indices in one go with and without a fault among them.
-/

namespace GpuTelemetry

variable {σ α β : Type}

/-! ## Visits in a row -/

/-- What single visits of the numbers below a bound give: the results up to the first fault, if one
of them ends in a fault. -/
structure Stretch (one : Nat → Except Fault α) (bound : Nat) (found : List α)
    (stop? : Option Fault) : Prop where
  gave : ∀ i (inside : i < found.length), one i = .ok found[i]
  complete : stop? = none → found.length = bound
  stopped : ∀ f, stop? = some f → found.length < bound ∧ one found.length = .error f

/-- The result of visits in one go. -/
def inOne (found : List α) : Option Fault → Except Fault (List α)
  | none => .ok found
  | some f => .error f

theorem Stretch.congr {one other : Nat → Except Fault α} {bound : Nat} {found : List α}
    {stop? : Option Fault} (stretch : Stretch one bound found stop?) (same : ∀ i, other i = one i) :
    Stretch other bound found stop? where
  gave i inside := (same i).trans (stretch.gave i inside)
  complete := stretch.complete
  stopped f stop := ⟨(stretch.stopped f stop).1, (same _).trans (stretch.stopped f stop).2⟩

namespace Run

section Each

variable {visit : β → Run σ α} {items : List β} {s : σ} {found : List α} {f : Fault}

/-- One more item is visited from the state that the others left. -/
theorem each_snoc_of_ok (b : β) (gave : (each visit items s).result = .ok found) :
    each visit (items ++ [b]) s =
      ⟨(visit b (each visit items s).state).result.map fun a => found ++ [a],
        (visit b (each visit items s).state).state,
        (each visit items s).events ++ (visit b (each visit items s).state).events⟩ := by
  induction items generalizing s found with
  | nil =>
      cases gave
      show each visit [b] s = _
      rcases result : (visit b s).result with f | a
      · rw [each_cons_of_error [] result]
        -- Nothing stands before the one visit, and its result is the only one in the list.
        show _ = Outcome.mk ((visit b s).result.map _) (visit b s).state ([] ++ (visit b s).events)
        rw [result]
        rfl
      · rw [each_cons_of_ok [] result]
        show _ = Outcome.mk ((visit b s).result.map _) (visit b s).state ([] ++ (visit b s).events)
        rw [result, List.nil_append]
        exact congrArg (Outcome.mk _ _) (List.append_nil _)
  | cons first rest ih =>
      rcases result : (visit first s).result with f | a
      · rw [each_cons_of_error rest result] at gave
        cases gave
      · rw [each_cons_of_ok rest result] at gave
        obtain ⟨others, rested, same⟩ := map_eq_ok gave
        show each visit (first :: (rest ++ [b])) s = _
        rw [each_cons_of_ok _ result, each_cons_of_ok rest result, ih rested]
        simp only [List.append_assoc, same]
        cases (visit b (each visit rest (visit first s).state).state).result <;> rfl

/-- Behind a fault nothing is visited. -/
theorem each_snoc_of_error (b : β) (failed : (each visit items s).result = .error f) :
    each visit (items ++ [b]) s = each visit items s := by
  induction items generalizing s with
  | nil => cases failed
  | cons first rest ih =>
      show each visit (first :: (rest ++ [b])) s = _
      rcases result : (visit first s).result with g | a
      · rw [each_cons_of_error _ result, each_cons_of_error _ result]
      · rw [each_cons_of_ok rest result] at failed
        rw [each_cons_of_ok _ result, each_cons_of_ok _ result, ih (map_eq_error failed)]

/-- Visits that end in a fault, up to the item that could not be visited. -/
theorem Breaks.ends (breaks : Breaks visit s items found f) :
    ∃ b behind, items = items.take found.length ++ b :: behind ∧
      (each visit (items.take found.length) s).result = .ok found ∧
      (visit b (each visit (items.take found.length) s).state).result = .error f ∧
      (each visit items s).result = .error f ∧
      (each visit items s).calls = (each visit (items.take found.length) s).calls ++
        (visit b (each visit (items.take found.length) s).state).calls := by
  induction breaks with
  | @here s a rest f failed =>
      refine ⟨a, rest, rfl, rfl, failed, ?_, ?_⟩
      · rw [each_cons_of_error rest failed]
      · rw [each_cons_of_error rest failed]
        rfl
  | @later s a rest b before f gave behind ih =>
      obtain ⟨c, others, split, results, failed, ended, calls⟩ := ih
      -- The first visit gave a result and joins those before the break.
      simp only [List.length_cons, List.take_succ_cons]
      rw [each_cons_of_ok _ gave, each_cons_of_ok _ gave, results, ended]
      refine ⟨c, others, congrArg (a :: ·) split, rfl, failed, rfl, ?_⟩
      show callsOf (_ ++ _) = callsOf (_ ++ _) ++ _
      rw [callsOf_append, callsOf_append, List.append_assoc]
      exact congrArg (callsOf (visit a s).events ++ ·) calls

end Each

/-- The state in which a number is visited, behind all smaller ones or the first fault. -/
def passed (visit : Nat → Run σ α) (s : σ) (n : Nat) : σ :=
  (each visit (List.range n) s).state

variable {visit : Nat → Run σ α} {s : σ} {found : List α}

theorem passed_succ (n : Nat) :
    passed visit s (n + 1) = passed visit s n ∨
      passed visit s (n + 1) = (visit n (passed visit s n)).state := by
  unfold passed
  rw [List.range_succ]
  rcases result : (each visit (List.range n) s).result with f | found
  · rw [each_snoc_of_error n result]
    exact .inl rfl
  · rw [each_snoc_of_ok n result]
    exact .inr rfl

/-- What holds at first and is kept by every visit holds of every state that is passed. -/
theorem holds_of_passed {P : σ → Prop} (first : P s)
    (keeps : ∀ i t, P t → P (visit i t).state) (n : Nat) : P (passed visit s n) := by
  induction n with
  | zero => exact first
  | succ n ih =>
      have either : passed visit s (n + 1) = passed visit s n ∨ _ := passed_succ n
      rcases either with same | next
      · rw [same]
        exact ih
      · rw [next]
        exact keeps n _ ih

/-- Visits that all give results are single visits, one after the other. -/
theorem each_range_of_ok {n : Nat} (gave : (each visit (List.range n) s).result = .ok found) :
    found.length = n ∧
      (∀ i (inside : i < found.length), (visit i (passed visit s i)).result = .ok found[i]) ∧
      (each visit (List.range n) s).calls =
        (List.range n).flatMap fun i => (visit i (passed visit s i)).calls := by
  induction n generalizing found with
  | zero =>
      cases gave
      exact ⟨rfl, fun i inside => absurd inside (Nat.not_lt_zero i), rfl⟩
  | succ n ih =>
      rw [List.range_succ] at gave ⊢
      rcases others : (each visit (List.range n) s).result with f | before
      · rw [each_snoc_of_error n others, others] at gave
        cases gave
      obtain ⟨length, results, calls⟩ := ih others
      rw [each_snoc_of_ok n others] at gave ⊢
      obtain ⟨a, last, rfl⟩ := map_eq_ok gave
      refine ⟨by simp [length], fun i inside => ?_, ?_⟩
      · by_cases earlier : i < before.length
        · rw [List.getElem_append_left earlier]
          exact results i earlier
        · -- The last number; its visit begins where all the others have ended.
          have same : i = n := by
            rw [List.length_append, List.length_singleton] at inside
            omega
          subst same
          rw [List.getElem_append_right (Nat.le_of_not_lt earlier)]
          simpa [passed] using last
      · show callsOf (_ ++ _) = _
        rw [callsOf_append, List.flatMap_append, ← calls, List.flatMap_singleton]
        rfl

/-- So are visits that end in a fault, up to the first of the single ones that does. -/
theorem Breaks.stretch {n : Nat} {f : Fault} (breaks : Breaks visit s (List.range n) found f) :
    Stretch (fun i => (visit i (passed visit s i)).result) n found (some f) ∧
      (each visit (List.range n) s).result = .error f ∧
      (each visit (List.range n) s).calls =
        (List.range (found.length + 1)).flatMap fun i => (visit i (passed visit s i)).calls := by
  obtain ⟨b, behind, split, results, failed, ended, calls⟩ := breaks.ends
  have length : (List.range n).take found.length = List.range (min found.length n) :=
    List.take_range
  have short : found.length < n := by
    have total := congrArg List.length split
    rw [length] at total
    simp at total
    omega
  rw [Nat.min_eq_left (Nat.le_of_lt short)] at length
  rw [length] at split results failed calls
  -- The numbers of the range are their own places, so the one at the break is known.
  have same : b = found.length := by
    have there := congrArg (·[found.length]?) split
    simpa [short] using there.symm
  subst same
  obtain ⟨_, each, before⟩ := each_range_of_ok results
  refine ⟨⟨each, nofun, ?_⟩, ended, ?_⟩
  · intro g same
    cases same
    exact ⟨short, failed⟩
  · rw [calls, before, List.range_succ, List.flatMap_append, List.flatMap_singleton]
    rfl

end Run

/-! ## Backends that looking up has no effect on -/

/-- A backend that is left as it is when devices are counted or looked up. -/
structure Backend.Still (b : Backend σ) : Prop where
  deviceCount : ∀ x, (b.answer .deviceCount x).state = x
  handleAt : ∀ index x, (b.answer (.handleAt index) x).state = x
  nameOf : ∀ native x, (b.answer (.nameOf native) x).state = x

theorem Simulated.still_backend (id : BackendId) : (Simulated.backend id).Still where
  deviceCount := state_answer_of_other nofun
  handleAt _ := state_answer_of_other nofun
  nameOf _ := state_answer_of_other nofun

theorem Nvml.still_backend (id : BackendId) : (Nvml.backend id).Still where
  deviceCount _ := rfl
  handleAt _ _ := rfl
  nameOf _ _ := rfl

namespace Session

variable {h : Session σ} {s : Sessions σ} {count : Int}

/-! ## With and without a count -/

/-- Counting the devices gives a number and has no effect. -/
structure CountsTo (h : Session σ) (count : Int) (s : Sessions σ) : Prop where
  result : (h.backend.answer .deviceCount s.backends).result = .ok count
  state : (h.backend.answer .deviceCount s.backends).state = s.backends

theorem CountsTo.asked (counts : h.CountsTo count s) : h.backend.asked .deviceCount s = s := by
  unfold Backend.asked
  rw [counts.state]

/-- Looking up an index with a known number of devices is looking it up without the request for
this number: nothing but the handle at the index and the name behind it is asked for. -/
structure Precounted (h : Session σ) (s : Sessions σ) (count index : Int) : Prop where
  result : (h.resolve index (some count) s).result = (h.resolve index none s).result
  state : (h.resolve index (some count) s).state = (h.resolve index none s).state
  calls : (h.resolve index none s).calls =
    h.call .deviceCount true :: (h.resolve index (some count) s).calls
  queries : ∀ c ∈ (h.resolve index (some count) s).calls, c.request = .handleAt index ∨
    ∃ native, (h.backend.answer (.handleAt index) s.backends).result = .ok native ∧
      c.request = .nameOf native

theorem precounted (isOpen : s.phase h.id = .opened) (counts : h.CountsTo count s) (index : Int) :
    h.Precounted s count index := by
  obtain ⟨result, state, calls⟩ := resolve_of_counted isOpen counts.result index
  rw [counts.asked] at result state calls
  refine ⟨?_, ?_, ?_, ?_⟩
  all_goals rw [resolve_of_given]
  · exact result.symm
  · exact state.symm
  · exact calls
  · exact calls_resolveBelow

/-! ## All devices -/

/-- Visiting all indices is visiting them as natural numbers. -/
theorem visit_below (visit : Int → Run σ α) (count : Int) :
    (Indices.below count).visit visit =
      Run.each (fun i : Nat => visit i) (List.range count.toNat) := by
  have listed : (Indices.below count).toList = (List.range count.toNat).map Int.ofNat :=
    Indices.toList_orBelow none count
  rw [Indices.visit_eq_each, listed]
  exact Run.each_map ..

/-- The state in which an index is looked up, behind all smaller ones or the first fault. -/
def passed (h : Session σ) (count : Int) (s : Sessions σ) : Nat → Sessions σ :=
  Run.passed (fun i : Nat => h.resolve i (some count)) s

/-- Looking up a device opens and closes no session. -/
theorem phase_resolveBelow (count index : Int) (t : Sessions σ) :
    (h.resolveBelow count index t).state.phase = t.phase := by
  by_cases isOpen : t.phase h.id = .opened
  · cases h.resolving isOpen count index with
    | outOfRange outside same => rw [same]
    | noHandle refusal inside reply result state calls => rw [state]; rfl
    | noName native refusal inside handle reply result state calls => rw [state]; rfl
    | named native name inside handle reply unfit fit state calls => rw [state]; rfl
  · obtain ⟨fault, same⟩ := resolveBelow_of_not_opened isOpen count index
    rw [same]

theorem phase_passed (n : Nat) : (h.passed count s n).phase = s.phase := by
  refine Run.holds_of_passed (P := fun t : Sessions σ => t.phase = s.phase) rfl
    (fun i t same => ?_) n
  rw [resolve_of_given, phase_resolveBelow, same]

/-- If looking up has no effect, every index is looked up in the same state. -/
theorem passed_of_still (still : h.backend.Still) (isOpen : s.phase h.id = .opened) (n : Nat) :
    h.passed count s n = s := by
  have untouched : ∀ request : Request, (h.backend.answer request s.backends).state = s.backends →
      h.backend.asked request s = s := by
    intro request same
    unfold Backend.asked
    rw [same]
  refine Run.holds_of_passed (P := fun t => t = s) rfl (fun i t same => ?_) n
  subst same
  rw [resolve_of_given]
  have handle := untouched (.handleAt i) (still.handleAt i t.backends)
  cases h.resolving isOpen count i with
  | outOfRange outside same => rw [same]
  | noHandle refusal inside reply result state calls => rw [state, handle]
  | noName native refusal inside handle' reply result state calls
  | named native name inside handle' reply unfit fit state calls =>
      rw [state, handle, untouched _ (still.nameOf native t.backends)]

/-- Then one count is as good as many. -/
theorem steady_of_still (still : h.backend.Still) (isOpen : s.phase h.id = .opened)
    (counted : (h.backend.answer .deviceCount s.backends).result = .ok count) (n : Nat) :
    h.CountsTo count (h.passed count s n) := by
  rw [passed_of_still still isOpen]
  exact ⟨counted, still.deviceCount s.backends⟩

/-- Looking up all devices in one go, for what single look-ups give: it ends as they do, and behind
the one request for the number of devices it makes their calls, up to the first index at which one
of them ends in a fault. -/
structure Bulk (h : Session σ) (s : Sessions σ) (count : Int) (found : List Device)
    (stop? : Option Fault) : Prop where
  single : Stretch (fun i : Nat => (h.resolve i none (h.passed count s i)).result) count.toNat
    found stop?
  result : (h.resolveAll s).result = inOne found stop?
  calls : (h.resolveAll s).calls = h.call .deviceCount true ::
    (List.range (min (found.length + 1) count.toNat)).flatMap fun i : Nat =>
      (h.resolve i (some count) (h.passed count s i)).calls

section Bulk

variable {found : List Device} (isOpen : s.phase h.id = .opened)
  (steady : ∀ n, h.CountsTo count (h.passed count s n))

include isOpen steady

/-- Behind the count, looking up all devices is a row of visits. -/
theorem resolveAll_of_steady :
    (h.resolveAll s).result =
        (Run.each (fun i : Nat => h.resolve i (some count)) (List.range count.toNat) s).result ∧
      (h.resolveAll s).calls = h.call .deviceCount true ::
        (Run.each (fun i : Nat => h.resolve i (some count)) (List.range count.toNat) s).calls := by
  have counts : h.CountsTo count s := steady 0
  obtain ⟨result, state, calls⟩ := countDevices_of_opened isOpen
  have given : (h.countDevices s).result = .ok count := by
    rw [result, counts.result]
    rfl
  rw [counts.result] at calls
  -- Counting has no effect, so the visits begin in the state before it.
  rw [counts.asked] at state
  unfold resolveAll
  simp only [resolve_of_given]
  rw [Run.calls_bind_of_ok _ given, Run.bind_of_ok _ given, state, calls, visit_below]
  exact ⟨rfl, rfl⟩

theorem same_single (i : Nat) : (h.resolve i none (h.passed count s i)).result =
    (h.resolve i (some count) (h.passed count s i)).result := by
  have stillOpen : (h.passed count s i).phase h.id = .opened := by
    rw [phase_passed]
    exact isOpen
  exact (precounted stillOpen (steady i) i).result.symm

theorem bulk_of_ok (gave : (Run.each (fun i : Nat => h.resolve i (some count))
    (List.range count.toNat) s).result = .ok found) : h.Bulk s count found none := by
  obtain ⟨result, calls⟩ := resolveAll_of_steady isOpen steady
  obtain ⟨length, each, visits⟩ := Run.each_range_of_ok gave
  refine ⟨⟨fun i inside => ?_, fun _ => length, nofun⟩, result.trans gave, ?_⟩
  · rw [same_single isOpen steady]
    exact each i inside
  · have all : count.toNat ≤ found.length + 1 := by omega
    rw [calls, visits, Nat.min_eq_right all]
    rfl

theorem bulk_of_breaks {f : Fault} (breaks : Run.Breaks
    (fun i : Nat => h.resolve i (some count)) s (List.range count.toNat) found f) :
    h.Bulk s count found (some f) := by
  obtain ⟨result, calls⟩ := resolveAll_of_steady isOpen steady
  obtain ⟨stretch, failed, visits⟩ := breaks.stretch
  have short := (stretch.stopped f rfl).1
  refine ⟨stretch.congr (same_single isOpen steady), result.trans failed, ?_⟩
  rw [calls, visits, Nat.min_eq_left short]
  rfl

end Bulk

end Session

end GpuTelemetry
