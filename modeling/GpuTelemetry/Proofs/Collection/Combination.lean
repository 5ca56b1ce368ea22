import GpuTelemetry.Proofs.Collection.Apart
import GpuTelemetry.Proofs.Results

/-!
# Collections put together

Visits that leave each other's starting points alone may be made one after the other or each from
the start, and give the same (`Run.result_each_of_apart`). So if a backend keeps its devices apart,
a collection of all devices is put together from the collections of the single devices, all made
from the same state: `Backend.Apart.combines`.
-/

namespace GpuTelemetry

variable {σ α β : Type}

/-! ## Visits apart from each other -/

namespace Run

theorem result_each_singleton (visit : α → Run σ β) (a : α) (s : σ) :
    (each visit [a] s).result = (visit a s).result.map ([·]) := by
  cases gave : (visit a s).result with
  | error f => rw [each_cons_of_error [] gave]; rfl
  | ok b => rw [each_cons_of_ok [] gave]; rfl

/-- Visits give what they would give alone, if each of them leaves the others ready: `ready a` are
the states from which the visit of `a` gives its result. -/
theorem result_each_of_apart {visit : α → Run σ β} {alone : α → Except Fault β}
    (ready : α → σ → Prop) (gives : ∀ a s, ready a s → (visit a s).result = alone a)
    (keeps : ∀ a b s, a ≠ b → ready a s → ready b s → ready a (visit b s).state) {items : List α}
    (distinct : items.Nodup) {s : σ} (start : ∀ a ∈ items, ready a s) :
    (each visit items s).result = items.mapM alone := by
  induction items generalizing s with
  | nil => rfl
  | cons a rest ih =>
      obtain ⟨new, others⟩ := List.nodup_cons.mp distinct
      have first := gives a s (start a List.mem_cons_self)
      rw [List.mapM_cons]
      cases gave : alone a with
      | error f => rw [each_cons_of_error rest (first.trans gave)]; rfl
      | ok b =>
          rw [each_cons_of_ok rest (first.trans gave)]
          -- The first visit has left the states ready for all other items, none of which is the
          -- first one.
          have later : (each visit rest (visit a s).state).result = rest.mapM alone := by
            refine ih others fun other member => ?_
            refine keeps other a s ?_ (start other (List.mem_cons_of_mem a member))
              (start a List.mem_cons_self)
            rintro rfl
            exact new member
          show (each visit rest (visit a s).state).result.map (b :: ·) = _
          rw [later]
          cases rest.mapM alone <;> rfl

end Run

/-! ## Collections apart from each other -/

/-- The number of devices, counted in a session of its own. -/
def Session.counted (b : Backend σ) (s : Sessions σ) : Except Fault Int :=
  (within b countDevices s).result

/-- Collections from a state, of which the one of all devices is put together from those of the
single devices. -/
structure Combines (b : Backend σ) (metric : Metric) (window? : Option Window) (advance : Bool)
    (s : Sessions σ) : Prop where
  /-- A session that cannot be opened, or devices that cannot be counted, end every collection. -/
  uncounted : ∀ f, Session.counted b s = .error f → ∀ index?,
    (collect b metric index? window? advance s).result = .error f
  single : ∀ index reports,
    (collect b metric (some index) window? advance s).result = .ok reports →
      ∃ report, reports = [report]
  all : ∀ count (report : Nat → Report), Session.counted b s = .ok count →
    (∀ i : Nat, i < count →
      (collect b metric (some i) window? advance s).result = .ok [report i]) →
    (collect b metric none window? advance s).result = .ok ((List.range count.toNat).map report)
  /-- The first device that cannot be collected decides. -/
  first : ∀ count (j : Nat) f, Session.counted b s = .ok count → j < count →
    (∀ i < j, ∃ reports, (collect b metric (some i) window? advance s).result = .ok reports) →
    (collect b metric (some j) window? advance s).result = .error f →
    (collect b metric none window? advance s).result = .error f

namespace Session

variable {b : Backend σ} {s : Sessions σ}
  (declines : ∀ x refusal, (b.answer .shutdown x).result = .error refusal →
    ∃ reason, refusal = .declined reason)
  (metric : Metric) (window? : Option Window) (advance : Bool)

include declines

theorem result_collect_of_uncounted {f : Fault} (failed : counted b s = .error f)
    (index? : Option Int) : (collect b metric index? window? advance s).result = .error f := by
  unfold counted at failed
  rw [collect_eq_within]
  cases opened : (launched b s).result with
  | error g =>
      rw [within_of_error _ opened] at failed ⊢
      cases failed
      rfl
  | ok _ =>
      rw [result_within _ declines opened] at failed ⊢
      unfold gather
      rw [Run.bind_of_error _ failed]

/-- Once the devices are counted, a collection visits the selected ones, whichever they are, from
the same state of the open session. -/
theorem result_collect_of_counted {count : Int} (known : counted b s = .ok count) :
    ∃ t, t.phase (upcoming b s).id = .opened ∧ ∀ index?,
      (collect b metric index? window? advance s).result =
        (Run.each ((upcoming b s).report ⟨upcoming b s, window?.getD .single, advance⟩ metric count)
          (selected index? count) t).result := by
  unfold counted at known
  cases opened : (launched b s).result with
  | error f =>
      rw [within_of_error _ opened] at known
      cases known
  | ok _ =>
      rw [result_within _ declines opened] at known
      refine ⟨((upcoming b s).countDevices (launched b s).state).state, ?_, fun index? => ?_⟩
      · -- The session is still open behind the count, whatever the backend answered.
        have counting : (upcoming b s).countDevices.Obeys
            (.opened (upcoming b s) (fun _ => True) fun _ => True) fun _ => True :=
          obeys_countDevices (fun _ => trivial) <| asks_opened (fun _ _ => trivial)
            (fun _ _ => trivial) (fun _ _ _ _ => trivial) fun _ _ _ _ => .inr trivial
        exact (counting _ ⟨(opened_of_launched opened).1, trivial⟩).kept.1
      · rw [collect_eq_within, result_within _ declines opened]
        unfold gather
        rw [Run.bind_of_ok _ known, Run.bind_of_silent _ (Run.pure_apply ..),
          Indices.visit_eq_each, Indices.toList_orBelow]

end Session

namespace Backend.Apart

variable {b : Backend σ} {alike : Nat → σ → σ → Prop} {issued : Nat → Native → Prop}
  {close : Int → Int → Prop} (apart : b.Apart alike issued close)

include apart

/-- Visits of different places give what each of them would give from the start. -/
theorem result_visits {h : Session σ} (same : h.backend = b) (window : Window) (advance : Bool)
    (metric : Metric) (count : Int) {places : List Nat} (distinct : places.Nodup) {t : Sessions σ}
    (isOpen : t.phase h.id = .opened) :
    (Run.each (h.report ⟨h, window, advance⟩ metric count) (places.map Int.ofNat) t).result =
      places.mapM fun place : Nat =>
        (h.report ⟨h, window, advance⟩ metric count place t).result := by
  subst same
  rw [Run.each_map]
  -- A place is ready as long as its share is the one from the start.
  refine Run.result_each_of_apart (fun place => h.BothOpen (alike place) t) ?_ ?_ distinct ?_
  · intro place s ready
    exact (apart.agree_report count t s ready).result.eq.symm
  · intro place other s different ready _
    exact apart.bothOpen_of_other different count ready
  · intro place _
    exact ⟨isOpen, isOpen, (apart.equivalence place).refl _⟩

variable (metric : Metric) (window? : Option Window) (advance : Bool) (s : Sessions σ)

/-- Once the devices are counted, each of them has a result of its own, with which its collection
and that of all devices are made. -/
theorem exists_alone {count : Int} (known : Session.counted b s = .ok count) :
    ∃ alone : Int → Except Fault Report,
      (∀ index, (collect b metric (some index) window? advance s).result =
        (alone index).map ([·])) ∧
      (collect b metric none window? advance s).result =
        (List.range count.toNat).mapM fun place : Nat => alone place := by
  obtain ⟨t, isOpen, visits⟩ :=
    Session.result_collect_of_counted apart.farewell metric window? advance known
  let h := Session.upcoming b s
  let visit := h.report ⟨h, window?.getD .single, advance⟩ metric count
  refine ⟨fun index => (visit index t).result, fun index => ?_, ?_⟩
  · rw [visits (some index)]
    exact Run.result_each_singleton visit index t
  · rw [visits none]
    exact apart.result_visits rfl _ advance metric count List.nodup_range isOpen

/-- If a backend keeps its devices apart, collections of all devices are put together from those of
single ones. -/
theorem combines : Combines b metric window? advance s where
  uncounted _ failed index? :=
    Session.result_collect_of_uncounted apart.farewell metric window? advance failed index?
  single index reports given := by
    cases known : Session.counted b s with
    | error f =>
        rw [Session.result_collect_of_uncounted apart.farewell metric window? advance known]
          at given
        cases given
    | ok count =>
        obtain ⟨alone, single, _⟩ := apart.exists_alone metric window? advance s known
        obtain ⟨report, _, same⟩ := map_eq_ok ((single index).symm.trans given)
        exact ⟨report, same⟩
  all count report known given := by
    obtain ⟨alone, single, together⟩ := apart.exists_alone metric window? advance s known
    rw [together]
    refine mapM_of_ok fun place member => ?_
    have inside := List.mem_range.mp member
    obtain ⟨own, gave, same⟩ := map_eq_ok ((single place).symm.trans (given place (by omega)))
    cases same
    exact gave
  first count j f known inside given failed := by
    obtain ⟨alone, single, together⟩ := apart.exists_alone metric window? advance s known
    -- The places below the count are those before the one that fails, that one and some behind.
    obtain ⟨left, split⟩ : ∃ left, count.toNat = j + (left + 1) := ⟨count.toNat - j - 1, by omega⟩
    rw [together, split, List.range_add, List.range_succ_eq_map, List.map_cons]
    refine mapM_of_error ?_ (map_eq_error ((single j).symm.trans failed))
    intro i member
    obtain ⟨reports, gave⟩ := given i (List.mem_range.mp member)
    obtain ⟨report, own, _⟩ := map_eq_ok ((single i).symm.trans gave)
    exact ⟨report, own⟩

end Backend.Apart

end GpuTelemetry
