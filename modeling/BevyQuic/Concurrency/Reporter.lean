import BevyQuic.Concurrency.Channel
import BevyQuic.Concurrency.Machine

/-! A party that reports its failures to a bounded channel, and never waits for room there. -/

namespace Concurrency

/-- A send whose refusal is not looked at. -/
def Mpsc.offer {α : Type*} {n : ℕ} (c : Mpsc α n) (a : α) : Mpsc α n :=
  match c.trySend a with
  | .ok c' => c'
  | .error _ => c

structure Report (ε : Type*) where
  error : ε
  found : ℕ
  listening : Bool
  deriving DecidableEq

def Report.heard {ε : Type*} (n : ℕ) (r : Report ε) : Bool := r.listening && decide (r.found < n)

def heardErrors {ε : Type*} (n : ℕ) (reports : List (Report ε)) : List ε :=
  (reports.filter (Report.heard n)).map Report.error

theorem heardErrors_append {ε : Type*} {n : ℕ} (reports reports' : List (Report ε)) :
    heardErrors n (reports ++ reports') = heardErrors n reports ++ heardErrors n reports' := by
  simp [heardErrors]

theorem Mpsc.offer_accepted {α : Type*} {n : ℕ} (c : Mpsc α n) (a : α) :
    (c.offer a).accepted =
      c.accepted ++ heardErrors n [⟨a, c.queue.length, c.receiverAlive⟩] := by
  unfold Mpsc.offer
  cases hsend : c.trySend a with
  | ok c' =>
    have hsent := trySend_ok hsend
    simp [heardErrors, Report.heard, hsent.receiverAlive, hsent.room, hsent.accepted]
  | error e =>
    rcases trySend_error hsend with ⟨-, hfull, -⟩ | ⟨hdead, -⟩
    · simp [heardErrors, Report.heard, hfull]
    · simp [heardErrors, Report.heard, hdead]

section Listener
variable {α : Type*} {n : ℕ} (c : Mpsc α n)

theorem Mpsc.offer_receiverAlive (a : α) : (c.offer a).receiverAlive = c.receiverAlive := by
  unfold Mpsc.offer
  cases hsend : c.trySend a with
  | ok c' => exact (trySend_ok hsend).receiverAlive'
  | error e => rfl

theorem Mpsc.tryRecv_accepted : c.tryRecv.2.accepted = c.accepted := by
  unfold Mpsc.tryRecv
  cases c.queue <;> rfl

theorem Mpsc.tryRecv_receiverAlive : c.tryRecv.2.receiverAlive = c.receiverAlive := by
  unfold Mpsc.tryRecv
  cases c.queue <;> rfl

theorem Mpsc.tryRecv_of_waiting {c : Mpsc α n} (h : c.queue ≠ []) : c.tryRecv.2 = c.take 1 := by
  unfold Mpsc.tryRecv
  cases hq : c.queue with
  | nil => exact absurd hq h
  | cons a queue => rfl

end Listener

/-- A party and its channel: what the label of a step tells of a failure, and the step of the
listener that takes a report. -/
structure Reporter (σ ℓ ε : Type*) (n : ℕ) where
  machine : Machine σ ℓ
  errors : σ → Mpsc ε n
  failed : ℓ → Option ε
  ready : σ → Prop
  log : ℓ

namespace Reporter
variable {σ ℓ ε : Type*} {n : ℕ} {r : Reporter σ ℓ ε n} {s s' : σ}

def report (r : Reporter σ ℓ ε n) (s : σ) (l : ℓ) : List (Report ε) :=
  (r.failed l).toList.map fun error =>
    ⟨error, (r.errors s).queue.length, (r.errors s).receiverAlive⟩

def recorded (r : Reporter σ ℓ ε n) : Machine (σ × List (Report ε)) ℓ where
  init := (r.machine.init, [])
  step s l := (r.machine.step s.1 l).map fun t => (t, s.2 ++ r.report s.1 l)

structure Lawful (r : Reporter σ ℓ ε n) : Prop where
  init : (r.errors r.machine.init).accepted = []
  failed : ∀ s l s' error, r.machine.step s l = some s' → r.failed l = some error →
    r.errors s' = (r.errors s).offer error
  quiet : ∀ s l s', r.machine.step s l = some s' → r.failed l = none →
    (r.errors s').accepted = (r.errors s).accepted
  listening : ∀ s, r.machine.Reachable s → r.ready s → (r.errors s).receiverAlive = true
  log : ∀ s, r.ready s → (r.errors s).queue ≠ [] →
    ∃ s', r.machine.step s r.log = some s' ∧ r.ready s' ∧ r.errors s' = (r.errors s).take 1

/-- What the listener learns: every error that found room, once and in order. -/
structure Reported (r : Reporter σ ℓ ε n) (s : σ) (reports : List (Report ε)) : Prop where
  accepted : (r.errors s).accepted = heardErrors n reports
  /-- The listener takes all that wait, and has then taken all there were. -/
  logged : r.ready s → ∃ s',
    r.machine.run s (List.replicate (r.errors s).queue.length r.log) = some s' ∧ r.ready s' ∧
      (r.errors s').queue = [] ∧ (r.errors s').taken = heardErrors n reports

theorem Lawful.accepted (h : r.Lawful) {s : σ × List (Report ε)} (hs : r.recorded.Reachable s) :
    r.machine.Reachable s.1 ∧ (r.errors s.1).accepted = heardErrors n s.2 := by
  induction hs with
  | init => exact ⟨.init, h.init⟩
  | @step s s' l _ hl ih =>
    obtain ⟨hs, haccepted⟩ := ih
    obtain ⟨t, ht, rfl⟩ := Option.map_eq_some_iff.mp hl
    refine ⟨hs.step ht, ?_⟩
    rw [heardErrors_append, ← haccepted]
    cases hfailed : r.failed l with
    | none =>
      rw [h.quiet s.1 l t ht hfailed]
      simp [report, hfailed, heardErrors]
    | some error =>
      rw [h.failed s.1 l t error ht hfailed, Mpsc.offer_accepted]
      simp [report, hfailed]

/-- By induction on how many reports wait: each pass takes the first of them. -/
theorem Lawful.run_log (h : r.Lawful) (hs : r.ready s) :
    ∃ s', r.machine.run s (List.replicate (r.errors s).queue.length r.log) = some s' ∧
      r.ready s' ∧ (r.errors s').queue = [] ∧
      (r.errors s').taken = (r.errors s).taken ++ (r.errors s).queue := by
  induction hq : (r.errors s).queue generalizing s with
  | nil => exact ⟨s, rfl, hs, hq, by simp⟩
  | cons error queue ih =>
    obtain ⟨t, ht, hready, herrors⟩ := h.log s hs (by simp [hq])
    have hqueue : (r.errors t).queue = queue := by simp [herrors, hq]
    obtain ⟨s', hrun, hready', hempty, htaken⟩ := ih hready hqueue
    refine ⟨s', ?_, hready', hempty, ?_⟩
    · exact Option.bind_eq_some_iff.mpr ⟨t, ht, hrun⟩
    · rw [htaken, herrors]
      simp [hq]

theorem Lawful.reported (h : r.Lawful) {s : σ × List (Report ε)} (hs : r.recorded.Reachable s) :
    r.Reported s.1 s.2 := by
  obtain ⟨hreachable, haccepted⟩ := h.accepted hs
  refine ⟨haccepted, fun hready => ?_⟩
  obtain ⟨s', hrun, hready', hempty, htaken⟩ := h.run_log hready
  have hall := Mpsc.accepted_of_receiverAlive (h.listening s.1 hreachable hready)
  exact ⟨s', hrun, hready', hempty, by rw [htaken, ← hall, haccepted]⟩

end Reporter
end Concurrency
