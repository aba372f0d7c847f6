import Mathlib.Data.Nat.Notation
import Mathlib.Logic.Basic

/-! Labelled machines with an executable step: reachable states and their invariants, schedules
cut down by a guard, simulations, and what one party reaches by its own steps alone. -/

namespace Concurrency

/-- A machine: an initial state and a partial step, enabled at a label when it answers. -/
structure Machine (σ ℓ : Type*) where
  init : σ
  step : σ → ℓ → Option σ

namespace Machine
variable {σ ℓ τ κ : Type*}

inductive Reachable (m : Machine σ ℓ) : σ → Prop
  | init : Reachable m m.init
  | step {s s' : σ} {l : ℓ} : Reachable m s → m.step s l = some s' → Reachable m s'

def run (m : Machine σ ℓ) : σ → List ℓ → Option σ
  | s, [] => some s
  | s, l :: ls => (m.step s l).bind fun s' => run m s' ls

theorem run_append (m : Machine σ ℓ) (s : σ) (ls ls' : List ℓ) :
    m.run s (ls ++ ls') = (m.run s ls).bind fun t => m.run t ls' := by
  induction ls generalizing s with
  | nil => rfl
  | cons l ls ih =>
    rw [List.cons_append, run, run, Option.bind_assoc]
    congr 1
    funext t
    exact ih t

theorem Reachable.of_run {m : Machine σ ℓ} {s s' : σ} {ls : List ℓ} (h : m.Reachable s)
    (hrun : m.run s ls = some s') : m.Reachable s' := by
  induction ls generalizing s with
  | nil => exact Option.some.inj hrun ▸ h
  | cons l ls ih =>
    obtain ⟨t, ht, hts⟩ := Option.bind_eq_some_iff.mp hrun
    exact ih (h.step ht) hts

def after (m : Machine σ ℓ) (ls : List ℓ) : σ := (m.run m.init ls).getD m.init

theorem reachable_after (m : Machine σ ℓ) (ls : List ℓ) : m.Reachable (m.after ls) := by
  unfold after
  cases h : m.run m.init ls with
  | none => exact .init
  | some s => exact Reachable.init.of_run h

theorem run_after (m : Machine σ ℓ) {ls ls' : List ℓ}
    (h : (m.run m.init (ls ++ ls')).isSome = true) :
    m.run (m.after ls) ls' = some (m.after (ls ++ ls')) := by
  obtain ⟨t, ht⟩ := Option.isSome_iff_exists.mp h
  rw [after, after, ht]
  rw [run_append] at ht
  obtain ⟨s, hs, hst⟩ := Option.bind_eq_some_iff.mp ht
  rw [hs]
  exact hst

theorem Reachable.invariant {m : Machine σ ℓ} {P : σ → Prop} (h0 : P m.init)
    (hstep : ∀ s l s', m.Reachable s → P s → m.step s l = some s' → P s') {s : σ}
    (h : m.Reachable s) : P s := by
  induction h with
  | init => exact h0
  | step hs hl ih => exact hstep _ _ _ hs ih hl

theorem Reachable.keeps {m : Machine σ ℓ} {P : σ → Prop}
    (hstep : ∀ s l s', m.Reachable s → P s → m.step s l = some s' → P s') {s s' : σ} {ls : List ℓ}
    (h : m.Reachable s) (hs : P s) (hrun : m.run s ls = some s') : P s' := by
  induction ls generalizing s with
  | nil => exact Option.some.inj hrun ▸ hs
  | cons l ls ih =>
    obtain ⟨t, ht, hts⟩ := Option.bind_eq_some_iff.mp hrun
    exact ih (h.step ht) (hstep s l t h hs ht) hts

/-- A run that takes the step `l` leads from `P` to `Q`, where that step does and `Q` lasts. -/
theorem Reachable.passes {m : Machine σ ℓ} {P Q : σ → Prop} {l : ℓ}
    (keeps : ∀ s k s', m.Reachable s → P s → m.step s k = some s' → P s' ∧ (k = l → Q s'))
    (stays : ∀ s k s', m.Reachable s → Q s → m.step s k = some s' → Q s') {s s' : σ} {ls : List ℓ}
    (h : m.Reachable s) (hs : P s) (hrun : m.run s ls = some s') (hl : l ∈ ls) : Q s' := by
  induction ls generalizing s with
  | nil => cases hl
  | cons k ls ih =>
    obtain ⟨t, ht, hrest⟩ := Option.bind_eq_some_iff.mp hrun
    obtain ⟨hkept, hpassed⟩ := keeps s k t h hs ht
    rcases List.mem_cons.mp hl with hk | hmem
    · have hQ : Q t := hpassed hk.symm
      exact (h.step ht).keeps stays hQ hrest
    · exact ih (h.step ht) hkept hrest hmem

/-! ## Runs, state by state and step by step -/

def Always (m : Machine σ ℓ) (P : σ → Prop) : σ → List ℓ → Prop
  | s, [] => P s
  | s, l :: ls => P s ∧ ∀ s' ∈ m.step s l, Always m P s' ls

def Along (m : Machine σ ℓ) (ok : σ → ℓ → Prop) : σ → List ℓ → Prop
  | _, [] => True
  | s, l :: ls => ok s l ∧ ∀ s' ∈ m.step s l, Along m ok s' ls

theorem Always.head {m : Machine σ ℓ} {P : σ → Prop} {s : σ} {ls : List ℓ}
    (h : m.Always P s ls) : P s := by
  cases ls with
  | nil => exact h
  | cons l ls => exact h.1

theorem Always.mono {m : Machine σ ℓ} {P Q : σ → Prop} (hPQ : ∀ s, P s → Q s) {s : σ}
    {ls : List ℓ} (h : m.Always P s ls) : m.Always Q s ls := by
  induction ls generalizing s with
  | nil => exact hPQ s h
  | cons l ls ih => exact ⟨hPQ s h.1, fun s' hl => ih (h.2 s' hl)⟩

theorem Always.last {m : Machine σ ℓ} {P : σ → Prop} {s t : σ} {ls : List ℓ}
    (hrun : m.run s ls = some t) (h : m.Always P s ls) : P t := by
  induction ls generalizing s with
  | nil => exact Option.some.inj hrun ▸ h
  | cons l ls ih =>
    obtain ⟨u, hu, hut⟩ := Option.bind_eq_some_iff.mp hrun
    exact ih hut (h.2 u hu)

theorem Reachable.always {m : Machine σ ℓ} {P : σ → Prop} {ok : σ → ℓ → Prop}
    (keeps : ∀ s l s', m.Reachable s → P s → ok s l → m.step s l = some s' → P s') {s : σ}
    {ls : List ℓ} (h : m.Reachable s) (hs : P s) (hok : m.Along ok s ls) : m.Always P s ls := by
  induction ls generalizing s with
  | nil => exact hs
  | cons l ls ih =>
    refine ⟨hs, ?_⟩
    intro s' hl
    exact ih (h.step hl) (keeps s l s' h hs hok.1 hl) (hok.2 s' hl)

theorem Reachable.along {m : Machine σ ℓ} {P : σ → Prop} {ok : σ → ℓ → Prop}
    (breaks : ∀ s l s', m.Reachable s → P s → ¬ ok s l → m.step s l = some s' → ¬ P s') {s t : σ}
    {ls : List ℓ} (h : m.Reachable s) (hrun : m.run s ls = some t) (hP : m.Always P s ls) :
    m.Along ok s ls := by
  induction ls generalizing s with
  | nil => trivial
  | cons l ls ih =>
    obtain ⟨u, hu, hut⟩ := Option.bind_eq_some_iff.mp hrun
    refine ⟨?_, ?_⟩
    · apply Classical.byContradiction
      intro hok
      exact breaks s l u h hP.1 hok hu (hP.2 u hu).head
    · intro s' hl
      obtain rfl : s' = u := Option.some.inj (hl.symm.trans hu)
      exact ih (h.step hu) hut (hP.2 s' hu)

theorem always_iff_along {m : Machine σ ℓ} {P : σ → Prop} {ok : σ → ℓ → Prop} (h0 : P m.init)
    (keeps : ∀ s l s', m.Reachable s → P s → ok s l → m.step s l = some s' → P s')
    (breaks : ∀ s l s', m.Reachable s → P s → ¬ ok s l → m.step s l = some s' → ¬ P s') {t : σ}
    {ls : List ℓ} (hrun : m.run m.init ls = some t) :
    m.Always P m.init ls ↔ m.Along ok m.init ls :=
  ⟨fun hP => Reachable.init.along breaks hrun hP, fun hok => Reachable.init.always keeps h0 hok⟩

/-- A step that is not `ok` dooms the run, and what is doomed stays so: a run that is spared at its
end has gone along `ok`. -/
theorem Reachable.along_of_spared {m : Machine σ ℓ} {P D : σ → Prop} {ok : σ → ℓ → Prop}
    (keeps : ∀ s l s', m.Reachable s → P s → ok s l → m.step s l = some s' → P s')
    (breaks : ∀ s l s', m.Reachable s → P s → ¬ ok s l → m.step s l = some s' → D s')
    (stays : ∀ s l s', m.Reachable s → D s → m.step s l = some s' → D s') {s t : σ}
    {ls : List ℓ} (h : m.Reachable s) (hs : P s) (hrun : m.run s ls = some t)
    (hspared : ¬ D t) : m.Along ok s ls := by
  induction ls generalizing s with
  | nil => trivial
  | cons l ls ih =>
    obtain ⟨u, hu, hut⟩ := Option.bind_eq_some_iff.mp hrun
    have hok : ok s l := by
      apply Classical.byContradiction
      intro hnot
      have hdoomed : D u := breaks s l u h hs hnot hu
      exact hspared ((h.step hu).keeps stays hdoomed hut)
    refine ⟨hok, ?_⟩
    intro s' hl
    obtain rfl : s' = u := Option.some.inj (hl.symm.trans hu)
    exact ih (h.step hu) (keeps s l s' h hs hok hu) hut

theorem Reachable.along_congr {m : Machine σ ℓ} {ok ok' : σ → ℓ → Prop}
    (agree : ∀ s l s', m.Reachable s → m.step s l = some s' → (ok s l ↔ ok' s l)) {s t : σ}
    {ls : List ℓ} (h : m.Reachable s) (hrun : m.run s ls = some t) :
    m.Along ok s ls ↔ m.Along ok' s ls := by
  induction ls generalizing s with
  | nil => exact Iff.rfl
  | cons l ls ih =>
    obtain ⟨u, hu, hut⟩ := Option.bind_eq_some_iff.mp hrun
    refine and_congr (agree s l u h hu) (forall₂_congr fun s' hl => ?_)
    obtain rfl : s' = u := Option.some.inj (hl.symm.trans hu)
    exact ih (h.step hu) hut

theorem Along.mono {m : Machine σ ℓ} {ok ok' : σ → ℓ → Prop} (himp : ∀ s l, ok s l → ok' s l)
    {s : σ} {ls : List ℓ} (h : m.Along ok s ls) : m.Along ok' s ls := by
  induction ls generalizing s with
  | nil => trivial
  | cons l ls ih => exact ⟨himp s l h.1, fun s' hl => ih (h.2 s' hl)⟩

theorem Along.at {m : Machine σ ℓ} {ok : σ → ℓ → Prop} {s t : σ} {l : ℓ} {ls ls' : List ℓ}
    (h : m.Along ok s (ls ++ l :: ls')) (hrun : m.run s ls = some t) : ok t l := by
  induction ls generalizing s with
  | nil => exact Option.some.inj hrun ▸ h.1
  | cons k ls ih =>
    obtain ⟨u, hu, hut⟩ := Option.bind_eq_some_iff.mp hrun
    exact ih (h.2 u hu) hut

/-! ## Guarded schedules -/

/-- The same machine, on the schedules whose every step meets `ok` in the state it leaves. -/
def guard (m : Machine σ ℓ) (ok : σ → ℓ → Prop) [∀ s l, Decidable (ok s l)] : Machine σ ℓ where
  init := m.init
  step s l := if ok s l then m.step s l else none

section Guard
variable {m : Machine σ ℓ} {ok : σ → ℓ → Prop} [∀ s l, Decidable (ok s l)]

theorem guard_step {s s' : σ} {l : ℓ} :
    (m.guard ok).step s l = some s' ↔ ok s l ∧ m.step s l = some s' := by
  simp only [guard, Option.ite_none_right_eq_some]

theorem Reachable.of_guard {s : σ} (h : (m.guard ok).Reachable s) : m.Reachable s := by
  induction h with
  | init => exact .init
  | step _ hl ih => exact ih.step (guard_step.mp hl).2

theorem along_of_guard {s t : σ} {ls : List ℓ} (hrun : (m.guard ok).run s ls = some t) :
    m.Along ok s ls := by
  induction ls generalizing s with
  | nil => trivial
  | cons l ls ih =>
    obtain ⟨u, hu, hut⟩ := Option.bind_eq_some_iff.mp hrun
    obtain ⟨hok, hl⟩ := guard_step.mp hu
    refine ⟨hok, fun s' hs' => ?_⟩
    obtain rfl : s' = u := Option.some.inj (hs'.symm.trans hl)
    exact ih hut

end Guard

/-! ## Observed steps -/

/-- The same machine, beside a record of what its labels show an observer. -/
def observed {ω : Type*} (m : Machine σ ℓ) (see : ℓ → Option ω) : Machine (σ × List ω) ℓ where
  init := (m.init, [])
  step s l := (m.step s.1 l).map fun t => (t, s.2 ++ (see l).toList)

section Observed
variable {ω : Type*} {m : Machine σ ℓ} {see : ℓ → Option ω} {s s' : σ × List ω}

theorem observed_step {l : ℓ} : (m.observed see).step s l = some s' ↔
    m.step s.1 l = some s'.1 ∧ s'.2 = s.2 ++ (see l).toList := by
  obtain ⟨t, record⟩ := s'
  simp only [observed, Option.map_eq_some_iff, Prod.mk.injEq]
  constructor
  · rintro ⟨u, hu, rfl, rfl⟩
    exact ⟨hu, rfl⟩
  · rintro ⟨ht, rfl⟩
    exact ⟨t, ht, rfl, rfl⟩

theorem Reachable.of_observed (h : (m.observed see).Reachable s) : m.Reachable s.1 := by
  induction h with
  | init => exact .init
  | step _ hl ih => exact ih.step (observed_step.mp hl).1

end Observed

/-- The same machine, beside a record it keeps of its steps and the states they leave. -/
def recording {ω : Type*} (m : Machine σ ℓ) (start : ω) (note : σ → ℓ → ω → ω) :
    Machine (σ × ω) ℓ where
  init := (m.init, start)
  step s l := (m.step s.1 l).map fun t => (t, note s.1 l s.2)

section Recording
variable {ω : Type*} {m : Machine σ ℓ} {start : ω} {note : σ → ℓ → ω → ω} {s s' : σ × ω}

theorem recording_step {l : ℓ} : (m.recording start note).step s l = some s' ↔
    m.step s.1 l = some s'.1 ∧ s'.2 = note s.1 l s.2 := by
  obtain ⟨t, record⟩ := s'
  simp only [recording, Option.map_eq_some_iff, Prod.mk.injEq]
  constructor
  · rintro ⟨u, hu, rfl, rfl⟩
    exact ⟨hu, rfl⟩
  · rintro ⟨ht, rfl⟩
    exact ⟨t, ht, rfl, rfl⟩

theorem Reachable.of_recording (h : (m.recording start note).Reachable s) : m.Reachable s.1 := by
  induction h with
  | init => exact .init
  | step _ hl ih => exact ih.step (recording_step.mp hl).1

end Recording

/-! ## Simulations -/

/-- `abs` carries every step of `m` to a step of the abstract machine, or to none. -/
structure Simulation (m : Machine σ ℓ) (a : Machine τ κ) where
  abs : σ → τ
  init : abs m.init = a.init
  step : ∀ s l s', m.Reachable s → m.step s l = some s' →
    abs s' = abs s ∨ ∃ k, a.step (abs s) k = some (abs s')

theorem Simulation.reachable {m : Machine σ ℓ} {a : Machine τ κ} (r : Simulation m a) {s : σ}
    (h : m.Reachable s) : a.Reachable (r.abs s) := by
  induction h with
  | init => exact r.init ▸ .init
  | step hs hl ih =>
    rcases r.step _ _ _ hs hl with he | ⟨k, hk⟩
    · exact he ▸ ih
    · exact ih.step hk

/-! ## What a party reaches by its own steps -/

def CanReach (m : Machine σ ℓ) (own : ℓ → Prop) (goal : σ → Prop) (s : σ) : Prop :=
  ∃ ls s', (∀ l ∈ ls, own l) ∧ m.run s ls = some s' ∧ goal s'

/-- Every maximal run of own steps reaches the goal, whatever each step returns. -/
inductive Inevitable (m : Machine σ ℓ) (own : ℓ → Prop) (goal : σ → Prop) : σ → Prop
  | now {s : σ} : goal s → Inevitable m own goal s
  | next {s : σ} : (∃ l s', own l ∧ m.step s l = some s') →
      (∀ l s', own l → m.step s l = some s' → Inevitable m own goal s') → Inevitable m own goal s

section Own
variable {m : Machine σ ℓ} {own : ℓ → Prop} {goal : σ → Prop} {s : σ}

theorem CanReach.now (h : goal s) : m.CanReach own goal s := ⟨[], s, nofun, rfl, h⟩

theorem CanReach.next {s' : σ} {l : ℓ} (hl : own l) (hstep : m.step s l = some s')
    (h : m.CanReach own goal s') : m.CanReach own goal s := by
  obtain ⟨ls, t, hls, hrun, hg⟩ := h
  refine ⟨l :: ls, t, by simpa using ⟨hl, hls⟩, ?_, hg⟩
  rw [run, hstep]
  exact hrun

theorem CanReach.mono {goal' : σ → Prop} (h : m.CanReach own goal s)
    (hgoal : ∀ s, goal s → goal' s) : m.CanReach own goal' s := by
  obtain ⟨ls, t, hls, hrun, hg⟩ := h
  exact ⟨ls, t, hls, hrun, hgoal t hg⟩

theorem CanReach.of_measure {P : σ → Prop} (μ : σ → ℕ)
    (lowers : ∀ s, P s → ¬ goal s → ∃ l s', own l ∧ m.step s l = some s' ∧ P s' ∧ μ s' < μ s)
    (hs : P s) : m.CanReach own (fun u => P u ∧ goal u) s := by
  induction hn : μ s using Nat.strongRecOn generalizing s with
  | _ n ih =>
    by_cases hg : goal s
    · exact .now ⟨hs, hg⟩
    · obtain ⟨l, t, hl, ht, hP, hlt⟩ := lowers s hs hg
      exact .next hl ht (ih (μ t) (hn ▸ hlt) hP rfl)

/-- What a part reaches by own steps, the whole it is put into reaches. -/
theorem CanReach.map {a : Machine τ κ} {own' : κ → Prop} {goal' : τ → Prop} (put : σ → τ)
    (f : ℓ → κ) (hown : ∀ l, own l → own' (f l)) (hgoal : ∀ s, goal s → goal' (put s))
    (hstep : ∀ s l s', own l → m.step s l = some s' → a.step (put s) (f l) = some (put s'))
    (h : m.CanReach own goal s) : a.CanReach own' goal' (put s) := by
  obtain ⟨ls, t, hls, hrun, hg⟩ := h
  induction ls generalizing s with
  | nil =>
    rw [Option.some.inj hrun]
    exact .now (hgoal t hg)
  | cons l ls ih =>
    obtain ⟨u, hu, hrest⟩ := Option.bind_eq_some_iff.mp hrun
    simp only [List.mem_cons, forall_eq_or_imp] at hls
    exact .next (hown l hls.1) (hstep s l u hls.1 hu) (ih hls.2 hrest)

/-- A region in which an own step is always enabled and every own step lowers a measure. -/
theorem Inevitable.of_measure {P : σ → Prop} (μ : σ → ℕ)
    (enabled : ∀ s, P s → ¬ goal s → ∃ l s', own l ∧ m.step s l = some s')
    (lowers : ∀ s l s', P s → ¬ goal s → own l → m.step s l = some s' → P s' ∧ μ s' < μ s)
    (hs : P s) : m.Inevitable own goal s := by
  induction hn : μ s using Nat.strongRecOn generalizing s with
  | _ n ih =>
    by_cases hg : goal s
    · exact .now hg
    · refine .next (enabled s hs hg) ?_
      intro l t hl ht
      obtain ⟨hP, hlt⟩ := lowers s l t hs hg hl ht
      exact ih (μ t) (hn ▸ hlt) hP rfl

theorem Inevitable.within {P goal' : σ → Prop}
    (keeps : ∀ s l s', P s → own l → m.step s l = some s' → P s')
    (hgoal : ∀ s, P s → goal s → goal' s) (hs : P s) (h : m.Inevitable own goal s) :
    m.Inevitable own goal' s := by
  induction h with
  | now hg => exact .now (hgoal _ hs hg)
  | next hex _ ih =>
    refine .next hex ?_
    intro l t hl ht
    exact ih l t hl ht (keeps _ l t hs hl ht)

theorem not_canReach_of_closed {T : σ → Prop} (miss : ∀ s, T s → ¬ goal s)
    (closed : ∀ s l s', T s → own l → m.step s l = some s' → T s') (hs : T s) :
    ¬ m.CanReach own goal s := by
  rintro ⟨ls, t, hls, hrun, hg⟩
  induction ls generalizing s with
  | nil => exact miss s hs (Option.some.inj hrun ▸ hg)
  | cons l ls ih =>
    obtain ⟨u, hu, hrest⟩ := Option.bind_eq_some_iff.mp hrun
    simp only [List.mem_cons, forall_eq_or_imp] at hls
    exact ih (closed s l u hs hls.1 hu) hls.2 hrest

/-- In a region that misses the goal, own steps that can always be answered inside it
never have to reach the goal. -/
theorem not_inevitable_of_trap {T : σ → Prop} (miss : ∀ s, T s → ¬ goal s)
    (stays : ∀ s, T s → (∀ l s', own l → m.step s l ≠ some s') ∨
      ∃ l s', own l ∧ m.step s l = some s' ∧ T s') (hs : T s) : ¬ m.Inevitable own goal s := by
  intro h
  induction h with
  | now hg => exact miss _ hs hg
  | next hex _ ih =>
    rcases stays _ hs with hnone | ⟨l, t, hl, ht, hT⟩
    · obtain ⟨l, t, hl, ht⟩ := hex
      exact hnone l t hl ht
    · exact ih l t hl ht hT

end Own
end Machine
end Concurrency
