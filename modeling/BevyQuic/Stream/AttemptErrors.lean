import BevyQuic.Stream.StreamAttempts

/-! What an entity shows of its attempt: nothing while it carries it, and afterwards nothing either,
or what `stream-errors` says as it is written: the error a failed attempt ended with and the
endpoint it was for. (With that feature on, the plugin does not compile.) -/

namespace BevyQuic.Stream
open Concurrency

/-- The error component that the result of a task leaves on its entity. -/
def errorShown (streamErrors : Bool) (parentId : QuicParentId) :
    AttemptResult → Option (QuicActionError × QuicParentId)
  | .ok _ => none
  | .error err =>
    if streamErrors then some (QuicActionAttempt.laterAnswer (T := Unit) (.error err), parentId)
    else none

variable {streamErrors : Bool} {parentId : QuicParentId} {x x' : AttemptFrame}
variable {y y' : AttemptEntity} {res : AttemptResult}

theorem applyAll_errorComponent (h : Bare y)
    (value : Except TaskError (Option y.kind.Yield)) :
    ((attemptApp streamErrors).applyAll y (AttemptEntity.commandsOf streamErrors y.kind parentId
      (QuicActionAttempt.firstAnswer value))).errorComponent =
        errorShown streamErrors parentId (y.kind.result value) := by
  have hremoved : ∀ e : QuicActionError, ((y.apply (.insertError e parentId)).apply
      (.remove y.kind)).errorComponent = some (e, parentId) := by
    intro e
    have hkind := apply_remove (y.apply (.insertError e parentId))
    exact congrArg AttemptEntity.errorComponent hkind
  have hquiet : (y.apply (.remove y.kind)).errorComponent = none := by
    rw [apply_remove]
    exact h.errorComponent
  rcases value with (err | err) | (_ | stream)
  · cases streamErrors with
    | false => exact hquiet
    | true => exact hremoved (.connectionFailed err)
  · cases streamErrors with
    | false => exact hquiet
    | true => exact hremoved (.crashed err)
  · rfl
  · exact hquiet

/-- An entity that was spawned for `parentId`: it carries its attempt and shows nothing, its
commands are queued, or it shows what its attempt has come to. -/
inductive ShownStage (streamErrors : Bool) (parentId : QuicParentId) (x : AttemptFrame) : Prop
  | waiting (y : AttemptEntity) (a : StreamAttempt y.kind) : Waiting x y a →
      a.parentId = parentId → ShownStage streamErrors parentId x
  | answered (y : AttemptEntity) (a : StreamAttempt y.kind)
      (value : Except TaskError (Option y.kind.Yield)) :
      Answered streamErrors x y a (y.kind.result value) → Bare y →
      x.queue = AttemptEntity.commandsOf streamErrors y.kind parentId
        (QuicActionAttempt.firstAnswer value) → ShownStage streamErrors parentId x
  | resolved (y : AttemptEntity) (res : AttemptResult) : Resolved x y res →
      y.errorComponent = errorShown streamErrors parentId res → ShownStage streamErrors parentId x

theorem attemptResult_parentId {P T : Type} [TaskResult P T] (a : QuicActionAttempt P) :
    a.attemptResult.2.parentId = a.parentId := by
  unfold QuicActionAttempt.attemptResult
  split
  · rfl
  · split <;> rfl

theorem Waiting.shown {a : StreamAttempt y.kind} {l : AttemptFrameLabel} (h : Waiting x y a)
    (hparent : a.parentId = parentId) (hstarted : ∀ s, x.due s = true → x.started s = true)
    (m : (attemptApp streamErrors).EntityMove x l x') : ShownStage streamErrors parentId x' := by
  cases m with
  | spawn i hnone =>
    rw [h.slot] at hnone
    cases hnone
  | own l z z' hz hown =>
    obtain rfl := Option.some.inj (h.slot.symm.trans hz)
    obtain ⟨b, e, task, hb, htask, rfl⟩ := own_cases hown
    obtain rfl := Option.some.inj (h.attempt.symm.trans hb)
    have hwaiting : Waiting { x with slot := some { y with
          attempt := some { a with taskRes := task }
          result := e.result.map y.kind.result } }
        { y with
          attempt := some { a with taskRes := task }
          result := e.result.map y.kind.result } { a with taskRes := task } :=
      ⟨rfl, rfl, h.unseen.event htask, h.bare.attempt _ _, h.queue⟩
    exact .waiting _ _ hwaiting hparent
  | run s => exact .waiting y a ⟨h.slot, h.attempt, h.unseen, h.bare, h.queue⟩ hparent
  | visit s z z' commands hz hdue hv =>
    obtain rfl := Option.some.inj (h.slot.symm.trans hz)
    obtain ⟨hkind, b, hb, rfl, rfl⟩ := visit_cases hv
    obtain rfl := Option.some.inj (h.attempt.symm.trans hb)
    have hunseen := h.unseen
    -- a visit leaves a pending attempt as it is, and queues what an answer brings
    rcases Option.eq_none_or_eq_some y.result with hres | ⟨res, hres⟩
    · rw [hres] at hunseen
      refine .waiting { y with attempt := some a.attemptResult.2 } a.attemptResult.2
        ⟨rfl, rfl, ?_, h.bare.attempt _ _, ?_⟩ ?_
      · rw [hunseen.pending]
        exact h.unseen
      · rw [h.queue, List.nil_append, hunseen.pending]
        rfl
      · rw [attemptResult_parentId, hparent]
    · rw [hres] at hunseen
      obtain ⟨value, rfl, hanswer, hdone⟩ := hunseen.resolved
      have hbare : Bare { y with attempt := some a.attemptResult.2 } := h.bare.attempt _ y.result
      have hqueue : x.queue ++ AttemptEntity.commandsOf streamErrors y.kind a.parentId
          a.attemptResult.1 = AttemptEntity.commandsOf streamErrors y.kind parentId
            (QuicActionAttempt.firstAnswer value) := by
        rw [h.queue, List.nil_append, hanswer, hparent]
      refine .answered { y with attempt := some a.attemptResult.2 } a.attemptResult.2 value
        ⟨rfl, rfl, hdone, hres, ?_, s, hkind, hstarted s hdue, by simp⟩ hbare hqueue
      show ((attemptApp streamErrors).applyAll { y with attempt := some a.attemptResult.2 }
        (x.queue ++ _)).Settled _
      rw [hqueue]
      exact settled_of_commands hbare parentId value
  | finish =>
    refine .waiting y a ⟨?_, h.attempt, h.unseen, h.bare, rfl⟩ hparent
    rw [h.slot, h.queue]
    rfl

theorem ShownStage.step {l : AttemptFrameLabel} (h : ShownStage streamErrors parentId x)
    (hx : (attemptApp streamErrors).entityMachine.Reachable x)
    (hl : (attemptApp streamErrors).entityStep x l = some x') :
    ShownStage streamErrors parentId x' := by
  have m := App.entityStep_move hl
  cases h with
  | waiting y a h hparent => exact h.shown hparent (fun _ => App.started_of_due hx) m
  | answered y a value h hbare hqueue =>
    rcases h.step m with ⟨hkept, hfinish⟩ | ⟨y', hresolved⟩
    · refine .answered y a value hkept hbare ?_
      rw [← hqueue]
      cases m with
      | finish => exact absurd rfl hfinish
      | visit s z y' commands hz hdue hv =>
        -- the system has seen the attempt in this schedule, and does not come back
        obtain ⟨s', hkind, -, hdue'⟩ := h.handled
        obtain rfl := Option.some.inj (h.slot.symm.trans hz)
        obtain rfl : s = s' :=
          AttemptSystem.kind_injective ((visit_cases hv).1.trans hkind.symm)
        exact absurd (hdue.symm.trans hdue') (by decide)
      | _ => rfl
    · refine .resolved y' _ hresolved ?_
      cases m with
      | finish =>
        have hslot : (x.slot.map fun y => (attemptApp streamErrors).applyAll y x.queue) =
          some y' := hresolved.slot
        rw [h.slot, hqueue] at hslot
        rw [← Option.some.inj hslot]
        exact applyAll_errorComponent hbare value
      | spawn i hnone =>
        rw [h.slot] at hnone
        cases hnone
      | own l z z' hz hown =>
        obtain rfl := Option.some.inj (h.slot.symm.trans hz)
        obtain rfl := Option.some.inj hresolved.slot
        obtain ⟨b, e, task, hb, htask, -⟩ := own_cases hown
        obtain rfl := Option.some.inj (h.attempt.symm.trans hb)
        rw [h.done.1 e] at htask
        cases htask
      | run s =>
        obtain rfl := Option.some.inj (h.slot.symm.trans hresolved.slot)
        exact absurd (h.attempt.symm.trans hresolved.attempt) nofun
      | visit s z z' commands hz hdue hv =>
        obtain rfl := Option.some.inj (h.slot.symm.trans hz)
        obtain rfl := Option.some.inj hresolved.slot
        obtain ⟨-, b, -, rfl, -⟩ := visit_cases hv
        exact absurd hresolved.attempt nofun
  | resolved y res h hshown => exact .resolved y res (h.step m) hshown

theorem queue_of_absent (h : (attemptApp streamErrors).entityMachine.Reachable x)
    (hslot : x.slot = none) : x.queue = [] := by
  cases reachable_attemptStage h with
  | absent _ hqueue => exact hqueue
  | waiting y a hy => exact absurd (hslot.symm.trans hy.slot) nofun
  | answered y a res hy => exact absurd (hslot.symm.trans hy.slot) nofun
  | resolved y res hy => exact absurd (hslot.symm.trans hy.slot) nofun

structure Living (streamErrors : Bool) (parentId : QuicParentId) (x : AttemptFrame) : Prop where
  reachable : (attemptApp streamErrors).entityMachine.Reachable x
  shown : x.slot ≠ none → ShownStage streamErrors parentId x

theorem Living.step {k : AttemptFrameLabel} (h : Living streamErrors parentId x)
    (hspawn : ∀ i, k = .spawn i → i.parentId = parentId)
    (hk : (attemptApp streamErrors).entityStep x k = some x') :
    Living streamErrors parentId x' := by
  refine ⟨h.reachable.step hk, ?_⟩
  intro hthere
  by_cases hslot : x.slot = none
  · cases App.entityStep_move hk with
    | spawn i =>
      have hwaiting := waiting_new (queue_of_absent h.reachable hslot) i
      exact .waiting _ _ hwaiting (hspawn i rfl)
    | own l y y' hy => exact absurd (hslot.symm.trans hy) nofun
    | run s => exact absurd hslot hthere
    | visit s y y' commands hy => exact absurd (hslot.symm.trans hy) nofun
    | finish => exact absurd (by rw [hslot]; rfl) hthere
  · exact (h.shown hslot).step h.reachable hk

end BevyQuic.Stream
