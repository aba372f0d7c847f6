import BevyQuic.Concurrency.Machine

/-! A mailbox with a wake-up flag, shared by a waiter and a caller without a lock. The waiter
raises the flag each time it starts to wait; the caller lowers the flag first and posts afterwards,
and its post may be refused by a full mailbox. -/

namespace Concurrency

structure Mailbox where
  waiting : Bool
  flag : Bool
  mail : ℕ
  /-- The caller has lowered the flag and not yet posted. -/
  posting : Bool
  deriving DecidableEq

namespace Mailbox

inductive Action
  | wait
  | take
  | leave
  | discard
  | lower
  | post
  | refuse
  /-- A post that never touched the flag. -/
  | send

def step (s : Mailbox) : Action → Option Mailbox
  | .wait => if s.waiting then none else some { s with waiting := true, flag := true }
  | .take => if 0 < s.mail then some { s with waiting := false, mail := s.mail - 1 } else none
  | .leave => some { s with waiting := false }
  | .discard => if s.waiting then none else some { s with mail := 0 }
  | .lower => some { s with flag := false, posting := true }
  | .post => if s.posting then some { s with posting := false, mail := s.mail + 1 } else none
  | .refuse => if s.waiting && s.mail == 0 then none else some { s with posting := false }
  | .send => some { s with mail := s.mail + 1 }

def machine : Machine Mailbox Action where
  init := ⟨false, false, 0, false⟩
  step := step

/-- What wakes the waiter, or will: the flag, a message, or a caller on its way. -/
def Awake (s : Mailbox) : Prop :=
  s.waiting = true → s.flag = true ∨ 0 < s.mail ∨ s.posting = true

theorem awake_of_step {s s' : Mailbox} {a : Action} (hs : step s a = some s') : s'.Awake := by
  intro hw
  cases a <;> simp only [step, Option.ite_none_left_eq_some, Option.ite_none_right_eq_some,
    Option.some.injEq] at hs
  case wait =>
    obtain ⟨-, rfl⟩ := hs
    exact .inl rfl
  case take =>
    obtain ⟨-, rfl⟩ := hs
    exact absurd hw (by simp)
  case leave =>
    subst hs
    exact absurd hw (by simp)
  case discard =>
    obtain ⟨hnot, rfl⟩ := hs
    exact absurd hw hnot
  case lower =>
    subst hs
    exact .inr (.inr rfl)
  case post =>
    obtain ⟨-, rfl⟩ := hs
    exact .inr (.inl (Nat.succ_pos _))
  case refuse =>
    -- a refused post found the mailbox full, so there is mail to wake the waiter
    obtain ⟨hmail, rfl⟩ := hs
    have hpos : 0 < s.mail := by
      simp only [Bool.and_eq_true, beq_iff_eq, not_and] at hmail
      exact Nat.pos_of_ne_zero (hmail hw)
    exact .inr (.inl hpos)
  case send =>
    subst hs
    exact .inr (.inl (Nat.succ_pos _))

/-- No lost wake-up: a waiter with no mail, and no caller between its two steps, has its flag up. -/
theorem flag_of_waiting {s : Mailbox} (h : machine.Reachable s) (hw : s.waiting = true)
    (hm : s.mail = 0) (hp : s.posting = false) : s.flag = true := by
  have hawake : s.Awake :=
    h.invariant (P := Awake) (fun hw => absurd hw (by decide)) fun _ _ _ _ _ hl => awake_of_step hl
  rcases hawake hw with hf | hmail | hposting
  · exact hf
  · omega
  · exact absurd hposting (by simp [hp])

end Mailbox
end Concurrency
