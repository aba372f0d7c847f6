import Mathlib.Data.List.Basic

/-! The two channels an async runtime gives a program: the bounded multi-producer queue and the
oneshot. A bounded queue remembers every message it accepted, and the order of what was taken,
what still waits and what died with the receiver is part of the value. -/

namespace Concurrency

inductive TrySendError (α : Type*)
  | full (message : α)
  | closed (message : α)
  deriving DecidableEq

def TrySendError.message {α : Type*} : TrySendError α → α
  | .full a => a
  | .closed a => a

inductive TryRecvError
  | empty
  | closed
  deriving DecidableEq

/-- A bounded queue. `accepted`, `taken` and `dropped` are its history; no operation reads them. -/
structure Mpsc (α : Type*) (capacity : ℕ) where
  queue : List α
  accepted : List α
  taken : List α
  dropped : List α
  senderAlive : Bool
  receiverAlive : Bool
  length_le : queue.length ≤ capacity
  fifo : accepted = taken ++ queue ++ dropped
  dropped_nil : receiverAlive = true → dropped = []
  queue_nil : receiverAlive = false → queue = []

namespace Mpsc
variable {α : Type*} {n : ℕ}

def channel (α : Type*) (n : ℕ) : Mpsc α n where
  queue := []
  accepted := []
  taken := []
  dropped := []
  senderAlive := true
  receiverAlive := true
  length_le := Nat.zero_le n
  fifo := rfl
  dropped_nil _ := rfl
  queue_nil _ := rfl

instance : Inhabited (Mpsc α n) := ⟨channel α n⟩

theorem accepted_of_receiverAlive {c : Mpsc α n} (h : c.receiverAlive = true) :
    c.accepted = c.taken ++ c.queue := by
  rw [c.fifo, c.dropped_nil h, List.append_nil]

/-- A send that never waits: refused when the receiver is gone or the queue is at capacity. -/
def trySend (c : Mpsc α n) (a : α) : Except (TrySendError α) (Mpsc α n) :=
  if hr : c.receiverAlive = true then
    if hn : c.queue.length < n then
      .ok { c with
        queue := c.queue ++ [a]
        accepted := c.accepted ++ [a]
        length_le := by simpa using Nat.succ_le_of_lt hn
        fifo := by rw [accepted_of_receiverAlive hr, c.dropped_nil hr]; simp
        queue_nil := fun h => absurd (hr.symm.trans h) (by decide) }
    else .error (.full a)
  else .error (.closed a)

structure Sent (c : Mpsc α n) (a : α) (c' : Mpsc α n) : Prop where
  receiverAlive : c.receiverAlive = true
  room : c.queue.length < n
  queue : c'.queue = c.queue ++ [a]
  accepted : c'.accepted = c.accepted ++ [a]
  taken : c'.taken = c.taken
  dropped : c'.dropped = c.dropped
  senderAlive' : c'.senderAlive = c.senderAlive
  receiverAlive' : c'.receiverAlive = c.receiverAlive

theorem trySend_ok {c c' : Mpsc α n} {a : α} (h : c.trySend a = .ok c') : c.Sent a c' := by
  unfold trySend at h
  split_ifs at h with hr hn
  obtain rfl := Except.ok.inj h
  exact ⟨hr, hn, rfl, rfl, rfl, rfl, rfl, rfl⟩

theorem trySend_error {c : Mpsc α n} {a : α} {e : TrySendError α} (h : c.trySend a = .error e) :
    (c.receiverAlive = true ∧ c.queue.length = n ∧ e = .full a) ∨
      (c.receiverAlive = false ∧ e = .closed a) := by
  unfold trySend at h
  split_ifs at h with hr hn
  · exact .inl ⟨hr, Nat.le_antisymm c.length_le (Nat.le_of_not_lt hn), (Except.error.inj h).symm⟩
  · exact .inr ⟨by simpa using hr, (Except.error.inj h).symm⟩

def take (c : Mpsc α n) (k : ℕ) : Mpsc α n :=
  { c with
    queue := c.queue.drop k
    taken := c.taken ++ c.queue.take k
    length_le := by
      rw [List.length_drop]
      exact Nat.le_trans (Nat.sub_le _ _) c.length_le
    fifo := by rw [c.fifo, List.append_assoc c.taken (c.queue.take k), List.take_append_drop]
    queue_nil := fun h => by rw [c.queue_nil h, List.drop_nil] }

section Take
variable (c : Mpsc α n) (k : ℕ)
@[simp] theorem take_queue : (c.take k).queue = c.queue.drop k := rfl
@[simp] theorem take_accepted : (c.take k).accepted = c.accepted := rfl
@[simp] theorem take_taken : (c.take k).taken = c.taken ++ c.queue.take k := rfl
@[simp] theorem take_dropped : (c.take k).dropped = c.dropped := rfl
@[simp] theorem take_senderAlive : (c.take k).senderAlive = c.senderAlive := rfl
@[simp] theorem take_receiverAlive : (c.take k).receiverAlive = c.receiverAlive := rfl
end Take

/-- One poll of the receiver's `recv`: `none` while it waits, `some none` once the channel is
empty for good. -/
def recv (c : Mpsc α n) : Option (Option α × Mpsc α n) :=
  match c.queue with
  | a :: _ => some (some a, c.take 1)
  | [] => if c.senderAlive then none else some (none, c)

theorem recv_eq_none {c : Mpsc α n} :
    c.recv = none ↔ c.queue = [] ∧ c.senderAlive = true := by
  unfold recv
  cases hq : c.queue <;> simp

theorem recv_some {c c' : Mpsc α n} {a : α} (h : c.recv = some (some a, c')) :
    c' = c.take 1 ∧ ∃ q, c.queue = a :: q := by
  unfold recv at h
  cases hq : c.queue with
  | nil => simp [hq] at h
  | cons b q =>
    simp only [hq, Option.some.injEq, Prod.mk.injEq] at h
    exact ⟨h.2.symm, q, by rw [h.1]⟩

theorem recv_closed {c c' : Mpsc α n} (h : c.recv = some (none, c')) :
    c' = c ∧ c.queue = [] ∧ c.senderAlive = false := by
  unfold recv at h
  cases hq : c.queue with
  | nil =>
    simp only [hq, Option.ite_none_left_eq_some, Option.some.injEq, Prod.mk.injEq, true_and] at h
    exact ⟨h.2.symm, rfl, by simpa using h.1⟩
  | cons b q => simp [hq] at h

def tryRecv (c : Mpsc α n) : Except TryRecvError α × Mpsc α n :=
  match c.queue with
  | a :: _ => (.ok a, c.take 1)
  | [] => (.error (if c.senderAlive then .empty else .closed), c)

/-- `recv_many` completing with `k` messages: at least one while the channel can still bring some,
none when the limit is zero or the channel is empty for good. -/
def recvMany (c : Mpsc α n) (limit k : ℕ) : Option (List α × Mpsc α n) :=
  if 1 ≤ k ∧ k ≤ limit ∧ k ≤ c.queue.length ∨
      k = 0 ∧ (limit = 0 ∨ c.queue = [] ∧ c.senderAlive = false) then
    some (c.queue.take k, c.take k)
  else none

theorem recvMany_some {c c' : Mpsc α n} {limit k : ℕ} {messages : List α}
    (h : c.recvMany limit k = some (messages, c')) :
    messages = c.queue.take k ∧ c' = c.take k ∧ k ≤ limit ∧ k ≤ c.queue.length ∧
      (k = 0 → limit = 0 ∨ c.queue = [] ∧ c.senderAlive = false) := by
  unfold recvMany at h
  split_ifs at h with hk
  obtain ⟨rfl, rfl⟩ := Prod.mk.inj (Option.some.inj h)
  refine ⟨rfl, rfl, ?_⟩
  rcases hk with ⟨hpos, hlimit, hlen⟩ | ⟨rfl, hzero⟩
  · exact ⟨hlimit, hlen, fun hk => absurd hpos (by omega)⟩
  · exact ⟨Nat.zero_le _, Nat.zero_le _, fun _ => hzero⟩

/-- A send that waits for room: `none` while it does, the message back once nobody receives. -/
def blockingSend (c : Mpsc α n) (a : α) : Option (Except α (Mpsc α n)) :=
  match c.trySend a with
  | .ok c' => some (.ok c')
  | .error (.full _) => none
  | .error (.closed a) => some (.error a)

theorem blockingSend_ok {c c' : Mpsc α n} {a : α} (h : c.blockingSend a = some (.ok c')) :
    c.Sent a c' := by
  unfold blockingSend at h
  split at h
  · rename_i c'' hsend
    rw [← Except.ok.inj (Option.some.inj h)]
    exact trySend_ok hsend
  · cases h
  · cases h

theorem blockingSend_error {c : Mpsc α n} {a b : α}
    (h : c.blockingSend a = some (.error b)) : c.receiverAlive = false := by
  unfold blockingSend at h
  split at h
  · cases h
  · cases h
  · rename_i a' hsend
    rcases trySend_error hsend with ⟨-, -, hfull⟩ | ⟨hdead, -⟩
    · cases hfull
    · exact hdead

theorem blockingSend_eq_none {c : Mpsc α n} {a : α} :
    c.blockingSend a = none ↔ c.receiverAlive = true ∧ c.queue.length = n := by
  unfold blockingSend
  constructor
  · intro h
    split at h
    · cases h
    · rename_i hsend
      rcases trySend_error hsend with ⟨halive, hfull, -⟩ | ⟨-, he⟩
      · exact ⟨halive, hfull⟩
      · cases he
    · cases h
  · rintro ⟨halive, hfull⟩
    have hsend : c.trySend a = .error (.full a) := by
      simp [trySend, halive, hfull]
    rw [hsend]

def ready (c : Mpsc α n) : Prop := c.queue.length < n ∨ c.receiverAlive = false

theorem blockingSend_isSome {c : Mpsc α n} {a : α} :
    (c.blockingSend a).isSome = true ↔ c.ready := by
  rw [Option.isSome_iff_ne_none, Ne, blockingSend_eq_none]
  have hlen := c.length_le
  unfold ready
  cases c.receiverAlive with
  | false => simp
  | true =>
    simp only [true_and, reduceCtorEq, or_false]
    omega

theorem ready.take {c : Mpsc α n} (h : c.ready) (k : ℕ) : (c.take k).ready := by
  rcases h with hroom | hdead
  · refine .inl (Nat.lt_of_le_of_lt ?_ hroom)
    rw [take_queue, List.length_drop]
    exact Nat.sub_le _ _
  · exact .inr hdead

def dropReceiver (c : Mpsc α n) : Mpsc α n :=
  { c with
    queue := []
    dropped := c.queue ++ c.dropped
    receiverAlive := false
    length_le := Nat.zero_le n
    fifo := by rw [c.fifo]; simp
    dropped_nil := fun h => absurd h (by decide)
    queue_nil := fun _ => rfl }

def dropSender (c : Mpsc α n) : Mpsc α n := { c with senderAlive := false }

section Drop
variable (c : Mpsc α n)
@[simp] theorem dropReceiver_queue : c.dropReceiver.queue = [] := rfl
@[simp] theorem dropReceiver_accepted : c.dropReceiver.accepted = c.accepted := rfl
@[simp] theorem dropReceiver_taken : c.dropReceiver.taken = c.taken := rfl
@[simp] theorem dropReceiver_dropped : c.dropReceiver.dropped = c.queue ++ c.dropped := rfl
@[simp] theorem dropReceiver_senderAlive : c.dropReceiver.senderAlive = c.senderAlive := rfl
@[simp] theorem dropReceiver_receiverAlive : c.dropReceiver.receiverAlive = false := rfl
@[simp] theorem dropSender_queue : c.dropSender.queue = c.queue := rfl
@[simp] theorem dropSender_accepted : c.dropSender.accepted = c.accepted := rfl
@[simp] theorem dropSender_taken : c.dropSender.taken = c.taken := rfl
@[simp] theorem dropSender_dropped : c.dropSender.dropped = c.dropped := rfl
@[simp] theorem dropSender_senderAlive : c.dropSender.senderAlive = false := rfl
@[simp] theorem dropSender_receiverAlive : c.dropSender.receiverAlive = c.receiverAlive := rfl
@[simp] theorem channel_queue : (channel α n).queue = [] := rfl
@[simp] theorem channel_accepted : (channel α n).accepted = [] := rfl
@[simp] theorem channel_taken : (channel α n).taken = [] := rfl
@[simp] theorem channel_senderAlive : (channel α n).senderAlive = true := rfl
@[simp] theorem channel_receiverAlive : (channel α n).receiverAlive = true := rfl
end Drop
end Mpsc

/-! ## Oneshot -/

structure Oneshot (α : Type*) where
  value : Option α
  senderAlive : Bool
  receiverAlive : Bool
  deriving DecidableEq

namespace Oneshot
variable {α : Type*}

def channel (α : Type*) : Oneshot α := ⟨none, true, true⟩

instance : Inhabited (Oneshot α) := ⟨channel α⟩

/-- Sending consumes the sender; the message is lost when the receiver is gone. -/
def send (o : Oneshot α) (a : α) : Oneshot α :=
  if o.receiverAlive then { o with value := some a, senderAlive := false }
  else { o with senderAlive := false }

def dropSender (o : Oneshot α) : Oneshot α := { o with senderAlive := false }

def dropReceiver (o : Oneshot α) : Oneshot α := { o with value := none, receiverAlive := false }

def isEmpty (o : Oneshot α) : Bool := o.value.isNone

def tryRecv (o : Oneshot α) : Except TryRecvError α × Oneshot α :=
  match o.value with
  | some a => (.ok a, { o with value := none })
  | none => (.error (if o.senderAlive then .empty else .closed), o)

@[simp] theorem send_senderAlive (o : Oneshot α) (a : α) : (o.send a).senderAlive = false := by
  unfold send
  split <;> rfl

@[simp] theorem send_receiverAlive (o : Oneshot α) (a : α) :
    (o.send a).receiverAlive = o.receiverAlive := by
  unfold send
  split <;> rfl

theorem send_value {o : Oneshot α} (h : o.receiverAlive = true) (a : α) :
    (o.send a).value = some a := by
  simp [send, h]

end Oneshot
end Concurrency
