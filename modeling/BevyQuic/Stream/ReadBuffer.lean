import BevyQuic.Stream.Inbound

/-! The buffer the receive task reads into. One array serves all reads and is emptied slot by slot;
s2n-quic refuses to read into a slot that is not empty. -/

namespace BevyQuic.Stream
open Concurrency

namespace ReadBuf

/-- `receive_vectored` refuses the buffer: one of its placeholders is not empty. -/
def refused (buf : ReadBuf) : Bool := buf.slots.any fun slot => !slot.isEmpty

theorem slot_new (i : ℕ) : ReadBuf.new.slot i = [] := by
  unfold slot ReadBuf.new
  rw [List.getD_eq_getElem?_getD, List.getElem?_replicate]
  split_ifs <;> rfl

theorem slot_fill {buf : ReadBuf} {chunks : List Bytes} {i : ℕ}
    (hsize : chunks.length ≤ inboundBuffSize) (hi : chunks.length ≤ i) :
    (buf.fill chunks).slot i = buf.slot i := by
  unfold slot fill
  dsimp only
  rw [List.take_of_length_le hsize, List.getD_eq_getElem?_getD, List.getD_eq_getElem?_getD,
    List.getElem?_append_right hi, List.getElem?_drop, Nat.add_sub_cancel' hi]

theorem slot_clear_self (buf : ReadBuf) (i : ℕ) : (buf.clear i).slot i = [] := by
  unfold slot clear
  dsimp only
  rw [List.getD_eq_getElem?_getD, List.getElem?_set_self']
  cases buf.slots[i]? <;> rfl

theorem slot_clear_of_ne {buf : ReadBuf} {i j : ℕ} (hne : j ≠ i) :
    (buf.clear j).slot i = buf.slot i := by
  unfold slot clear
  dsimp only
  rw [List.getD_eq_getElem?_getD, List.getD_eq_getElem?_getD, List.getElem?_set_ne hne]

theorem slots_of_empty {buf : ReadBuf} (h : ∀ i, buf.slot i = []) :
    buf.slots = List.replicate inboundBuffSize [] := by
  refine List.eq_replicate_iff.mpr ⟨buf.length_eq, ?_⟩
  intro slot hslot
  obtain ⟨i, hi, rfl⟩ := List.getElem_of_mem hslot
  have hempty := h i
  unfold ReadBuf.slot at hempty
  rw [List.getD_eq_getElem _ _ hi] at hempty
  exact hempty

end ReadBuf

/-- The slot holds a chunk that was read and not yet offered to the channel. -/
def RecPc.holds : RecPc → ℕ → Prop
  | .transferring index size _ _, i => index ≤ i ∧ i < size
  | _, _ => False

def RecState.Clean (s : RecState) : Prop := ∀ i, ¬ s.pc.holds i → s.readBuf.slot i = []

variable {id : StreamId} {s s' : RecState}

theorem RecState.Clean.of_rest (h : s.Clean) (hpc : ∀ i, ¬ s.pc.holds i)
    (hbuf : s'.readBuf = s.readBuf) : s'.Clean := by
  intro i _
  rw [hbuf]
  exact h i (hpc i)

theorem RecTaskMove.clean {a : RecTaskAction} (h : s.Clean) (m : RecTaskMove s a s') :
    s'.Clean := by
  cases m with
  | read chunks isOpen now hpc hsize =>
    intro i hi
    have hempty : s.readBuf.slot i = [] := h i (by rw [hpc]; exact not_false)
    -- a slot that holds no chunk of this read lies behind those it has filled
    have hlen : chunks.length ≤ i := by
      simp only [RecPc.holds, Nat.zero_le, true_and, Nat.not_lt] at hi
      exact hi
    exact (ReadBuf.slot_fill hsize hlen).trans hempty
  | transfer index size isOpen recvAt hpc hlt =>
    have htransferred := transferPayloadData_transferred { s with
      readBuf := s.readBuf.clear index
      pc := .transferring (index + 1) size isOpen recvAt } ⟨recvAt, s.readBuf.slot index⟩
    intro i hi
    rw [htransferred.pc] at hi
    rw [htransferred.readBuf]
    by_cases heq : index = i
    · rw [heq]
      exact s.readBuf.slot_clear_self i
    · have hrest : ¬ s.pc.holds i := by
        rw [hpc]
        simp only [RecPc.holds] at hi ⊢
        omega
      exact (ReadBuf.slot_clear_of_ne heq).trans (h i hrest)
  | transferred index size isOpen recvAt hpc hle =>
    refine h.of_rest (fun i => ?_) rfl
    rw [hpc]
    simp only [RecPc.holds]
    omega
  | drained payload recvAt hpc =>
    have htransferred := transferPayloadData_transferred
      { s with yielded := s.yielded ++ [payload] } ⟨recvAt, payload⟩
    refine h.of_rest (fun i => ?_) htransferred.readBuf
    rw [hpc]
    exact not_false
  | readFailed _ _ hpc | receivePending hpc | stopSend _ _ hpc | controlClosed hpc
  | controlPending hpc | stopSending _ hpc | drainedAll _ _ hpc | dropSelf hpc | finish _ hpc =>
    refine h.of_rest (fun i => ?_) rfl
    rw [hpc]
    exact not_false

theorem reachable_clean (h : (recMachine id).Reachable s) : s.Clean :=
  h.invariant (P := RecState.Clean) (fun i _ => ReadBuf.slot_new i) fun s l s' _ hs hl => by
    cases l with
    | task a => exact (recTaskStep_move hl).clean hs
    | app a =>
      have same := (recAppStep_move hl).sameTask
      intro i hi
      rw [same.pc] at hi
      rw [same.readBuf]
      exact hs i hi

def RecPc.reads : RecPc → Prop
  | .select | .selectControl => True
  | _ => False

structure CleanRead (s : RecState) : Prop where
  slots : s.readBuf.slots = List.replicate inboundBuffSize []
  refused : s.readBuf.refused = false
  transferred : s.transfers.map Transfer.payload = s.yielded

theorem read_buffer_clean (id : StreamId) (s : RecState) (h : (recMachine id).Reachable s) :
    (s.pc.reads → CleanRead s) ∧
      s.transfers.map Transfer.payload ++ s.pending = s.yielded := by
  have hyielded := (reachable_recSound h).yielded
  refine ⟨fun hreads => ?_, hyielded.symm⟩
  have hrest : ∀ i, ¬ s.pc.holds i := by
    intro i hholds
    cases hpc : s.pc <;> simp [hpc, RecPc.reads, RecPc.holds] at hreads hholds
  have hpending : s.pending = [] := by
    refine pending_of_not_transferring fun index size isOpen recvAt hpc => ?_
    rw [hpc] at hreads
    exact hreads
  have hslots := ReadBuf.slots_of_empty fun i => reachable_clean h i (hrest i)
  refine ⟨hslots, ?_, ?_⟩
  · unfold ReadBuf.refused
    rw [hslots, List.any_replicate]
    rfl
  · rw [hyielded, hpending, List.append_nil]

/-- A read of two chunks, one that fails, and one the control channel is polled beside. -/
def rereadRun : List RecLabel :=
  [.task (.received (.ok ([[1], [2]], true)) 3), .task .transfer, .task .transfer, .task .transfer,
    .task (.received (.error (.other 0)) 4), .task .receivePending, .task .controlPending]

theorem read_buffer_clean_rereadRun :
    let s := (recMachine ⟨⟨.server, 0⟩, 0⟩).after rereadRun
    s.pc = .select ∧ s.yielded = [[1], [2]] ∧ CleanRead s :=
  have hreach := Machine.reachable_after _ rereadRun
  ⟨rfl, rfl, (read_buffer_clean ⟨⟨.server, 0⟩, 0⟩ _ hreach).1 trivial⟩

end BevyQuic.Stream
