import RemoteStub.Target
import RemoteStub.Proofs.Frame
import RemoteStub.Proofs.Text.Utf8

/-!
# Answers that can travel

A target whose text answers hold no `#` gives only answers that a client reads back
(`HashFree.packetEnd_not_mem_answer`): the data of a transfer is escaped.
-/

namespace RemoteStub.Target

variable {σ : Type}

/-- No text that answers a query holds a `#`. The data of a transfer may be any bytes. -/
def HashFree (t : Target σ) : Prop :=
  ∀ q s, q.family ≠ .transfer → Wire.packetEnd ∉ ((t.answer q).run s).1

theorem packetEnd_not_mem_payload (c : Chunk) : Wire.packetEnd ∉ c.payload := by
  unfold Chunk.payload
  rw [List.mem_cons, not_or]
  refine ⟨?_, packetEnd_not_mem_escape c.data⟩
  split <;> decide

theorem HashFree.packetEnd_not_mem_answer {t : Target σ} (h : t.HashFree) (q : Query) (s : σ) :
    Wire.packetEnd ∉ ((t.answer q).run s).1 := by
  by_cases hq : q.family = .transfer
  · cases q with
    | transfer object annex offset length =>
      rw [answer, StateT.run_bind]
      generalize (t.transfer object annex offset length).run s = result
      match result with
      | (some chunk, _) => exact packetEnd_not_mem_payload chunk
      | (none, _) => exact List.not_mem_nil
    | _ => cases hq
  · exact h q s hq

theorem fst_answer_transfer {t : Target σ} {object annex : Text} {offset length : UInt64} {s : σ}
    {chunk : Chunk} (h : ((t.transfer object annex offset length).run s).1 = some chunk) :
    ((t.answer (.transfer object annex offset length)).run s).1 = chunk.payload := by
  rw [answer, StateT.run_bind]
  generalize (t.transfer object annex offset length).run s = result at h
  obtain ⟨_, s'⟩ := result
  cases h
  rfl

/-- How objects are transferred plays no part. -/
theorem HashFree.with_transfer {t : Target σ} (h : t.HashFree)
    (f : Text → Text → UInt64 → UInt64 → StateM σ (Option Chunk)) :
    { t with transfer := f }.HashFree := by
  intro q s hq
  cases q with
  | transfer object annex offset length => exact absurd rfl hq
  | _ => exact h _ s hq

theorem hashFree_default : ({} : Target Unit).HashFree := by
  intro q s hq
  have hzeros : ∀ n, '#' ∉ (List.replicate n "00".toList).flatten := by
    intro n h
    obtain ⟨t, ht, hmem⟩ := List.mem_flatten.mp h
    rw [List.eq_of_mem_replicate ht] at hmem
    revert hmem
    decide
  cases q with
  | readRegisters => exact Text.packetEnd_not_mem_toBytes (by decide)
  | readMemory address length => exact Text.packetEnd_not_mem_toBytes (hzeros length.toNat)
  | transfer object annex offset length => exact absurd rfl hq
  | _ => exact Text.packetEnd_not_mem_toBytes (by decide)

end RemoteStub.Target
