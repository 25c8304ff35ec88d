import PipeBus.Pipe.Output

/-! How a write is cut. The runs that bytes are cut into are never empty, never longer than
asked for, and put together again they are the bytes. -/

namespace PipeBus

namespace Bytes

theorem flatten_chunks (size : Nat) (bytes : Bytes) : (bytes.chunks size).flatten = bytes := by
  fun_induction Bytes.chunks size bytes with
  | case1 bytes empty => exact (List.length_eq_zero_iff.mp empty).symm
  | case2 bytes _ ih => rw [List.flatten_cons, ih, List.take_append_drop]

theorem length_of_mem_chunks {size : Nat} {bytes chunk : Bytes}
    (member : chunk ∈ bytes.chunks size) : chunk ≠ [] ∧ chunk.length ≤ max size 1 := by
  fun_induction Bytes.chunks size bytes with
  | case1 => cases member
  | case2 bytes filled ih =>
    rcases List.mem_cons.mp member with rfl | later
    · refine ⟨?_, by rw [List.length_take]; omega⟩
      rw [← List.length_pos_iff, List.length_take]
      omega
    · exact ih later

end Bytes

namespace OutputPipe

theorem length_of_mem_pieces {data chunk : Bytes} (member : chunk ∈ pieces data) :
    chunk.length ≤ maxPacketData := by
  unfold pieces at member
  split at member
  · rw [List.mem_singleton.mp member]
    decide
  · exact (Bytes.length_of_mem_chunks member).2

theorem ne_nil_of_mem_pieces {data chunk : Bytes} (filled : data ≠ [])
    (member : chunk ∈ pieces data) : chunk ≠ [] := by
  unfold pieces at member
  rw [if_neg (by simpa using filled)] at member
  exact (Bytes.length_of_mem_chunks member).1

theorem pieces_of_short {data : Bytes} (filled : data ≠ []) (short : data.length ≤ maxPacketData) :
    pieces data = [data] := by
  have positive := List.length_pos_iff.mpr filled
  rw [pieces, if_neg (by simpa using filled), Bytes.chunks, if_neg (Nat.ne_of_gt positive),
    List.take_of_length_le (by omega), List.drop_of_length_le (by omega), Bytes.chunks]
  rfl

theorem flatten_pieces (data : Bytes) : (pieces data).flatten = data := by
  unfold pieces
  split
  · rename_i empty
    rw [List.isEmpty_iff.mp empty]
    rfl
  · exact Bytes.flatten_chunks maxPacketData data

end OutputPipe

end PipeBus
