import Diagnostics.Disk.Backlog

/-!
# What is kept back on a full device

A write to a text file does one of four things, according to what is kept back and how much is
added: the four equations of `Backlog.write` say which. So of two texts it is a matter of their
lengths whether a write is refused with nothing left, or the closing of the file
(`Backlog.refusesWrite_pair_iff`).
-/

set_option autoImplicit false

namespace Diagnostics

namespace Backlog

theorem blockSize_lt_chunkSize : blockSize < chunkSize := by decide

section

variable {kept : Backlog} {octets : Nat}

/-- Less than a chunk is kept back. -/
theorem write_of_lt (h : kept.texts + octets < chunkSize) :
    kept.write octets = (true, ⟨kept.texts + octets, kept.buffer⟩) := by
  unfold write
  rw [if_neg (by omega)]
  dsimp only [Bool.not_true]
  rw [if_neg (by decide), if_neg (by omega)]

/-- A chunk that the text completes is too large for the buffer. -/
theorem write_of_completes (hoctets : octets < chunkSize) (h : chunkSize ≤ kept.texts + octets) :
    kept.write octets = (false, ⟨0, kept.buffer⟩) := by
  have hsizes := blockSize_lt_chunkSize
  unfold write
  rw [if_neg (by omega)]
  dsimp only [Bool.not_true]
  rw [if_neg (by decide), if_pos h]
  exact if_neg (by dsimp only; omega)

/-- What was collected before a chunk fits in the buffer, and the chunk does not. -/
theorem write_of_chunk (hoctets : chunkSize ≤ octets) (h : kept.texts + kept.buffer ≤ blockSize) :
    kept.write octets = (false, ⟨0, kept.texts + kept.buffer⟩) := by
  have hsizes := blockSize_lt_chunkSize
  have hfits : kept.handOver = (true, ⟨0, kept.texts + kept.buffer⟩) := if_pos h
  unfold write
  rw [if_pos hoctets, hfits]
  dsimp only [Bool.not_true]
  rw [if_neg (by decide), if_pos (by omega)]
  exact if_neg (by dsimp only; omega)

/-- What was collected before a chunk does not fit either. -/
theorem write_of_overflow (hoctets : chunkSize ≤ octets)
    (h : blockSize < kept.texts + kept.buffer) :
    kept.write octets = (false, ⟨0, kept.buffer⟩) := by
  have hlost : kept.handOver = (false, ⟨0, kept.buffer⟩) := if_neg (by omega)
  unfold write
  rw [if_pos hoctets, hlost]
  rfl

end

/-- A write that finds nothing in the buffer is refused and leaves nothing if the text is a chunk,
and what was collected before it nothing or more than a block, or if the text completes a chunk. -/
theorem write_eq_refused_iff {texts octets : Nat} :
    (⟨texts, 0⟩ : Backlog).write octets = (false, empty) ↔
      if chunkSize ≤ octets then texts = 0 ∨ blockSize < texts
      else chunkSize ≤ texts + octets := by
  split
  · rename_i hchunk
    by_cases hblock : texts ≤ blockSize
    · rw [@write_of_chunk ⟨texts, 0⟩ octets hchunk hblock]
      simp [empty, Nat.not_lt.mpr hblock]
    · rw [@write_of_overflow ⟨texts, 0⟩ octets hchunk (Nat.not_le.mp hblock)]
      simp [empty, Nat.not_le.mp hblock]
  · rename_i hchunk
    by_cases hcomplete : chunkSize ≤ texts + octets
    · rw [write_of_completes (Nat.not_le.mp hchunk) hcomplete]
      simp [empty, hcomplete]
    · rw [write_of_lt (Nat.not_le.mp hcomplete)]
      simp [hcomplete]

theorem refusesWrite_iff {texts : List Text} :
    refusesWrite texts = true ↔ empty.writeAll texts = (false, empty) := by
  unfold refusesWrite
  cases empty.writeAll texts with
  | mk taken kept => cases taken <;> simp

/-- **Which refusal is told** of two texts. A write leaves nothing that closing the file would be
refused for if the first text is a chunk; if the second is a chunk, and the first more than a block
or nothing; or if only both together are a chunk. -/
theorem refusesWrite_pair_iff {s t : Text} :
    refusesWrite [s, t] = true ↔ ∃ first, Text.Utf8.encode s = .ok first ∧
      (chunkSize ≤ first.length ∨ ∃ second, Text.Utf8.encode t = .ok second ∧
        if chunkSize ≤ second.length then first.length = 0 ∨ blockSize < first.length
        else chunkSize ≤ first.length + second.length) := by
  rw [refusesWrite_iff, writeAll]
  cases hs : Text.Utf8.encode s with
  | error e => simp
  | ok first =>
    dsimp only
    by_cases hchunk : chunkSize ≤ first.length
    · have hrefused : empty.write first.length = (false, empty) :=
        write_eq_refused_iff.mpr (by rw [if_pos hchunk]; exact Or.inl rfl)
      rw [hrefused]
      simp [hchunk]
    · have hkept : empty.write first.length = (true, ⟨first.length, 0⟩) := by
        rw [write_of_lt (show 0 + first.length < chunkSize by omega)]
        exact congrArg (fun n => (true, Backlog.mk n 0)) (Nat.zero_add _)
      rw [hkept]
      dsimp only
      rw [writeAll]
      cases ht : Text.Utf8.encode t with
      | error e => simp [hchunk]
      | ok second =>
        have hwrite := @write_eq_refused_iff first.length second.length
        dsimp only
        cases hsecond : (⟨first.length, 0⟩ : Backlog).write second.length with
        | mk taken kept =>
          rw [hsecond] at hwrite
          cases taken with
          | true => simpa [writeAll, hchunk] using hwrite
          | false => simpa [hchunk] using hwrite

end Backlog

end Diagnostics
