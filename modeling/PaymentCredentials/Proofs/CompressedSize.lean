import PaymentCredentials.Proofs.GzipRoundTrip

/-!
How large compressed texts can be. A block whose codes save nothing is stored, so a text that fills one
block grows by no more than the headers around it, whatever its pieces and their codes are.
-/
namespace PaymentCredentials.Deflate

theorem length_bytesOfBits : ∀ bits : List Bool, (bytesOfBits bits).length = (bits.length + 7) / 8
  | [] | [_] | [_, _] | [_, _, _] | [_, _, _, _] | [_, _, _, _, _] | [_, _, _, _, _, _]
  | [_, _, _, _, _, _, _] => by simp [bytesOfBits]
  | a :: b :: c :: d :: e :: f :: g :: h :: rest => by
      rw [bytesOfBits, List.length_cons, length_bytesOfBits rest]
      simp only [List.length_cons]
      omega

theorem room_foldl_add (group : List Piece) (f : Filling) :
    (group.foldl Filling.add f).room ≤ f.room + 4 * group.length := by
  induction group generalizing f with
  | nil => exact Nat.le_refl _
  | cons p group ih =>
      have hroom : (f.add p).room ≤ f.room + 4 := by
        cases p <;> simp only [Filling.add] <;> split <;> omega
      have hrest := ih (f.add p)
      rw [List.foldl_cons, List.length_cons]
      omega

/-- A block with this much room is not full, however many bytes its copies stand for. -/
def spareRoom : Nat := 31744

theorem not_full {f : Filling} (h : f.room ≤ spareRoom) : f.full = false := by
  rw [spareRoom] at h
  have hroom : ¬ 65528 < f.room := by omega
  have hbytes : ¬ (31744 < f.bytes ∧ f.bytes ≤ f.room * 115 / 128) := by omega
  simp only [Filling.full, Bool.or_eq_false_iff, Bool.and_eq_false_iff, decide_eq_false_iff_not]
  exact ⟨hroom, by omega⟩

theorem splitBlocks_of_room {filling : Filling} {block : List Piece} {groups : List (List Piece)}
    (h : filling.room + 4 * groups.flatten.length ≤ spareRoom) :
    splitBlocks filling block groups =
      [(filling.bytes + spans groups.flatten, block.reverse ++ groups.flatten)] := by
  induction groups generalizing filling block with
  | nil =>
      rw [splitBlocks, List.flatten_nil, spans, List.append_nil]
      rfl
  | cons group rest ih =>
      have hroom := room_foldl_add group filling
      rw [List.flatten_cons, List.length_append] at h
      have hspare : (group.foldl Filling.add filling).full = false := not_full (by omega)
      rw [splitBlocks, hspare, if_neg Bool.false_ne_true, ih (by omega), bytes_foldl_add, List.flatten_cons,
        spans_append, List.reverse_append, List.reverse_reverse, List.append_assoc, Nat.add_assoc]

/-- A block at a byte boundary is no longer than its text and a header of five bytes. -/
theorem length_blockBits_le (last : Bool) {text : Bytes} (pieces : List Piece)
    (hleast : mostUnstored < text.length) (hreach : text.length ≤ reach) :
    (blockBits 0 last text pieces).length ≤ 8 * text.length + 40 := by
  rw [blockBits, List.length_cons]
  generalize (if text.length < leastDynamic then fixedBits pieces else dynamicBits pieces) = coded
  split
  · simp only [storedBits, List.length_append, List.length_replicate, length_flatMap_bitsOfByte,
      Bytes.length_ofNatLE]
    omega
  · rename_i huseful
    have hshort : ¬ text.length ≤ (0 + 1 + coded.length) / 8 - (0 + 1) / 8 + 1 := fun h =>
      huseful ⟨hleast, h, hreach⟩
    omega

/-- The longest text that fills one block in any case. -/
def oneBlock : Nat := 1983

theorem length_deflate_le {text : Bytes} (hleast : mostUnstored + 1 < text.length)
    (hmost : text.length ≤ oneBlock) : (deflate text).length ≤ text.length + 5 := by
  have hextends := extends_groups text.toArray
  have hspans : spans (groups text.toArray).flatten = text.length := by
    have hsize := hextends.size_eq
    rwa [List.size_toArray, Array.size_empty, Nat.zero_add, eq_comm] at hsize
  have hspare : (Filling.mk 0 0 1).room + 4 * (groups text.toArray).flatten.length ≤ spareRoom := by
    have hpieces := hextends.length_le
    rw [oneBlock] at hmost
    simp only [spareRoom]
    omega
  have hsplit : splitBlocks ⟨0, 0, 1⟩ [] (groups text.toArray) =
      [(text.length, (groups text.toArray).flatten)] := by
    rw [splitBlocks_of_room hspare, Nat.zero_add, hspans]
    rfl
  have hblock := length_blockBits_le true (groups text.toArray).flatten (Nat.lt_of_succ_lt hleast)
    (Nat.le_trans hmost (by decide))
  rw [deflate, hsplit, length_bytesOfBits, blocksBits, blocksBits, List.append_nil, List.isEmpty_nil,
    List.take_length]
  omega

end PaymentCredentials.Deflate

namespace PaymentCredentials.Gzip

/-- **Compressed texts are hardly longer.** A text of one block grows by five bytes at most, and by the
header and the trailer of its member. -/
theorem length_compress_le {text : Bytes} (hleast : Deflate.mostUnstored + 1 < text.length)
    (hmost : text.length ≤ Deflate.oneBlock) : (compress text).length ≤ text.length + 23 := by
  have hdeflate := Deflate.length_deflate_le hleast hmost
  simp only [compress, header, List.length_append, List.length_cons, List.length_nil, Bytes.length_ofNatLE]
  omega

end PaymentCredentials.Gzip
