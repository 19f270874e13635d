import PaymentCredentials.Proofs.MemberGrammar
import PaymentCredentials.Proofs.WrittenBlocks

/-!
Compressed texts read back. The stream of a text spells it, so that a compressed text is a member that holds it, which
decompression reads within its limit and refuses above it.
-/
namespace PaymentCredentials

namespace Gzip

/-- The header without name, time or comment. -/
def Header.plain : Header where
  isText := false
  origin := [0, 0, 0, 0, 0, 255]
  parts := ⟨none, none, none, nofun, nofun, nofun⟩
  summed := false
  origin_length := rfl

theorem Header.bytes_plain : Header.plain.bytes = header := by decide

theorem compress_eq (text : Bytes) : compress text = header ++ (Deflate.deflate text ++ trailer text) := by
  simp only [compress, trailer, List.append_assoc]

/-- A compressed text is a member that holds it. -/
theorem holds_compress (far : Prop) (text : Bytes) : Holds far (compress text) text := by
  obtain ⟨s, hspells, hrest⟩ := Deflate.spells_deflate far text
  refine ⟨Header.plain, Deflate.deflate text ++ trailer text, [], s.extend (trailer text), ?_,
    hspells.extend (trailer text), ?_⟩
  · rw [Header.bytes_plain, compress_eq]
  · rw [Deflate.Bits.extend, hrest, List.nil_append, List.append_nil]

/-- **Gzip reads back.** A compressed text is decompressed to itself if it is within the limit, and is
refused as too long if it is not. -/
theorem decompress_compress (limit : Nat) (text : Bytes) :
    decompress limit (compress text) =
      if text.length ≤ limit then .ok text else .error .exceedsLimit :=
  (holds_compress True text).decompress_eq limit

end Gzip

end PaymentCredentials
