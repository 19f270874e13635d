import PaymentCredentials.Proofs.ClaimsRoundTrip
import PaymentCredentials.Proofs.DocumentBytes
import PaymentCredentials.Proofs.GzipRoundTrip

/-!
Decompression of claims within a limit. What a member holds does not depend on the limit: the limit only says
whether that text is read or refused, and a text that is refused is not looked at as JSON.
-/
namespace PaymentCredentials

namespace Claims

section

variable {far : Prop} {limit : Nat} {b text : Bytes} {c : Claims}

/-- A text of claims that is read is held by a member, and no copy of its stream begins in front of it. -/
theorem read_iff_held : Gzip.decompress limit b = .ok text ∧ Json.decode read text = .ok c ↔
    Gzip.Holds far b text ∧ text.length ≤ limit ∧ Json.decode read text = .ok c := by
  constructor
  · rintro ⟨htext, hdecode⟩
    obtain ⟨hholds, hlimit⟩ := Gzip.decompress_eq_ok_iff.mp htext
    exact ⟨hholds.near (zero_not_mem_of_decode hdecode), hlimit, hdecode⟩
  · rintro ⟨hholds, hlimit, hdecode⟩
    exact ⟨(hholds.decompress_eq limit).trans (if_pos hlimit), hdecode⟩

theorem decompress_eq_ok_iff : decompress limit b = .ok c ↔
    ∃ text, Gzip.Holds far b text ∧ text.length ≤ limit ∧ Json.decode read text = .ok c := by
  constructor
  · intro h
    obtain ⟨text, htext, hdecode⟩ := ok_of_bind h
    exact ⟨text, read_iff_held.mp ⟨ok_of_mapError htext, ok_of_mapError hdecode⟩⟩
  · rintro ⟨text, hheld⟩
    obtain ⟨htext, hdecode⟩ := read_iff_held.mpr hheld
    rw [decompress, htext]
    refine (bind_of_ok rfl _).trans ?_
    rw [hdecode]
    rfl

/-- A text above the limit is refused as it is, whether or not it is one of claims. -/
theorem decompress_of_lt (h : Gzip.Holds far b text) (hlimit : limit < text.length) :
    decompress limit b = .error (.compression (.gzip .exceedsLimit)) := by
  rw [decompress, h.decompress_eq limit, if_neg (Nat.not_le_of_lt hlimit)]
  rfl

end

end Claims

end PaymentCredentials
