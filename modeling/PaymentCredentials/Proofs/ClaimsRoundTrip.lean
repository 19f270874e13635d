import PaymentCredentials.Claims
import PaymentCredentials.Proofs.GzipRoundTrip
import PaymentCredentials.Proofs.JsonText

/-!
Claims read back from their compressed text. There are two bounds on the way: the length of the text, and
how deeply its values nest.
-/
namespace PaymentCredentials.Claims

/-- The text of claims. -/
def text (c : Claims) : Bytes := c.toJson.compact

/-- All numbers in the claims are integers. -/
def Integral (c : Claims) : Prop := c.toJson.integral = true

/-- How many arrays and objects are around each other in claims, the object that they are themselves
among them. -/
def nesting (c : Claims) : Nat := c.toJson.nesting

theorem read_written {c : Claims} (h : c.Integral) :
    read c.toJson.written = if c.nesting ≤ Json.maxDepth then .ok c else .error .malformed := by
  have hintegral : Json.integralMembers c.members = true := h
  have hmembers := Json.toJsonMembers_written hintegral c.ordered (Json.maxDepth - 1) []
    fun _ he => absurd he List.not_mem_nil
  have hnesting : c.nesting ≤ Json.maxDepth ↔ Json.nestingMembers c.members ≤ Json.maxDepth - 1 := by
    rw [nesting, toJson, Json.nesting, Json.maxDepth]
    omega
  rw [toJson, Json.written, read]
  split
  · rename_i members hread
    rw [hread] at hmembers
    by_cases hdepth : Json.nestingMembers c.members ≤ Json.maxDepth - 1
    · rw [if_pos hdepth, List.nil_append] at hmembers
      obtain rfl := Except.ok.inj hmembers
      rw [if_pos (hnesting.mpr hdepth)]
      rfl
    · rw [if_neg hdepth] at hmembers
      cases hmembers
  · rename_i problem hread
    rw [hread] at hmembers
    by_cases hdepth : Json.nestingMembers c.members ≤ Json.maxDepth - 1
    · rw [if_pos hdepth] at hmembers
      cases hmembers
    · rw [if_neg hdepth] at hmembers
      rw [if_neg fun hc => hdepth (hnesting.mp hc), Except.error.inj hmembers]

theorem decode_text {c : Claims} (h : c.Integral) :
    Json.decode read c.text = if c.nesting ≤ Json.maxDepth then .ok c else .error .malformed := by
  rw [text, Json.decode_compact read h, read_written h]

/-- **Claims read back.** Compressed claims are decompressed to themselves if their text is within the
limit and nests no deeper than texts are read. -/
theorem decompress_compress {c : Claims} (h : c.Integral) (limit : Nat) :
    decompress limit c.compress =
      if limit < c.text.length then .error (.compression (.gzip .exceedsLimit))
      else if c.nesting ≤ Json.maxDepth then .ok c
      else .error (.serialization (.json .malformed)) := by
  have hgzip := Gzip.decompress_compress limit c.text
  rw [decompress, compress, ← text, hgzip]
  by_cases hlimit : limit < c.text.length
  · rw [if_pos hlimit, if_neg (Nat.not_le_of_lt hlimit)]
    rfl
  rw [if_neg hlimit, if_pos (Nat.le_of_not_lt hlimit)]
  refine (bind_of_ok rfl _).trans ?_
  rw [decode_text h]
  split <;> rfl

theorem compress_ne_nil (c : Claims) : c.compress ≠ [] := by
  rw [compress, Gzip.compress_eq, Gzip.header, List.cons_append]
  exact List.cons_ne_nil _ _

end PaymentCredentials.Claims
