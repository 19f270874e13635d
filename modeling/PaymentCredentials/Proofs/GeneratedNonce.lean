import PaymentCredentials.Message.InitRequest
import PaymentCredentials.Proofs.Base64Text
import PaymentCredentials.Proofs.Results

/-!
Generated nonces. The text of a draw is cut between two groups of digits, so that a nonce is the whole text
of the first bytes of its draw, without padding. The last eight bytes are lost, and nothing else is: every
text of as many digits is the nonce of a draw, and of those draws only that begin with the bytes it spells.
-/
namespace PaymentCredentials

namespace Base64

/-- A character that stands for six bits. The padding is none. -/
def IsDigit (c : Char) : Prop :=
  ('A' ≤ c ∧ c ≤ 'Z') ∨ ('a' ≤ c ∧ c ≤ 'z') ∨ ('0' ≤ c ∧ c ≤ '9') ∨ c = '+' ∨ c = '/'

instance (c : Char) : Decidable (IsDigit c) := inferInstanceAs (Decidable (_ ∨ _))

theorem isDigit_digit {n : UInt8} (h : n < 64) : IsDigit (digit n) :=
  Bytes.forall_lt (by decide) n h

theorem value?_of_isDigit {c : Char} (h : IsDigit c) : ∃ n, value? c = some n := by
  unfold value?
  split
  · exact ⟨_, rfl⟩
  rename_i hupper
  split
  · exact ⟨_, rfl⟩
  rename_i hlower
  split
  · exact ⟨_, rfl⟩
  rename_i hnumeral
  obtain h | h | h | rfl | rfl := h
  · exact absurd h hupper
  · exact absurd h hlower
  · exact absurd h hnumeral
  · exact ⟨62, rfl⟩
  · exact ⟨63, rfl⟩

theorem isDigit_of_mem_digits {b : Bytes} (h : b.length % 3 = 0) {c : Char} (hc : c ∈ digits b) :
    IsDigit c := by
  induction b using digits.induct with
  | case1 => exact absurd hc List.not_mem_nil
  | case2 x => cases h
  | case3 x y => cases h
  | case4 x y z rest ih =>
      have hrest : rest.length % 3 = 0 := by
        simp only [List.length_cons] at h
        omega
      simp only [digits, List.mem_cons] at hc
      obtain rfl | rfl | rfl | rfl | hc := hc
      · exact isDigit_digit (first_lt x)
      · exact isDigit_digit (second_lt x y)
      · exact isDigit_digit (third_lt y z)
      · exact isDigit_digit (fourth_lt z)
      · exact ih hrest hc

/-- Four digits spell three bytes. -/
theorem exists_group {p q r s : Char} (hp : IsDigit p) (hq : IsDigit q) (hr : IsDigit r) (hs : IsDigit s) :
    ∃ b : Bytes, b.length = 3 ∧ digits b = [p, q, r, s] := by
  obtain ⟨x, hx⟩ := value?_of_isDigit hp
  obtain ⟨y, hy⟩ := value?_of_isDigit hq
  obtain ⟨z, hz⟩ := value?_of_isDigit hr
  obtain ⟨w, hw⟩ := value?_of_isDigit hs
  have hpadding : ¬ IsDigit '=' := by decide
  have hr : r ≠ '=' := fun h => hpadding (h ▸ hr)
  have hs : s ≠ '=' := fun h => hpadding (h ▸ hs)
  have hgroup : group? p q r s = some [x <<< 2 ||| y >>> 4, y <<< 4 ||| z >>> 2, z <<< 6 ||| w] := by
    simp only [group?, hx, hy, hz, hw, if_neg hr, if_neg hs, Option.bind_eq_bind, Option.bind_some]
  exact ⟨_, rfl, (digits_of_group? hgroup).1⟩

/-- Whole groups of digits spell a byte string. -/
theorem exists_digits {groups : Nat} {cs : List Char} (hlength : cs.length = 4 * groups)
    (h : ∀ c ∈ cs, IsDigit c) : ∃ b : Bytes, b.length = 3 * groups ∧ digits b = cs := by
  induction groups generalizing cs with
  | zero => exact ⟨[], rfl, (List.length_eq_zero_iff.mp hlength).symm⟩
  | succ groups ih =>
      match cs, hlength with
      | p :: q :: r :: s :: rest, hlength =>
        simp only [List.forall_mem_cons] at h
        obtain ⟨hp, hq, hr, hs, hrest⟩ := h
        obtain ⟨group, hgroup, hfirst⟩ := exists_group hp hq hr hs
        obtain ⟨more, hmore, hrest⟩ := ih (by simp only [List.length_cons] at hlength; omega) hrest
        refine ⟨group ++ more, by rw [List.length_append, hgroup, hmore]; omega, ?_⟩
        rw [digits_append (by rw [hgroup]), hfirst, hrest]
        rfl

/-- The digits of a byte string are cut between two groups where the byte string is. -/
theorem take_digits {groups : Nat} {b : Bytes} (h : 3 * groups ≤ b.length) :
    (digits b).take (4 * groups) = digits (b.take (3 * groups)) := by
  have hlength : (b.take (3 * groups)).length = 3 * groups := by
    rw [List.length_take]
    omega
  have hgroups : (b.take (3 * groups)).length % 3 = 0 := by
    rw [hlength, Nat.mul_mod_right]
  have hdigits : (digits (b.take (3 * groups))).length = 4 * groups := by
    rw [length_digits, hlength]
    omega
  calc (digits b).take (4 * groups)
      = (digits (b.take (3 * groups) ++ b.drop (3 * groups))).take (4 * groups) := by
        rw [List.take_append_drop]
    _ = (digits (b.take (3 * groups)) ++ digits (b.drop (3 * groups))).take (4 * groups) := by
        rw [digits_append hgroups]
    _ = digits (b.take (3 * groups)) := List.take_left' hdigits

end Base64

/-! ### Checking -/

/-- The cause is that a field is missing, or that it is not what it should be. -/
def Invalidity.Concerns (field : RequestField) (cause : Invalidity) : Prop :=
  cause = .missing field ∨ cause = .invalid field

instance (field : RequestField) (cause : Invalidity) : Decidable (cause.Concerns field) :=
  inferInstanceAs (Decidable (_ ∨ _))

theorem Invalidity.concerns_missing_iff {field other : RequestField} :
    (Invalidity.missing other).Concerns field ↔ other = field := by
  simp only [Concerns, missing.injEq, reduceCtorEq, or_false]

theorem Invalidity.concerns_invalid_iff {field other : RequestField} :
    (Invalidity.invalid other).Concerns field ↔ other = field := by
  simp only [Concerns, invalid.injEq, reduceCtorEq, false_or]

namespace InitRequest

/-- The request with another nonce. -/
def withNonce (n : Nonce) (r : InitRequest) : InitRequest :=
  { r with stamp := { r.stamp with nonce := n.value } }

/-- Whatever a check finds fault with, it is not the nonce. -/
def SparesNonce (x : Except Invalidity Unit) : Prop :=
  ∀ cause, x = .error cause → ¬ cause.Concerns .nonce

theorem sparesNonce_ok : SparesNonce (.ok ()) := by
  intro cause h
  cases h

theorem sparesNonce_error {cause : Invalidity} (h : ¬ cause.Concerns .nonce) :
    SparesNonce (.error cause) := by
  rintro _ ⟨⟩
  exact h

theorem sparesNonce_throw {cause : Invalidity} (h : ¬ cause.Concerns .nonce)
    (f : Unit → Except Invalidity Unit) : SparesNonce (throw cause >>= f) :=
  sparesNonce_error h

theorem SparesNonce.bind {x : Except Invalidity Unit} {f : Unit → Except Invalidity Unit}
    (hx : SparesNonce x) (hf : SparesNonce (f ())) : SparesNonce (x >>= f) := by
  intro cause h
  obtain h | ⟨_, -, h⟩ := error_of_bind h
  · exact hx cause h
  · exact hf cause h

theorem sparesNonce_ite {p : Prop} [Decidable p] {x y : Except Invalidity Unit} (hx : p → SparesNonce x)
    (hy : ¬ p → SparesNonce y) : SparesNonce (if p then x else y) := by
  by_cases h : p
  · rw [if_pos h]
    exact hx h
  · rw [if_neg h]
    exact hy h

section

variable {field : RequestField} (h : field ≠ .nonce)

include h

theorem sparesNonce_require (value : String) : SparesNonce (require field value) :=
  sparesNonce_ite (fun _ => sparesNonce_error (Invalidity.concerns_missing_iff.not.mpr h))
    fun _ => sparesNonce_ok

theorem sparesNonce_requireSize (size : Nat) (value : String) : SparesNonce (requireSize field size value) := by
  refine (sparesNonce_require h value).bind ?_
  exact sparesNonce_ite (fun _ => sparesNonce_error (Invalidity.concerns_invalid_iff.not.mpr h))
    fun _ => sparesNonce_ok

theorem sparesNonce_requireForm (form : String → Bool) (value : Option String) :
    SparesNonce (requireForm field form value) := by
  cases value with
  | none => exact sparesNonce_ok
  | some s =>
      exact sparesNonce_ite (fun _ => sparesNonce_ok)
        fun _ => sparesNonce_error (Invalidity.concerns_invalid_iff.not.mpr h)

end

/-- A nonce that is there and short enough is never what is wrong with a request. -/
theorem sparesNonce_check {r : InitRequest} (hfilled : r.stamp.nonce ≠ "")
    (hlength : r.stamp.nonce.utf8ByteSize ≤ Nonce.maxLength) : SparesNonce r.check := by
  have hrequire : SparesNonce (require .nonce r.stamp.nonce) := by
    rw [require, if_neg hfilled]
    exact sparesNonce_ok
  unfold check
  refine (sparesNonce_require (by decide) _).bind ?_
  refine (sparesNonce_require (by decide) _).bind ?_
  refine sparesNonce_ite (fun _ => sparesNonce_throw (by decide) _) fun _ => ?_
  cases r.amount with
  | none => exact sparesNonce_throw (by decide) _
  | some amount =>
      refine sparesNonce_ite (fun _ => sparesNonce_throw (by simp [Invalidity.Concerns]) _) fun _ => ?_
      refine sparesNonce_ite (fun _ => sparesNonce_throw (by decide) _) fun _ => ?_
      refine (sparesNonce_requireSize (by decide) _ _).bind ?_
      refine (sparesNonce_requireSize (by decide) _ _).bind ?_
      refine sparesNonce_ite (fun _ => sparesNonce_throw (by decide) _) fun _ => ?_
      refine hrequire.bind ?_
      refine sparesNonce_ite (fun hlong => absurd hlength (Nat.not_le_of_lt hlong)) fun _ => ?_
      refine (sparesNonce_require (by decide) _).bind ?_
      refine sparesNonce_ite (fun _ => sparesNonce_throw (by decide) _) fun _ => ?_
      refine (sparesNonce_requireForm (by decide) _ _).bind ?_
      refine (sparesNonce_requireForm (by decide) _ _).bind ?_
      exact sparesNonce_requireForm (by decide) _ _

end InitRequest

/-! ### Drawing -/

namespace Nonce

theorem length_take_draw (drawn : Draw maxLength) : (drawn.bytes.take 24).length = 24 := by
  rw [List.length_take, drawn.size]
  rfl

/-- A nonce is the text of the first bytes of its draw. -/
theorem value_ofDraw (drawn : Draw maxLength) :
    (ofDraw drawn.bytes).value = Base64.encode (drawn.bytes.take 24) := by
  have hlength : 3 * 8 ≤ drawn.bytes.length := by
    rw [drawn.size]
    decide
  exact congrArg String.ofList (Base64.take_digits hlength)

theorem ofDraw_eq_iff (drawn other : Draw maxLength) :
    ofDraw drawn.bytes = ofDraw other.bytes ↔ drawn.bytes.take 24 = other.bytes.take 24 := by
  rw [← Base64.encode_inj, ← value_ofDraw, ← value_ofDraw, Nonce.mk.injEq]

theorem length_ofDraw (drawn : Draw maxLength) : (ofDraw drawn.bytes).value.length = 32 := by
  rw [value_ofDraw, Base64.encode, String.length_ofList, Base64.length_digits, length_take_draw]

theorem utf8ByteSize_ofDraw (drawn : Draw maxLength) : (ofDraw drawn.bytes).value.utf8ByteSize = 32 := by
  rw [value_ofDraw, Base64.utf8ByteSize_encode, length_take_draw]

theorem isDigit_of_mem_ofDraw (drawn : Draw maxLength) :
    ∀ c ∈ (ofDraw drawn.bytes).value.toList, Base64.IsDigit c := by
  intro c hc
  rw [value_ofDraw, Base64.encode, String.toList_ofList] at hc
  exact Base64.isDigit_of_mem_digits (by rw [length_take_draw]) hc

/-- Every text of as many digits is the nonce of a draw. -/
theorem exists_draw {n : Nonce} (hlength : n.value.length = 32)
    (h : ∀ c ∈ n.value.toList, Base64.IsDigit c) : ∃ drawn : Draw maxLength, ofDraw drawn.bytes = n := by
  have hgroups : n.value.toList.length = 4 * 8 := by rw [String.length_toList, hlength]
  obtain ⟨b, hb, hdigits⟩ := Base64.exists_digits hgroups h
  let drawn : Draw maxLength := ⟨b ++ List.replicate 8 0, by rw [List.length_append, hb]; rfl⟩
  have hspelled : drawn.bytes.take 24 = b := List.take_left' hb
  have hvalue : (ofDraw drawn.bytes).value = n.value := by
    rw [value_ofDraw, hspelled, Base64.encode, hdigits, String.ofList_toList]
  exact ⟨drawn, congrArg Nonce.mk hvalue⟩

/-- A supply is drawn from at its beginning. -/
theorem generate_append (drawn : Draw maxLength) (rest : Bytes) :
    generate ⟨drawn.bytes ++ rest⟩ = .ok (ofDraw drawn.bytes, ⟨rest⟩) := by
  have hsupply : maxLength ≤ (drawn.bytes ++ rest).length := by
    rw [List.length_append, drawn.size]
    exact Nat.le_add_right _ _
  have hdraw : Entropy.draw maxLength ⟨drawn.bytes ++ rest⟩ = .ok (drawn, ⟨rest⟩) := by
    rw [Entropy.draw, dif_pos hsupply]
    simp only [List.take_left' drawn.size, List.drop_left' drawn.size]
  exact bind_of_ok hdraw _

/-- A generated nonce is there and short enough. -/
theorem not_concerns_nonce (drawn : Draw maxLength) {r : InitRequest} {cause : Invalidity}
    (h : (r.withNonce (ofDraw drawn.bytes)).validate = .error (.invalid cause)) : ¬ cause.Concerns .nonce := by
  have hsize : (ofDraw drawn.bytes).value.utf8ByteSize = maxLength := utf8ByteSize_ofDraw drawn
  have hfilled : (ofDraw drawn.bytes).value ≠ "" := by
    intro hempty
    rw [hempty] at hsize
    cases hsize
  obtain ⟨cause', hcheck, hcause⟩ := error_of_mapError h
  obtain rfl := RequestFault.invalid.inj hcause
  exact InitRequest.sparesNonce_check hfilled (Nat.le_of_eq hsize) cause hcheck

/-- **Generated nonces.** A draw gives a nonce of 32 characters, all of them digits and none of them padding, and
every text of that kind is the nonce of a draw. No request is refused for a nonce that was generated. The nonces of
two draws are the same just in case the draws begin with the same 24 bytes. -/
theorem generated_exactly :
    (∀ (drawn : Draw maxLength) (rest : Bytes),
      generate ⟨drawn.bytes ++ rest⟩ = .ok (ofDraw drawn.bytes, ⟨rest⟩)) ∧
    (∀ n : Nonce, (∃ drawn : Draw maxLength, ofDraw drawn.bytes = n) ↔
      n.value.length = 32 ∧ ∀ c ∈ n.value.toList, Base64.IsDigit c) ∧
    (∀ (drawn : Draw maxLength) (r : InitRequest),
      (r.withNonce (ofDraw drawn.bytes)).validate ≠ .error (.invalid (.missing .nonce)) ∧
        (r.withNonce (ofDraw drawn.bytes)).validate ≠ .error (.invalid (.invalid .nonce))) ∧
    ∀ drawn other : Draw maxLength,
      ofDraw drawn.bytes = ofDraw other.bytes ↔ drawn.bytes.take 24 = other.bytes.take 24 := by
  refine ⟨generate_append, fun n => ⟨?_, fun ⟨hlength, hdigits⟩ => exists_draw hlength hdigits⟩,
    fun drawn r => ?_, ofDraw_eq_iff⟩
  · rintro ⟨drawn, rfl⟩
    exact ⟨length_ofDraw drawn, isDigit_of_mem_ofDraw drawn⟩
  · exact ⟨fun h => not_concerns_nonce drawn h (Or.inl rfl), fun h => not_concerns_nonce drawn h (Or.inr rfl)⟩

end Nonce

end PaymentCredentials
