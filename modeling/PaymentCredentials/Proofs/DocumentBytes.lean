import PaymentCredentials.Claims
import PaymentCredentials.Proofs.Results

/-!
The bytes of documents. A token is made of bytes other than zero, and so are the blanks in front of it: where a zero
stands, the tokens end in a fault. Reading that meets a fault comes to a document with something behind it, or to one
that is no whole object.
-/
namespace PaymentCredentials.Json

/-! ### Tokens -/

/-- The second byte string is what is left of the first one behind bytes other than zero. -/
inductive Passes : Bytes → Bytes → Prop
  | refl (b : Bytes) : Passes b b
  | cons {x : UInt8} {b rest : Bytes} (hx : x ≠ 0) (h : Passes b rest) : Passes (x :: b) rest

theorem Passes.trans {a b c : Bytes} (h : Passes a b) (h' : Passes b c) : Passes a c := by
  induction h with
  | refl b => exact h'
  | cons hx h ih => exact .cons hx (ih h')

theorem Passes.length_le {b rest : Bytes} (h : Passes b rest) : rest.length ≤ b.length := by
  induction h with
  | refl b => exact Nat.le_refl _
  | cons hx h ih => exact Nat.le_succ_of_le ih

theorem Passes.zero_mem {b rest : Bytes} (h : Passes b rest) (hzero : 0 ∈ b) : 0 ∈ rest := by
  induction h with
  | refl b => exact hzero
  | cons hx h ih => exact ih ((List.mem_cons.mp hzero).resolve_left fun heq => hx heq.symm)

theorem passes_dropWhile {p : UInt8 → Bool} (hp : ∀ x, p x = true → x ≠ 0) (b : Bytes) : Passes b (b.dropWhile p) := by
  induction b with
  | nil => exact .refl []
  | cons x b ih =>
      rw [List.dropWhile_cons]
      split
      · rename_i hx
        exact .cons (hp x hx) ih
      · exact .refl (x :: b)

theorem ne_zero_of_isDigitByte (x : UInt8) (h : isDigitByte x = true) : x ≠ 0 := by
  rintro rfl
  cases h

theorem ne_zero_of_isBlankByte (x : UInt8) (h : isBlankByte x = true) : x ≠ 0 := by
  rintro rfl
  cases h

theorem ne_zero_of_hexValue? {x : UInt8} {v : Nat} (h : hexValue? x = some v) : x ≠ 0 := by
  rintro rfl
  cases h

theorem ne_zero_of_escapedByte? {x y : UInt8} (h : escapedByte? x = some y) : x ≠ 0 := by
  rintro rfl
  cases h

theorem passes_readString {b rest : Bytes} {s : RawText} (h : readString b = some (s, rest)) : Passes b rest := by
  fun_induction readString b generalizing s with
  | case1 => cases h
  | case2 rest =>
      cases h
      exact .cons (by decide) (.refl _)
  | case3 a b c d behind ih =>
      obtain ⟨p, ha, h⟩ := Option.bind_eq_some_iff.mp h
      obtain ⟨q, hb, h⟩ := Option.bind_eq_some_iff.mp h
      obtain ⟨r, hc, h⟩ := Option.bind_eq_some_iff.mp h
      obtain ⟨t, hd, h⟩ := Option.bind_eq_some_iff.mp h
      obtain ⟨⟨more, _⟩, hmore, h⟩ := Option.bind_eq_some_iff.mp h
      cases h
      exact .cons (by decide) <| .cons (by decide) <| .cons (ne_zero_of_hexValue? ha) <|
        .cons (ne_zero_of_hexValue? hb) <| .cons (ne_zero_of_hexValue? hc) <| .cons (ne_zero_of_hexValue? hd) <|
          ih hmore
  | case4 e behind hunicode ih =>
      obtain ⟨x, he, h⟩ := Option.bind_eq_some_iff.mp h
      obtain ⟨⟨more, _⟩, hmore, h⟩ := Option.bind_eq_some_iff.mp h
      cases h
      exact .cons (by decide) (.cons (ne_zero_of_escapedByte? he) (ih hmore))
  | case5 => cases h
  | case6 x behind hquote hunicode hescape hplain ih =>
      obtain ⟨⟨more, _⟩, hmore, h⟩ := Option.bind_eq_some_iff.mp h
      cases h
      refine .cons ?_ (ih hmore)
      rintro rfl
      exact hplain (Or.inl (by decide))

/-- The same, with one byte at the least. -/
def Takes (b rest : Bytes) : Prop := ∃ x behind, b = x :: behind ∧ x ≠ 0 ∧ Passes behind rest

theorem Takes.passes {b rest : Bytes} (h : Takes b rest) : Passes b rest := by
  obtain ⟨x, behind, rfl, hx, hpasses⟩ := h
  exact .cons hx hpasses

theorem Takes.trans {a b c : Bytes} (h : Takes a b) (h' : Passes b c) : Takes a c := by
  obtain ⟨x, behind, rfl, hx, hpasses⟩ := h
  exact ⟨x, behind, rfl, hx, hpasses.trans h'⟩

theorem takes_readDigits {b rest : Bytes} {ds : List Nat} (h : readDigits b = some (ds, rest)) : Takes b rest := by
  unfold readDigits at h
  split at h
  · cases h
  rename_i hdigits
  cases h
  cases b with
  | nil => exact absurd List.takeWhile_nil hdigits
  | cons x b =>
      have hx : isDigitByte x = true := Decidable.byContradiction fun hx => hdigits (List.takeWhile_cons_of_neg hx)
      rw [List.dropWhile_cons_of_pos hx]
      exact ⟨x, b, rfl, ne_zero_of_isDigitByte x hx, passes_dropWhile ne_zero_of_isDigitByte b⟩

theorem passes_readExponent {b rest : Bytes} {e : Bool × List Nat} (h : readExponent b = some (e, rest)) :
    Passes b rest := by
  obtain ⟨⟨ds, _⟩, hdigits, h⟩ := Option.bind_eq_some_iff.mp h
  cases h
  have hpasses := (takes_readDigits hdigits).passes
  split at hpasses
  · exact .cons (by decide) hpasses
  · exact .cons (by decide) hpasses
  · exact hpasses

/-- The end of a numeral: an exponent, if there is one. -/
theorem passes_power (numeral : Option (Bool × List Nat) → Numeral) {b rest : Bytes} {n : Numeral}
    (h : (match b with
      | 0x65 :: more => do
        let power ← (readExponent more).map fun r => (some r.1, r.2)
        pure (numeral power.1, power.2)
      | 0x45 :: more => do
        let power ← (readExponent more).map fun r => (some r.1, r.2)
        pure (numeral power.1, power.2)
      | _ => do
        let power ← some (none, b)
        pure (numeral power.1, power.2)) = some (n, rest)) : Passes b rest := by
  have hexponent : ∀ {x : UInt8} {more : Bytes}, x ≠ 0 → (do
      let power ← (readExponent more).map fun r => (some r.1, r.2)
      pure (numeral power.1, power.2)) = some (n, rest) → Passes (x :: more) rest := by
    intro x more hx h
    obtain ⟨power, hpower, h⟩ := Option.bind_eq_some_iff.mp h
    obtain ⟨⟨e, _⟩, he, rfl⟩ := Option.map_eq_some_iff.mp hpower
    cases h
    exact .cons hx (passes_readExponent he)
  split at h
  · exact hexponent (by decide) h
  · exact hexponent (by decide) h
  · cases h
    exact .refl b

theorem takes_readUnsigned {negative : Bool} {b rest : Bytes} {n : Numeral}
    (h : readUnsigned negative b = some (n, rest)) : Takes b rest := by
  obtain ⟨⟨whole, behind⟩, hwhole, h⟩ := Option.bind_eq_some_iff.mp h
  refine (takes_readDigits hwhole).trans ?_
  dsimp only at h
  split at h
  · cases h
  split at h
  · rename_i more
    obtain ⟨part, hpart, h⟩ := Option.bind_eq_some_iff.mp h
    obtain ⟨⟨ds, _⟩, hdigits, rfl⟩ := Option.map_eq_some_iff.mp hpart
    have hpower := passes_power (fun power => ⟨negative, whole, some ds, power⟩) h
    exact .cons (by decide) ((takes_readDigits hdigits).passes.trans hpower)
  · exact passes_power (fun power => ⟨negative, whole, none, power⟩) h

theorem takes_nextToken {b rest : Bytes} {t : Token} (h : nextToken b = some (t, rest)) : Takes b rest := by
  have hsign : ∀ {x : UInt8} {behind : Bytes}, x ≠ 0 → Passes behind rest → Takes (x :: behind) rest :=
    fun hx hpasses => ⟨_, _, rfl, hx, hpasses⟩
  unfold nextToken at h
  split at h
  · cases h
  -- The brackets, the colon and the comma.
  iterate 6
    · cases h
      exact hsign (by decide) (.refl _)
  -- The literals.
  · cases h
    exact hsign (by decide) (.cons (by decide) <| .cons (by decide) <| .cons (by decide) (.refl _))
  · cases h
    exact hsign (by decide) (.cons (by decide) <| .cons (by decide) <| .cons (by decide) (.refl _))
  · cases h
    exact hsign (by decide)
      (.cons (by decide) <| .cons (by decide) <| .cons (by decide) <| .cons (by decide) (.refl _))
  · obtain ⟨⟨s, _⟩, hs, h⟩ := Option.map_eq_some_iff.mp h
    cases h
    exact hsign (by decide) (passes_readString hs)
  · obtain ⟨⟨n, _⟩, hn, h⟩ := Option.map_eq_some_iff.mp h
    cases h
    exact hsign (by decide) (takes_readUnsigned hn).passes
  · obtain ⟨⟨n, _⟩, hn, h⟩ := Option.map_eq_some_iff.mp h
    cases h
    exact takes_readUnsigned hn

/-- Where a zero stands, there is no token. -/
theorem fault_mem_tokensFrom {fuel : Nat} {b : Bytes} (hlength : b.length ≤ fuel) (hzero : 0 ∈ b) :
    .fault ∈ tokensFrom fuel b := by
  induction fuel generalizing b with
  | zero =>
      obtain rfl := List.length_eq_zero_iff.mp (Nat.le_zero.mp hlength)
      cases hzero
  | succ fuel ih =>
      have hblanks := passes_dropWhile ne_zero_of_isBlankByte b
      have hleft := hblanks.zero_mem hzero
      have hsize := hblanks.length_le
      rw [tokensFrom]
      split
      · rename_i hnone
        rw [hnone] at hleft
        cases hleft
      rename_i c rest hsome
      rw [hsome] at hleft hsize
      rw [List.length_cons] at hsize
      split
      · exact List.mem_singleton.mpr rfl
      rename_i t behind hnext
      obtain ⟨_, _, ⟨⟩, hc, hpasses⟩ := takes_nextToken hnext
      have hshorter := hpasses.length_le
      have hbehind := hpasses.zero_mem ((List.mem_cons.mp hleft).resolve_left fun heq => hc heq.symm)
      exact List.mem_cons_of_mem t (ih (by omega) hbehind)

theorem fault_mem_tokens {b : Bytes} (hzero : 0 ∈ b) : .fault ∈ tokens b :=
  fault_mem_tokensFrom (Nat.le_refl b.length) hzero

/-! ### Documents -/

/-- The draft is not that of a whole object. -/
def Draft.Cut (d : Draft) : Prop := ∀ members, d ≠ .object members true

theorem cut_abandon {d : Draft} (hd : d.Cut) (around : List Frame) : (abandon d around).Cut := by
  induction around generalizing d with
  | nil => exact hd
  | cons frame around ih =>
      cases frame with
      | array items => exact ih nofun
      | object members key => exact ih nofun

/-- Something follows the document, or it is no whole object. -/
def Document.Spoiled (document : Document) : Prop := document.trailing = true ∨ document.root.Cut

/-- Where reading has stopped, the document is spoiled. -/
def Reading.Sound (r : Reading) : Prop := ∀ document, r = .stopped document → document.Spoiled

theorem sound_stop {d : Draft} (hd : d.Cut) (around : List Frame) : (Reading.stop d around).Sound := by
  rintro _ ⟨⟩
  exact Or.inr (cut_abandon hd around)

theorem sound_of_ne {r : Reading} (h : ∀ document, r ≠ .stopped document) : r.Sound :=
  fun document heq => absurd heq (h document)

theorem sound_startValue (around : List Frame) (t : Token) : (Reading.startValue around t).Sound := by
  unfold Reading.startValue
  split
  case h_7 =>
    have hfault : Draft.fault.Cut := nofun
    exact sound_stop hfault around
  all_goals exact sound_of_ne nofun

/-- Reading goes on at a token in its place, and stops over a spoiled document at any other. -/
theorem Reading.Sound.step {r : Reading} (h : r.Sound) (t : Token) : (r.step t).Sound := by
  -- The cases are those of the step, in its order: nine is a token behind the document, sixteen is the end.
  unfold Reading.step
  split
  case h_1 | h_3 => exact sound_startValue _ _
  case h_6 | h_8 | h_12 | h_15 => exact sound_stop (fun _ heq => by cases heq) _
  case h_9 =>
    rintro _ ⟨⟩
    exact Or.inl rfl
  case h_16 => exact h
  all_goals exact sound_of_ne nofun

theorem Reading.Sound.foldl {r : Reading} (h : r.Sound) (ts : List Token) : (ts.foldl Reading.step r).Sound := by
  induction ts generalizing r with
  | nil => exact h
  | cons t ts ih => exact ih (h.step t)

theorem exists_step_fault (r : Reading) : ∃ document, r.step .fault = .stopped document := by
  cases r with
  | value around => exact ⟨_, rfl⟩
  | firstItem around => exact ⟨_, rfl⟩
  | member first members around => cases first <;> exact ⟨_, rfl⟩
  | colon members key around => exact ⟨_, rfl⟩
  | after d around =>
      match around with
      | [] | .array _ :: _ | .object _ _ :: _ => exact ⟨_, rfl⟩
  | stopped document => exact ⟨document, rfl⟩

theorem foldl_stopped (document : Document) (ts : List Token) :
    ts.foldl Reading.step (.stopped document) = .stopped document := by
  induction ts with
  | nil => rfl
  | cons t ts ih => exact ih

/-- A document with a fault among its tokens is spoiled. -/
theorem spoiled_of_fault {ts : List Token} (h : .fault ∈ ts) : (Document.ofTokens ts).Spoiled := by
  obtain ⟨before, behind, rfl⟩ := List.append_of_mem h
  have hstart : (Reading.value []).Sound := nofun
  have hsound := (hstart.foldl before).step .fault
  obtain ⟨document, hstopped⟩ := exists_step_fault (before.foldl Reading.step (.value []))
  rw [Document.ofTokens, List.foldl_append, List.foldl_cons, hstopped, foldl_stopped]
  exact hsound document hstopped

end PaymentCredentials.Json

namespace PaymentCredentials.Claims

theorem not_cut_of_read {d : Json.Draft} {c : Claims} (h : read d = .ok c) : ¬ d.Cut := by
  unfold read at h
  split at h
  · rename_i members closed
    split at h
    · split at h
      · rename_i hclosed
        subst hclosed
        exact fun hcut => hcut members rfl
      · cases h
    · cases h
  · obtain ⟨_, -, h⟩ := ok_of_bind h
    cases h

/-- The text of claims has no zeros, whoever wrote it. -/
theorem zero_not_mem_of_decode {text : Bytes} {c : Claims} (h : Json.decode read text = .ok c) : 0 ∉ text := by
  intro hzero
  obtain ⟨claims, hread, hdocument⟩ := ok_of_bind h
  rcases Json.spoiled_of_fault (Json.fault_mem_tokens hzero) with htrailing | hcut
  · rw [Json.Document.ofBytes, if_pos htrailing] at hdocument
    cases hdocument
  · exact not_cut_of_read hread hcut

end PaymentCredentials.Claims
