import PaymentCredentials.Proofs.HexText
import PaymentCredentials.Proofs.Utf8
import PaymentCredentials.Web.Form

/-!
Forms read back from their queries. What stands for a byte in a query holds neither an ampersand nor an
equals sign, so that fields are cut where they were joined, whatever texts they hold.
-/
namespace PaymentCredentials

namespace Text

theorem lossy_utf8 (s : String) : lossy (utf8 s) = s := by
  rw [lossy, ofUtf8?_utf8]

/-- Bytes of ASCII are a text of their own. -/
theorem utf8_lossy_ascii {b : Bytes} (h : ∀ x ∈ b, x < 0x80) : utf8 (lossy b) = b := by
  have hnat : ∀ x ∈ b, (Char.ofNat x.toNat).toNat = x.toNat := by
    intro x hx
    have hlt : x.toNat < 128 := h x hx
    rw [Char.ofNat, dif_pos (Or.inl (Nat.lt_trans hlt (by decide)))]
    rfl
  have hascii : ∀ c ∈ b.map fun x => Char.ofNat x.toNat, c.toNat < 128 := by
    intro c hc
    obtain ⟨x, hx, rfl⟩ := List.mem_map.mp hc
    rw [hnat x hx]
    exact h x hx
  have hbytes : utf8 (String.ofList (b.map fun x => Char.ofNat x.toNat)) = b := by
    rw [utf8_ofList_ascii hascii, List.map_map]
    refine (List.map_congr_left fun x hx => ?_).trans (List.map_id b)
    simp only [Function.comp_apply, hnat x hx, UInt8.ofNat_toNat, id]
  rw [← hbytes, lossy_utf8]

section

variable {α : Type} {isSeparator : α → Bool}

theorem pieces_eq_singleton {front : List α} (h : ∀ c ∈ front, isSeparator c = false) :
    pieces isSeparator front = [front] := by
  induction front with
  | nil => rfl
  | cons c front ih =>
      obtain ⟨hc, hfront⟩ := List.forall_mem_cons.mp h
      rw [pieces, hc, ih hfront, if_neg Bool.false_ne_true]

/-- The first piece ends at the first separator. -/
theorem pieces_append_cons {front : List α} (h : ∀ c ∈ front, isSeparator c = false) {s : α}
    (hs : isSeparator s = true) (rest : List α) :
    pieces isSeparator (front ++ s :: rest) = front :: pieces isSeparator rest := by
  induction front with
  | nil => rw [List.nil_append, pieces, if_pos hs]
  | cons c front ih =>
      obtain ⟨hc, hfront⟩ := List.forall_mem_cons.mp h
      rw [List.cons_append, pieces, hc, ih hfront, if_neg Bool.false_ne_true]

end

end Text

namespace Web

theorem hexValue?_hexDigit {n : UInt8} (h : n < 16) : hexValue? (hexDigit n) = some n :=
  Bytes.forall_lt (by decide) n h

theorem percentDecode_cons {b : UInt8} (h : b ≠ 0x25) (rest : Bytes) :
    percentDecode (b :: rest) = b :: percentDecode rest :=
  percentDecode.eq_2 b rest fun _ _ _ hb => absurd hb h

theorem percentDecode_percentEncode (b : UInt8) (rest : Bytes) :
    percentDecode (percentEncode b ++ rest) = b :: percentDecode rest := by
  obtain ⟨hhigh, hlow, hjoined⟩ := Hex.halves b
  simp only [percentEncode, List.cons_append, List.nil_append, percentDecode, hexValue?_hexDigit hhigh,
    hexValue?_hexDigit hlow, hjoined]

namespace Form

/-- A plus sign is read as a space. -/
def spaced (c : UInt8) : UInt8 := if c = 0x2B then 0x20 else c

/-- What stands for a byte is of ASCII, and there are no marks in it. -/
theorem of_mem_encodeByte (b : UInt8) : ∀ c ∈ encodeByte b, c < 0x80 ∧ c ≠ 0x26 ∧ c ≠ 0x3D := by
  have hall : (encodeByte b).all (fun c => decide (c < 0x80 ∧ c ≠ 0x26 ∧ c ≠ 0x3D)) = true :=
    Bytes.forall_lt (by decide +kernel) b b.toNat_lt
  intro c hc
  exact of_decide_eq_true (List.all_eq_true.mp hall c hc)

theorem of_mem_encode {s : String} {c : UInt8} (h : c ∈ encode s) : c < 0x80 ∧ c ≠ 0x26 ∧ c ≠ 0x3D := by
  obtain ⟨b, -, hc⟩ := List.mem_flatMap.mp h
  exact of_mem_encodeByte b c hc

theorem map_spaced_percentEncode (b : UInt8) : (percentEncode b).map spaced = percentEncode b :=
  Bytes.forall_lt (by decide +kernel) b b.toNat_lt

theorem percentDecode_encodeByte (b : UInt8) (rest : Bytes) :
    percentDecode ((encodeByte b).map spaced ++ rest) = b :: percentDecode rest := by
  unfold encodeByte
  split
  · rename_i hplain
    have hpercent : b ≠ 0x25 := by
      rintro rfl
      exact absurd hplain (by decide)
    have hplus : b ≠ 0x2B := by
      rintro rfl
      exact absurd hplain (by decide)
    rw [List.map_singleton, spaced, if_neg hplus]
    exact percentDecode_cons hpercent rest
  split
  · rename_i hspace
    rw [hspace]
    exact percentDecode_cons (by decide) rest
  · rw [map_spaced_percentEncode]
    exact percentDecode_percentEncode b rest

theorem percentDecode_flatMap_encodeByte (b : Bytes) :
    percentDecode ((b.flatMap encodeByte).map spaced) = b := by
  induction b with
  | nil => rfl
  | cons x b ih => rw [List.flatMap_cons, List.map_append, percentDecode_encodeByte, ih]

/-- A text is read back from what stands for it. -/
theorem decode_encode (s : String) : decode (encode s) = s := by
  have hbytes : percentDecode ((encode s).map spaced) = utf8 s := percentDecode_flatMap_encodeByte (utf8 s)
  have hdecode : decode (encode s) = Text.lossy (percentDecode ((encode s).map spaced)) := rfl
  rw [hdecode, hbytes, Text.lossy_utf8]

theorem of_mem_pair {name value : String} {c : UInt8} (h : c ∈ pair name value) : c < 0x80 ∧ c ≠ 0x26 := by
  rcases List.mem_append.mp h with hname | hvalue
  · exact ⟨(of_mem_encode hname).1, (of_mem_encode hname).2.1⟩
  rcases List.mem_cons.mp hvalue with rfl | hvalue
  · decide
  · exact ⟨(of_mem_encode hvalue).1, (of_mem_encode hvalue).2.1⟩

theorem pair_ne_nil (name value : String) : pair name value ≠ [] :=
  List.append_ne_nil_of_right_ne_nil _ (List.cons_ne_nil _ _)

/-- A field is cut at the equals sign behind its name. -/
theorem split_pair (name value : String) : split (pair name value) = (name, value) := by
  have hname : ∀ c ∈ encode name, decide (c ≠ 0x3D) = true := fun c hc =>
    decide_eq_true (of_mem_encode hc).2.2
  have hstop : decide ((0x3D : UInt8) ≠ 0x3D) = false := by decide
  rw [split, pair, List.takeWhile_append_of_pos hname, List.dropWhile_append_of_pos hname,
    List.takeWhile_cons_of_neg (by rw [hstop]; exact Bool.false_ne_true),
    List.dropWhile_cons_of_neg (by rw [hstop]; exact Bool.false_ne_true), List.append_nil,
    List.drop_succ_cons, List.drop_zero, decode_encode, decode_encode]

theorem of_mem_bytes : ∀ {fields : List (String × String)} {c : UInt8}, c ∈ bytes fields → c < 0x80
  | [], _, h => absurd h List.not_mem_nil
  | [(_, _)], _, h => (of_mem_pair h).1
  | (_, _) :: field :: rest, c, h => by
    rcases List.mem_append.mp h with hpair | hrest
    · exact (of_mem_pair hpair).1
    rcases List.mem_cons.mp hrest with rfl | hrest
    · decide
    · exact of_mem_bytes hrest

/-- The pieces of a form are its fields. -/
theorem map_split_pieces : ∀ fields : List (String × String),
    ((Text.pieces (· == 0x26) (bytes fields)).filter (· ≠ [])).map split = fields
  | [] => rfl
  | [(name, value)] => by
    have hmarks : ∀ c ∈ pair name value, (c == 0x26) = false := fun c hc =>
      beq_false_of_ne (of_mem_pair hc).2
    have hkept : decide (pair name value ≠ []) = true := decide_eq_true (pair_ne_nil name value)
    rw [bytes, Text.pieces_eq_singleton hmarks, List.filter_cons, hkept, if_pos rfl, List.filter_nil,
      List.map_singleton, split_pair]
  | (name, value) :: field :: rest => by
    have hmarks : ∀ c ∈ pair name value, (c == 0x26) = false := fun c hc =>
      beq_false_of_ne (of_mem_pair hc).2
    have hkept : decide (pair name value ≠ []) = true := decide_eq_true (pair_ne_nil name value)
    rw [bytes, Text.pieces_append_cons hmarks rfl, List.filter_cons, hkept, if_pos rfl, List.map_cons,
      split_pair, map_split_pieces (field :: rest)]
    exact fun h => nomatch h

/-- **Forms read back.** The query of a form has the fields of the form, in their order, with their names and
values, whatever texts these are. -/
theorem ofQuery_toQuery (fields : List (String × String)) : ofQuery (toQuery fields) = fields := by
  rw [ofQuery, toQuery, Text.utf8_lossy_ascii fun _ hc => of_mem_bytes hc, map_split_pieces]

end Form

end Web

end PaymentCredentials
