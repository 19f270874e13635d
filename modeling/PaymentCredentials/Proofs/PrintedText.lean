import PaymentCredentials.Json
import PaymentCredentials.Proofs.Utf8

/-!
JSON values as texts to print. What is written of a value is the form of a text, byte for byte: strings keep their
characters beyond ASCII whole, and everything around them is ASCII.
-/
namespace PaymentCredentials

/-- A byte string is the UTF-8 form of a text. -/
def IsText (b : Bytes) : Prop := ∃ s, utf8 s = b

theorem toNat_char_of_ascii {x : UInt8} (h : x.toNat < 128) : (Char.ofNat x.toNat).toNat = x.toNat :=
  Bytes.forall_lt (by decide) x h

namespace IsText

theorem nil : IsText [] := ⟨"", rfl⟩

theorem append {a b : Bytes} (ha : IsText a) (hb : IsText b) : IsText (a ++ b) := by
  obtain ⟨s, rfl⟩ := ha
  obtain ⟨t, rfl⟩ := hb
  exact ⟨s ++ t, utf8_append s t⟩

/-- A byte of ASCII stands for itself. -/
theorem cons {x : UInt8} {b : Bytes} (hx : x.toNat < 128) (hb : IsText b) : IsText (x :: b) := by
  have hchar : ∀ c ∈ [Char.ofNat x.toNat], c.toNat < 128 := by
    intro c hc
    rw [List.mem_singleton.mp hc, toNat_char_of_ascii hx]
    exact hx
  have hbyte : utf8 (String.ofList [Char.ofNat x.toNat]) = [x] := by
    rw [utf8_ofList_ascii hchar, List.map_singleton, toNat_char_of_ascii hx, UInt8.ofNat_toNat]
  exact append ⟨_, hbyte⟩ hb

theorem of_ascii {b : Bytes} (h : ∀ x ∈ b, x.toNat < 128) : IsText b := by
  induction b with
  | nil => exact nil
  | cons x b ih => exact (ih fun y hy => h y (List.mem_cons_of_mem _ hy)).cons (h x List.mem_cons_self)

theorem char (c : Char) : IsText (String.utf8EncodeChar c) :=
  ⟨String.ofList [c], (utf8_ofList [c]).trans (List.append_nil _)⟩

end IsText

/-- The bytes of a character beyond ASCII are beyond ASCII. -/
theorem not_ascii_of_mem_utf8EncodeChar {c : Char} (hc : ¬ c.toNat < 128) :
    ∀ x ∈ String.utf8EncodeChar c, 128 ≤ x.toNat := by
  have hvalue : ¬ c.val.toNat ≤ 0x7F := fun h => hc (Nat.lt_succ_of_le h)
  have hfour := c.val.toNat_lt
  unfold String.utf8EncodeChar
  rw [if_neg hvalue]
  intro x hx
  split at hx
  · simp only [List.mem_cons, List.not_mem_nil, or_false] at hx
    rcases hx with rfl | rfl <;> rw [UInt8.toNat_ofNat'] <;> omega
  split at hx
  · simp only [List.mem_cons, List.not_mem_nil, or_false] at hx
    rcases hx with rfl | rfl | rfl <;> rw [UInt8.toNat_ofNat'] <;> omega
  · simp only [List.mem_cons, List.not_mem_nil, or_false] at hx
    rcases hx with rfl | rfl | rfl | rfl <;> rw [UInt8.toNat_ofNat'] <;> omega

namespace Json

theorem ascii_escapeByte {b : UInt8} (h : b.toNat < 128) : ∀ x ∈ escapeByte b, x.toNat < 128 := by
  have hall : (escapeByte b).all (fun x => decide (x.toNat < 128)) = true := Bytes.forall_lt (by decide) b h
  intro x hx
  exact of_decide_eq_true (List.all_eq_true.mp hall x hx)

theorem escapeByte_of_not_ascii {b : UInt8} (h : 128 ≤ b.toNat) : escapeByte b = [b] := by
  have hne : ∀ n : UInt8, n.toNat < 128 → b ≠ n := by
    rintro n hn rfl
    omega
  have hcontrol : ¬ b < 0x20 := by
    rw [UInt8.lt_iff_toNat_lt, Nat.not_lt]
    exact Nat.le_trans (by decide) h
  rw [escapeByte, if_neg (hne _ (by decide)), if_neg (hne _ (by decide)), if_neg (hne _ (by decide)),
    if_neg (hne _ (by decide)), if_neg (hne _ (by decide)), if_neg (hne _ (by decide)),
    if_neg (hne _ (by decide)), if_neg hcontrol]

/-- A character is escaped, or stands for itself with all of its bytes. -/
theorem isText_escaped (c : Char) : IsText ((String.utf8EncodeChar c).flatMap escapeByte) := by
  by_cases hascii : c.toNat < 128
  · apply IsText.of_ascii
    intro x hx
    obtain ⟨b, hb, hx⟩ := List.mem_flatMap.mp hx
    rw [utf8EncodeChar_of_ascii hascii, List.mem_singleton] at hb
    refine ascii_escapeByte ?_ x hx
    rw [hb, UInt8.toNat_ofNat']
    exact Nat.lt_of_le_of_lt (Nat.mod_le _ _) hascii
  · have hkept : ∀ b ∈ String.utf8EncodeChar c, escapeByte b = [b] := fun b hb =>
      escapeByte_of_not_ascii (not_ascii_of_mem_utf8EncodeChar hascii b hb)
    rw [List.flatMap_def, List.map_congr_left hkept, ← List.flatMap_def, List.flatMap_singleton']
    exact IsText.char c

theorem isText_quote (s : String) : IsText (quote s) := by
  have hcontents : ∀ cs : List Char, IsText ((cs.flatMap String.utf8EncodeChar).flatMap escapeByte) := by
    intro cs
    induction cs with
    | nil => exact IsText.nil
    | cons c cs ih =>
        rw [List.flatMap_cons, List.flatMap_append]
        exact (isText_escaped c).append ih
  have hcharacters : utf8 s = s.toList.flatMap String.utf8EncodeChar := by
    rw [← utf8_ofList, String.ofList_toList]
  have hcontents := hcontents s.toList
  rw [← hcharacters] at hcontents
  exact (hcontents.append (IsText.nil.cons (by decide))).cons (by decide)

theorem isText_newLine (level : Nat) : IsText (newLine level) := by
  apply IsText.of_ascii
  intro x hx
  rcases List.mem_cons.mp hx with rfl | hx
  · decide
  · rw [(List.mem_replicate.mp hx).2]
    decide

theorem isText_scalarText (v : Json) : IsText v.scalarText := by
  cases v with
  | null => exact ⟨_, rfl⟩
  | bool b => exact ⟨_, rfl⟩
  | int n => exact ⟨_, rfl⟩
  | float x => exact ⟨_, rfl⟩
  | text s => exact isText_quote s
  | array items => exact IsText.nil
  | object members => exact IsText.nil

mutual

/-- The indented text of a value is a text, by the recursion of writing it. -/
theorem isText_pretty : ∀ (v : Json) (level : Nat), IsText (pretty level v)
  | .null, _ => isText_scalarText .null
  | .bool b, _ => isText_scalarText (.bool b)
  | .int n, _ => isText_scalarText (.int n)
  | .float x, _ => isText_scalarText (.float x)
  | .text s, _ => isText_quote s
  | .array [], _ => (IsText.nil.cons (x := 0x5D) (by decide)).cons (x := 0x5B) (by decide)
  | .array (v :: items), level => by
    have hvalue := isText_pretty v (level + 1)
    have hitems := isText_prettyItems items level
    exact (((isText_newLine (level + 1)).append hvalue).append hitems).cons (by decide)
  | .object [], _ => (IsText.nil.cons (x := 0x7D) (by decide)).cons (x := 0x7B) (by decide)
  | .object ((k, v) :: members), level => by
    have hvalue := ((isText_pretty v (level + 1)).append (isText_prettyMembers members level))
    have hmember := (isText_quote k).append ((hvalue.cons (x := 0x20) (by decide)).cons (x := 0x3A) (by decide))
    have hline := ((isText_newLine (level + 1)).append hmember).cons (x := 0x7B) (by decide)
    simpa only [pretty, List.append_assoc, List.cons_append] using hline

theorem isText_prettyItems : ∀ (items : List Json) (level : Nat), IsText (prettyItems level items)
  | [], level => (isText_newLine level).append (IsText.nil.cons (by decide))
  | v :: items, level => by
    have hvalue := isText_pretty v (level + 1)
    have hitems := isText_prettyItems items level
    exact (((isText_newLine (level + 1)).append hvalue).append hitems).cons (by decide)

theorem isText_prettyMembers : ∀ (members : List (String × Json)) (level : Nat),
    IsText (prettyMembers level members)
  | [], level => (isText_newLine level).append (IsText.nil.cons (by decide))
  | (k, v) :: members, level => by
    have hvalue := ((isText_pretty v (level + 1)).append (isText_prettyMembers members level))
    have hmember := (isText_quote k).append ((hvalue.cons (x := 0x20) (by decide)).cons (x := 0x3A) (by decide))
    have hline := ((isText_newLine (level + 1)).append hmember).cons (x := 0x2C) (by decide)
    simpa only [prettyMembers, List.append_assoc, List.cons_append] using hline

end

/-- What is printed of a value are the bytes of its indented text. -/
theorem utf8_prettyText (v : Json) : utf8 v.prettyText = v.pretty 0 := by
  obtain ⟨s, hs⟩ := isText_pretty v 0
  rw [prettyText, ← hs, ofUtf8?_utf8, Option.getD_some]

end Json

end PaymentCredentials
