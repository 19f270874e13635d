import Mathlib.Data.List.TakeWhile
import PaymentCredentials.Gzip
import PaymentCredentials.Proofs.StreamGrammar

/-!
Which bytes begin with a gzip member, and of which text. A member is laid out as its header, a deflate stream,
and the checksum and the length of the text that the stream spells. A reader with a limit reads the texts that
keep to it, and refuses every longer one as too long.
-/
namespace PaymentCredentials.Gzip

/-! ### Layout -/

/-- A text in a header ends with the first zero byte, and keeps to a greatest length. -/
structure IsHeaderText (s : Bytes) : Prop where
  no_zero : 0 ∉ s
  length_le : s.length ≤ maxHeaderText

/-- Further fields, behind their length. -/
def extraBytes (fields : Bytes) : Bytes := Bytes.ofNatLE 2 fields.length ++ fields

/-- A text, with the byte that ends it. -/
def textBytes (s : Bytes) : Bytes := s ++ [0]

/-- A part of a header that may be left out. -/
def announced (write : Bytes → Bytes) : Option Bytes → Bytes
  | none => []
  | some part => write part

/-- The parts of a header that may be left out. -/
structure Parts where
  extra : Option Bytes
  name : Option Bytes
  comment : Option Bytes
  extra_length : ∀ fields ∈ extra, fields.length < 65536
  name_isText : ∀ s ∈ name, IsHeaderText s
  comment_isText : ∀ s ∈ comment, IsHeaderText s

def Parts.bytes (p : Parts) : Bytes :=
  announced extraBytes p.extra ++ announced textBytes p.name ++ announced textBytes p.comment

/-- A header: what it says of the text, and the parts that it has. -/
structure Header where
  isText : Bool
  /-- The time, the level of compression and the system. -/
  origin : Bytes
  parts : Parts
  /-- Whether the header has a checksum of its own. -/
  summed : Bool
  origin_length : origin.length = 6

/-- The checksum that closes a header, if it has one. -/
def sumBytes (summed : Bool) (unsummed : Bytes) : Bytes :=
  if summed = true then Bytes.ofNatLE 2 ((checksum unsummed).toNat % 65536) else []

def flagsOf (isText summed extra name comment : Bool) : UInt8 :=
  UInt8.ofNat (Deflate.natOfBits [isText, summed, extra, name, comment])

namespace Header

/-- The flags announce the parts that are there. -/
def flags (h : Header) : UInt8 :=
  flagsOf h.isText h.summed h.parts.extra.isSome h.parts.name.isSome h.parts.comment.isSome

/-- The header without its checksum. -/
def unsummed (h : Header) : Bytes := [0x1F, 0x8B, 8, h.flags] ++ h.origin ++ h.parts.bytes

/-- The header as it is laid out. -/
def bytes (h : Header) : Bytes := h.unsummed ++ sumBytes h.summed h.unsummed

end Header

/-- The checksum and the length of a text, as they close a member. -/
def trailer (text : Bytes) : Bytes :=
  Bytes.ofNatLE 4 (checksum text).toNat ++ Bytes.ofNatLE 4 (text.length % 0x100000000)

/-- The bytes begin with a whole member, and this is its text. Copies may begin in front of the text if `far` is so. -/
def Holds (far : Prop) (b text : Bytes) : Prop :=
  ∃ (h : Header) (stream more : Bytes) (s : Deflate.Bits), b = h.bytes ++ stream ∧
    Deflate.Spells far stream text s ∧ s.rest = trailer text ++ more

/-- A member is whole without what follows it. -/
theorem Holds.append {far : Prop} {b text : Bytes} (h : Holds far b text) (behind : Bytes) :
    Holds far (b ++ behind) text := by
  obtain ⟨header, stream, more, s, rfl, hspells, hrest⟩ := h
  refine ⟨header, stream ++ behind, more ++ behind, s.extend behind, List.append_assoc _ _ _,
    hspells.extend behind, ?_⟩
  rw [Deflate.Bits.extend, hrest, List.append_assoc]

/-- A text without zeros takes no copies from in front of it. -/
theorem Holds.near {far : Prop} {b text : Bytes} (h : Holds True b text) (hzero : 0 ∉ text) : Holds far b text := by
  obtain ⟨header, stream, more, s, rfl, hspells, hrest⟩ := h
  exact ⟨header, stream, more, s, rfl, hspells.near hzero, hrest⟩

/-! ### Flags -/

theorem flagsOf_and (isText summed extra name comment : Bool) :
    flagsOf isText summed extra name comment &&& 0xE0 = 0 ∧
      (flagsOf isText summed extra name comment &&& 2 = 0 ↔ summed = false) ∧
      (flagsOf isText summed extra name comment &&& 4 = 0 ↔ extra = false) ∧
      (flagsOf isText summed extra name comment &&& 8 = 0 ↔ name = false) ∧
      (flagsOf isText summed extra name comment &&& 16 = 0 ↔ comment = false) := by
  revert isText summed extra name comment
  decide

/-- Flags without the reserved ones are those of the parts that they announce. -/
theorem flagsOf_of_and {flags : UInt8} : flags &&& 0xE0 = 0 →
    flagsOf (flags &&& 1 ≠ 0) (flags &&& 2 ≠ 0) (flags &&& 4 ≠ 0) (flags &&& 8 ≠ 0) (flags &&& 16 ≠ 0) = flags :=
  Bytes.forall_lt (by decide +kernel) flags flags.toNat_lt

theorem decide_eq_of_iff {p : Prop} [Decidable p] {b : Bool} (h : p ↔ b = false) : decide (¬ p) = b := by
  cases b with
  | false => exact decide_eq_false fun hn => hn (h.mpr rfl)
  | true => exact decide_eq_true fun hp => Bool.noConfusion (h.mp hp)

/-! ### Reading parts -/

theorem skip_append {front : Bytes} {count : Nat} (h : front.length = count) (rest : Bytes) :
    skip count (front ++ rest) = .ok rest := by
  rw [skip, if_neg (by rw [List.length_append]; omega), List.drop_left' h]

theorem skip_eq_ok_iff {count : Nat} {b rest : Bytes} :
    skip count b = .ok rest ↔ ∃ front, front.length = count ∧ b = front ++ rest := by
  constructor
  · intro h
    unfold skip at h
    split at h
    · cases h
    · rename_i hlength
      cases h
      exact ⟨b.take count, List.length_take_of_le (Nat.le_of_not_lt hlength), (List.take_append_drop _ _).symm⟩
  · rintro ⟨front, hfront, rfl⟩
    exact skip_append hfront rest

/-- A number in a given count of bytes, least significant first, and what follows it. -/
theorem take_append_ofNatLE {count n : Nat} (h : n < 1 <<< (8 * count)) (rest : Bytes) :
    Bytes.toNatLE ((Bytes.ofNatLE count n ++ rest).take count) = n := by
  rw [List.take_left' (Bytes.length_ofNatLE count n), Bytes.toNatLE_ofNatLE count n h]

theorem ofNatLE_of_length {front : Bytes} {count : Nat} (h : front.length = count) :
    Bytes.ofNatLE count (Bytes.toNatLE front) = front := by
  rw [← h, Bytes.ofNatLE_toNatLE]

/-- What follows fields with their length in front. -/
def skipExtra (b : Bytes) : Except Fault Bytes := do
  let fields ← skip 2 b
  skip (Bytes.toNatLE (b.take 2)) fields

theorem skipExtra_eq_ok_iff (b rest : Bytes) :
    skipExtra b = .ok rest ↔ ∃ fields : Bytes, fields.length < 65536 ∧ b = extraBytes fields ++ rest := by
  constructor
  · intro h
    obtain ⟨behind, hlength, hfields⟩ := ok_of_bind h
    obtain ⟨front, hfront, rfl⟩ := skip_eq_ok_iff.mp hlength
    rw [List.take_left' hfront] at hfields
    obtain ⟨fields, hcount, rfl⟩ := skip_eq_ok_iff.mp hfields
    have hbound := Bytes.toNatLE_lt front
    rw [hfront, ← hcount] at hbound
    refine ⟨fields, hbound, ?_⟩
    rw [extraBytes, hcount, ofNatLE_of_length hfront, List.append_assoc]
  · rintro ⟨fields, hbound, rfl⟩
    rw [extraBytes, List.append_assoc]
    refine (bind_of_ok (skip_append (Bytes.length_ofNatLE 2 fields.length) _) _).trans ?_
    rw [take_append_ofNatLE hbound]
    exact skip_append rfl rest

theorem skipText_of_not_mem {b : Bytes} (h : 0 ∉ b) (rest : Bytes) : skipText b ≠ .ok rest := by
  have hdrop : b.dropWhile (· ≠ 0) = [] :=
    List.dropWhile_eq_nil_iff.mpr fun x hx => decide_eq_true fun heq => h (heq ▸ hx)
  rw [skipText, hdrop]
  exact fun hread => by cases hread

theorem skipText_append {s : Bytes} (h : 0 ∉ s) (rest : Bytes) :
    skipText (s ++ 0 :: rest) = if s.length ≤ maxHeaderText then .ok rest else .error .badHeader := by
  have hfront : ∀ x ∈ s, decide (x ≠ 0) = true := fun x hx => decide_eq_true fun heq => h (heq ▸ hx)
  have hdrop : (s ++ 0 :: rest).dropWhile (· ≠ 0) = 0 :: rest := by
    rw [List.dropWhile_append_of_pos hfront]
    rfl
  have hlength : (s ++ 0 :: rest).length - rest.length - 1 = s.length := by
    rw [List.length_append, List.length_cons]
    omega
  rw [skipText, hdrop]
  dsimp only
  rw [hlength]

theorem skipText_eq_ok_iff (b rest : Bytes) :
    skipText b = .ok rest ↔ ∃ s, IsHeaderText s ∧ b = textBytes s ++ rest := by
  constructor
  · intro h
    by_cases hmem : 0 ∈ b
    · obtain ⟨s, behind, rfl, hs⟩ := List.eq_append_cons_of_mem hmem
      rw [skipText_append hs] at h
      split at h
      · rename_i hlength
        cases h
        exact ⟨s, ⟨hs, hlength⟩, by rw [textBytes, List.append_assoc]; rfl⟩
      · cases h
    · exact absurd h (skipText_of_not_mem hmem rest)
  · rintro ⟨s, hs, rfl⟩
    rw [textBytes, List.append_assoc, List.singleton_append, skipText_append hs.no_zero, if_pos hs.length_le]

/-! ### Reading headers -/

/-- A part is read just in case it is announced. -/
theorem announced_eq_ok_iff {read : Bytes → Except Fault Bytes} {Fits : Bytes → Prop} {write : Bytes → Bytes}
    (hread : ∀ b rest, read b = .ok rest ↔ ∃ part, Fits part ∧ b = write part ++ rest) {p : Prop} [Decidable p]
    {b rest : Bytes} : (if p then pure b else read b) = .ok rest ↔
      ∃ part : Option Bytes, (p ↔ part.isSome = false) ∧ (∀ x ∈ part, Fits x) ∧
        b = announced write part ++ rest := by
  by_cases h : p
  · rw [if_pos h]
    constructor
    · intro hb
      exact ⟨none, iff_of_true h rfl, fun _ hx => (Option.not_mem_none _ hx).elim, Except.ok.inj hb⟩
    · rintro ⟨part, hpart, -, rfl⟩
      obtain rfl := Option.isSome_eq_false_iff.mp (hpart.mp h) |> Option.isNone_iff_eq_none.mp
      rfl
  · rw [if_neg h, hread]
    constructor
    · rintro ⟨part, hfits, rfl⟩
      exact ⟨some part, iff_of_false h Bool.noConfusion, fun x hx => Option.mem_some.mp hx ▸ hfits, rfl⟩
    · rintro ⟨part, hpart, hfits, rfl⟩
      cases part with
      | none => exact absurd (hpart.mpr rfl) h
      | some part => exact ⟨part, hfits part rfl, rfl⟩

/-- The flags announce the parts that are there, and no others. -/
structure Parts.Announced (p : Parts) (flags : UInt8) : Prop where
  extra : flags &&& 4 = 0 ↔ p.extra.isSome = false
  name : flags &&& 8 = 0 ↔ p.name.isSome = false
  comment : flags &&& 16 = 0 ↔ p.comment.isSome = false

theorem skipFields_eq (flags : UInt8) (b : Bytes) : skipFields flags b =
    (if flags &&& 4 = 0 then pure b else skipExtra b) >>= fun named =>
      (if flags &&& 8 = 0 then pure named else skipText named) >>= fun commented =>
        if flags &&& 16 = 0 then pure commented else skipText commented := by
  unfold skipFields
  by_cases hextra : flags &&& 4 = 0 <;> by_cases hname : flags &&& 8 = 0 <;>
    simp only [hextra, hname, if_true, if_false, pure_bind, bind_assoc, skipExtra]

/-- The fields of a header are its parts, in their order. -/
theorem skipFields_eq_ok_iff {flags : UInt8} {b rest : Bytes} :
    skipFields flags b = .ok rest ↔ ∃ p : Parts, p.Announced flags ∧ b = p.bytes ++ rest := by
  rw [skipFields_eq]
  constructor
  · intro h
    obtain ⟨named, hextra, h⟩ := ok_of_bind h
    obtain ⟨commented, hname, hcomment⟩ := ok_of_bind h
    obtain ⟨extra, hasExtra, extra_length, rfl⟩ := (announced_eq_ok_iff skipExtra_eq_ok_iff).mp hextra
    obtain ⟨name, hasName, name_isText, rfl⟩ := (announced_eq_ok_iff skipText_eq_ok_iff).mp hname
    obtain ⟨comment, hasComment, comment_isText, rfl⟩ := (announced_eq_ok_iff skipText_eq_ok_iff).mp hcomment
    exact ⟨⟨extra, name, comment, extra_length, name_isText, comment_isText⟩, ⟨hasExtra, hasName, hasComment⟩,
      by simp only [Parts.bytes, List.append_assoc]⟩
  · rintro ⟨p, hannounced, rfl⟩
    rw [Parts.bytes, List.append_assoc, List.append_assoc]
    refine (bind_of_ok ((announced_eq_ok_iff skipExtra_eq_ok_iff).mpr
      ⟨p.extra, hannounced.extra, p.extra_length, rfl⟩) _).trans ?_
    refine (bind_of_ok ((announced_eq_ok_iff skipText_eq_ok_iff).mpr
      ⟨p.name, hannounced.name, p.name_isText, rfl⟩) _).trans ?_
    exact (announced_eq_ok_iff skipText_eq_ok_iff).mpr ⟨p.comment, hannounced.comment, p.comment_isText, rfl⟩

theorem Header.flags_and (h : Header) : h.flags &&& 0xE0 = 0 ∧ (h.flags &&& 2 = 0 ↔ h.summed = false) ∧
    h.parts.Announced h.flags := by
  obtain ⟨hreserved, hsummed, hextra, hname, hcomment⟩ := flagsOf_and h.isText h.summed h.parts.extra.isSome
    h.parts.name.isSome h.parts.comment.isSome
  exact ⟨hreserved, hsummed, hextra, hname, hcomment⟩

/-- What follows the checksum of a header, if there is one. -/
def skipSum (flags : UInt8) (b rest : Bytes) : Except Fault Bytes :=
  if flags &&& 2 = 0 then pure rest else do
    let stream ← skip 2 rest
    if Bytes.toNatLE (rest.take 2) = (checksum (b.take (b.length - rest.length))).toNat % 65536 then pure stream
    else throw .corrupt

theorem skipSum_eq_ok_iff {flags : UInt8} {unsummed rest stream : Bytes} :
    skipSum flags (unsummed ++ rest) rest = .ok stream ↔
      ∃ summed, (flags &&& 2 = 0 ↔ summed = false) ∧ rest = sumBytes summed unsummed ++ stream := by
  have hlength : (unsummed ++ rest).length - rest.length = unsummed.length := by
    rw [List.length_append, Nat.add_sub_cancel]
  have hbound : (checksum unsummed).toNat % 65536 < 1 <<< (8 * 2) := Nat.mod_lt _ (by decide)
  unfold skipSum
  rw [hlength, List.take_left]
  constructor
  · intro h
    split at h
    · rename_i hflag
      exact ⟨false, iff_of_true hflag rfl, Except.ok.inj h⟩
    rename_i hflag
    obtain ⟨stream, hskip, h⟩ := ok_of_bind h
    obtain ⟨front, hfront, rfl⟩ := skip_eq_ok_iff.mp hskip
    rw [List.take_left' hfront] at h
    split at h
    · rename_i hsum
      cases h
      refine ⟨true, iff_of_false hflag Bool.noConfusion, ?_⟩
      rw [sumBytes, if_pos rfl, ← hsum, ofNatLE_of_length hfront]
    · cases h
  · rintro ⟨summed, hflag, rfl⟩
    cases summed with
    | false =>
        rw [if_pos (hflag.mpr rfl)]
        rfl
    | true =>
        rw [if_neg fun hzero => Bool.noConfusion (hflag.mp hzero), sumBytes, if_pos rfl]
        refine (bind_of_ok (skip_append (Bytes.length_ofNatLE 2 _) stream) _).trans ?_
        rw [take_append_ofNatLE hbound, if_pos rfl]
        rfl

theorem skipHeader_eq {origin : Bytes} (horigin : origin.length = 6) (m0 m1 method flags : UInt8)
    (b : Bytes) : skipHeader ([m0, m1, method, flags] ++ origin ++ b) =
      if m0 ≠ 0x1F ∨ m1 ≠ 0x8B ∨ method ≠ 8 ∨ flags &&& 0xE0 ≠ 0 then .error .badHeader
      else skipFields flags b >>= skipSum flags ([m0, m1, method, flags] ++ origin ++ b) := by
  have hfront : ([m0, m1, method, flags] ++ origin).length = 10 := by
    rw [List.length_append, horigin]
    rfl
  unfold skipHeader
  exact (bind_of_ok (skip_append hfront b) _).trans rfl

theorem exists_of_length_ten {front : Bytes} (h : front.length = 10) :
    ∃ m0 m1 method flags origin, front = [m0, m1, method, flags] ++ origin ∧ origin.length = 6 := by
  match front, h with
  | m0 :: m1 :: method :: flags :: origin, h =>
      exact ⟨m0, m1, method, flags, origin, rfl, by simpa only [List.length_cons, Nat.reduceEqDiff] using h⟩

/-- What follows a header: a header is read whole, or not at all. -/
theorem skipHeader_eq_ok_iff {b stream : Bytes} :
    skipHeader b = .ok stream ↔ ∃ h : Header, b = h.bytes ++ stream := by
  constructor
  · intro h
    obtain ⟨behind, hskip, -⟩ := ok_of_bind h
    obtain ⟨front, hfront, rfl⟩ := skip_eq_ok_iff.mp hskip
    obtain ⟨m0, m1, method, flags, origin, rfl, horigin⟩ := exists_of_length_ten hfront
    rw [skipHeader_eq horigin] at h
    split at h
    · cases h
    rename_i hmagic
    obtain ⟨rfl, rfl, rfl, hreserved⟩ : m0 = 0x1F ∧ m1 = 0x8B ∧ method = 8 ∧ flags &&& 0xE0 = 0 := by
      simpa only [not_or, not_not] using hmagic
    obtain ⟨rest, hfields, hsum⟩ := ok_of_bind h
    obtain ⟨p, hannounced, rfl⟩ := skipFields_eq_ok_iff.mp hfields
    rw [← List.append_assoc _ p.bytes] at hsum ⊢
    obtain ⟨summed, hsummed, rfl⟩ := skipSum_eq_ok_iff.mp hsum
    have hflags := flagsOf_of_and hreserved
    rw [decide_eq_of_iff hsummed, decide_eq_of_iff hannounced.extra, decide_eq_of_iff hannounced.name,
      decide_eq_of_iff hannounced.comment] at hflags
    refine ⟨⟨flags &&& 1 ≠ 0, origin, p, summed, horigin⟩, ?_⟩
    simp only [Header.bytes, Header.unsummed, Header.flags, hflags, List.append_assoc]
  · rintro ⟨h, rfl⟩
    obtain ⟨hreserved, hsummed, hannounced⟩ := h.flags_and
    have hsum : skipSum h.flags (h.unsummed ++ (sumBytes h.summed h.unsummed ++ stream))
        (sumBytes h.summed h.unsummed ++ stream) = .ok stream :=
      skipSum_eq_ok_iff.mpr ⟨h.summed, hsummed, rfl⟩
    rw [Header.unsummed, List.append_assoc _ h.parts.bytes] at hsum
    rw [Header.bytes, List.append_assoc, Header.unsummed, List.append_assoc _ h.parts.bytes,
      skipHeader_eq h.origin_length, if_neg (by simpa using hreserved)]
    exact (bind_of_ok (skipFields_eq_ok_iff.mpr ⟨h.parts, hannounced, rfl⟩) _).trans hsum

/-! ### Reading members -/

/-- A text is handed out just in case its trailer follows the stream. -/
theorem checkTrailer_eq_ok_iff {text rest read : Bytes} :
    checkTrailer text rest = .ok read ↔ read = text ∧ ∃ more, rest = trailer text ++ more := by
  have hlength : ∀ n, (Bytes.ofNatLE 4 n).length = 4 := Bytes.length_ofNatLE 4
  constructor
  · intro h
    obtain ⟨more, hskip, h⟩ := ok_of_bind h
    obtain ⟨front, hfront, rfl⟩ := skip_eq_ok_iff.mp hskip
    obtain ⟨sum, size, rfl, hsum⟩ : ∃ sum size, front = sum ++ size ∧ sum.length = 4 :=
      ⟨front.take 4, front.drop 4, (List.take_append_drop 4 front).symm, by rw [List.length_take, hfront]; rfl⟩
    have hsize : size.length = 4 := by
      rw [List.length_append, hsum] at hfront
      omega
    rw [List.append_assoc, List.take_left' hsum, List.drop_left' hsum, List.take_left' hsize] at h
    split at h
    · rename_i hchecked
      refine ⟨(Except.ok.inj h).symm, more, ?_⟩
      rw [trailer, ← hchecked.1, ← hchecked.2, ofNatLE_of_length hsum, ofNatLE_of_length hsize, List.append_assoc]
    · cases h
  · rintro ⟨rfl, more, rfl⟩
    have htrailer : (trailer read).length = 8 := by rw [trailer, List.length_append, hlength, hlength]
    have hsize : read.length % 0x100000000 < 1 <<< (8 * 4) := Nat.mod_lt _ (by decide)
    unfold checkTrailer
    refine (bind_of_ok (skip_append htrailer more) _).trans ?_
    rw [trailer, List.append_assoc, take_append_ofNatLE (checksum read).toNat_lt, List.drop_left' (hlength _),
      take_append_ofNatLE hsize, if_pos ⟨rfl, rfl⟩]
    rfl

theorem lt_windows (limit : Nat) : limit < (limit / Deflate.reach + 1) * Deflate.reach := by
  have hquotient := Nat.div_add_mod' limit Deflate.reach
  have hremainder := Nat.mod_lt limit (show 0 < Deflate.reach by decide)
  rw [Nat.add_mul, Nat.one_mul]
  omega

/-- What a member holds is read if it keeps to the limit, and is refused as too long if it does not. -/
theorem Holds.decompress_eq {far : Prop} {b text : Bytes} (h : Holds far b text) (limit : Nat) :
    decompress limit b = if text.length ≤ limit then .ok text else .error .exceedsLimit := by
  obtain ⟨header, stream, more, s, rfl, hspells, hrest⟩ := h
  have hwindows := lt_windows limit
  unfold decompress
  refine (bind_of_ok (skipHeader_eq_ok_iff.mpr ⟨header, rfl⟩) _).trans ?_
  have hreads := hspells.readsOn ((limit / Deflate.reach + 1) * Deflate.reach)
  dsimp only
  generalize Deflate.inflate _ stream = outcome at hreads ⊢
  obtain rfl | ⟨hlong, hstop⟩ := hreads
  · have htrailer : checkTrailer text s.align.rest = .ok text :=
      checkTrailer_eq_ok_iff.mpr ⟨rfl, more, hrest⟩
    dsimp only
    rw [List.size_toArray, htrailer]
    by_cases hlimit : text.length ≤ limit
    · rw [if_pos hlimit, if_neg (Nat.not_lt_of_le hlimit)]
    · rw [if_neg hlimit, if_pos (Nat.lt_of_not_le hlimit)]
      rfl
  · rw [List.size_toArray] at hlong
    rw [if_neg (by omega)]
    obtain ⟨stopped, ending⟩ := outcome
    cases hstop
    rfl

/-- What is read is held by a member. -/
theorem holds_of_decompress {limit : Nat} {b text : Bytes} (h : decompress limit b = .ok text) :
    Holds True b text := by
  obtain ⟨stream, hheader, hstream⟩ := ok_of_bind h
  obtain ⟨header, rfl⟩ := skipHeader_eq_ok_iff.mp hheader
  dsimp only at hstream
  split at hstream
  · rename_i decoded s hinflate
    split at hstream
    · cases hstream
    obtain ⟨rfl, more, hrest⟩ := checkTrailer_eq_ok_iff.mp hstream
    exact ⟨header, stream, more, s, rfl, Deflate.spells_of_inflate hinflate, hrest⟩
  · cases hstream
  · cases hstream
  · cases hstream

/-- **Reading with a limit.** A text is read just in case a member holds it and it keeps to the limit. Copies from in
front of the text are read as zeros. -/
theorem decompress_eq_ok_iff {limit : Nat} {b text : Bytes} :
    decompress limit b = .ok text ↔ Holds True b text ∧ text.length ≤ limit := by
  constructor
  · intro h
    have hholds := holds_of_decompress h
    refine ⟨hholds, ?_⟩
    rw [hholds.decompress_eq limit] at h
    split at h
    · assumption
    · cases h
  · rintro ⟨hholds, hlimit⟩
    rw [hholds.decompress_eq limit, if_pos hlimit]

/-- Bytes begin with one member at the most. -/
theorem Holds.unique {far far' : Prop} {b text text' : Bytes} (h : Holds far b text) (h' : Holds far' b text') :
    text = text' := by
  have hread := h.decompress_eq (max text.length text'.length)
  have hread' := h'.decompress_eq (max text.length text'.length)
  rw [if_pos (Nat.le_max_left _ _)] at hread
  rw [if_pos (Nat.le_max_right _ _)] at hread'
  exact Except.ok.inj (hread.symm.trans hread')

end PaymentCredentials.Gzip
