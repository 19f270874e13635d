import PaymentCredentials.Authorization
import PaymentCredentials.Keychain
import PaymentCredentials.Proofs.WireRoundTrip

/-!
What the signature of a container binds. The signed message is the expiry, the salt and the ciphertext,
one behind the other with nothing between them, so the digits of the expiry may run on into a salt that
begins with digits. Two containers have one message just in case they have the same parts or the one
has lent such digits to the expiry of the other.
-/
namespace PaymentCredentials

theorem Keychain.firstMatch_congr {α β : Type} [Signed α] [Signed β] {m : α} {n : β}
    (h : ∀ key, isAuthentic m key = isAuthentic n key) (entries : List KeychainEntry) :
    firstMatch m entries = firstMatch n entries := by
  induction entries with
  | nil => rfl
  | cons entry older ih => rw [firstMatch, firstMatch, h, ih]

/-- Signed messages that are accepted under the same keys are matched to the same key. -/
theorem Keychain.matchKey_congr {α β : Type} [Signed α] [Signed β] {m : α} {n : β}
    (h : ∀ key, isAuthentic m key = isAuthentic n key) (c : Keychain) : c.matchKey m = c.matchKey n := by
  unfold matchKey
  split
  · rfl
  · exact firstMatch_congr h _

namespace Authorization

/-- The expiry as it stands in the signed message. -/
def expiryText (a : Authorization) : List Char := Decimal.numeral a.container.timestamp.toInt

/-- The expiry, the salt and the ciphertext are the same. -/
structure SameSealed (a b : Authorization) : Prop where
  timestamp : a.container.timestamp = b.container.timestamp
  salt : a.container.salt = b.container.salt
  ciphertext : a.container.ciphertext = b.container.ciphertext

/-- What follows the expiry of `a` begins with digits, and these stand behind its expiry in `b`. -/
def Lends (a b : Authorization) : Prop :=
  ∃ ds : List Char, ds ≠ [] ∧ (∀ c ∈ ds, Decimal.IsDigit c) ∧ b.expiryText = a.expiryText ++ ds ∧
    a.container.salt ++ a.container.ciphertext =
      utf8 (String.ofList ds) ++ (b.container.salt ++ b.container.ciphertext)

/-- The authorization with the signature of another. -/
def signedLike (b a : Authorization) : Authorization :=
  { b with container := { b.container with signature := a.container.signature } }

theorem readWire_of_ofWire {a : Authorization} {wire : String} {c : Container}
    (h : Container.ofWire a.hash.outputSize a.maxMessageSize wire = .ok c) :
    a.readWire wire = .ok { a with container := c, claims := .empty } := by
  rw [readWire, h]
  rfl

theorem readWire_eq_ok_iff {a b : Authorization} {wire : String} :
    a.readWire wire = .ok b ↔ ∃ c, Container.ofWire a.hash.outputSize a.maxMessageSize wire = .ok c ∧
      b = { a with container := c, claims := .empty } := by
  constructor
  · intro h
    obtain ⟨c, hframed, h⟩ := ok_of_bind h
    exact ⟨c, ok_of_mapError hframed, (Except.ok.inj h).symm⟩
  · rintro ⟨c, hframed, rfl⟩
    exact readWire_of_ofWire hframed

theorem message_eq (a : Authorization) :
    a.message = utf8 (String.ofList a.expiryText) ++ (a.container.salt ++ a.container.ciphertext) :=
  List.append_assoc _ _ _

theorem SameSealed.symm {a b : Authorization} (h : a.SameSealed b) : b.SameSealed a :=
  ⟨h.timestamp.symm, h.salt.symm, h.ciphertext.symm⟩

theorem SameSealed.message_eq {a b : Authorization} (h : a.SameSealed b) : a.message = b.message := by
  rw [message, message, h.timestamp, h.salt, h.ciphertext]

theorem Lends.message_eq {a b : Authorization} (h : a.Lends b) : a.message = b.message := by
  obtain ⟨ds, -, -, hexpiry, hrest⟩ := h
  rw [Authorization.message_eq, Authorization.message_eq, hexpiry, String.ofList_append, utf8_append,
    hrest, List.append_assoc]

theorem sameSealed_of_expiryText {a b : Authorization} (h : a.message = b.message)
    (hexpiry : a.expiryText = b.expiryText) : a.SameSealed b := by
  rw [Authorization.message_eq, Authorization.message_eq, hexpiry] at h
  obtain ⟨hsalt, hciphertext⟩ := List.append_inj (List.append_cancel_left h)
    (a.container.salt_size.trans b.container.salt_size.symm)
  exact ⟨Int64.toInt_inj.mp (Decimal.numeral_inj hexpiry), hsalt, hciphertext⟩

/-- What goes on from the expiry of `a` to that of `b` is nothing, or digits that `a` has lent. -/
theorem sameSealed_or_lends_of_append {a b : Authorization} {bytes : Bytes}
    (h : a.message = b.message)
    (hexpiry : utf8 (String.ofList b.expiryText) = utf8 (String.ofList a.expiryText) ++ bytes)
    (hrest : a.container.salt ++ a.container.ciphertext =
      bytes ++ (b.container.salt ++ b.container.ciphertext)) : a.SameSealed b ∨ a.Lends b := by
  obtain ⟨ds, hdigit, hnumeral, rfl⟩ := Decimal.digits_of_utf8_append hexpiry
  by_cases hnil : ds = []
  · subst hnil
    rw [List.append_nil] at hnumeral
    exact Or.inl (sameSealed_of_expiryText h hnumeral.symm)
  · exact Or.inr ⟨ds, hnil, hdigit, hnumeral, hrest⟩

theorem sameSealed_or_lends {a b : Authorization} (h : a.message = b.message) :
    a.SameSealed b ∨ a.Lends b ∨ b.Lends a := by
  have happend := h
  rw [message_eq, message_eq] at happend
  rcases List.append_eq_append_iff.mp happend with ⟨bytes, hexpiry, hrest⟩ | ⟨bytes, hexpiry, hrest⟩
  · rcases sameSealed_or_lends_of_append h hexpiry hrest with hsame | hlends
    · exact Or.inl hsame
    · exact Or.inr (Or.inl hlends)
  · rcases sameSealed_or_lends_of_append h.symm hexpiry hrest with hsame | hlends
    · exact Or.inl hsame.symm
    · exact Or.inr (Or.inr hlends)

theorem length_expiryText_of_length_ciphertext {a b : Authorization} (h : a.message = b.message)
    (hlength : a.container.ciphertext.length = b.container.ciphertext.length) :
    a.expiryText.length = b.expiryText.length := by
  have htotal := congrArg List.length h
  have hascii : ∀ c : Authorization, (utf8 (String.ofList c.expiryText)).length = c.expiryText.length := by
    intro c
    rw [expiryText, ← Decimal.ofInt, Decimal.utf8_ofInt, List.length_map]
  rw [message_eq, message_eq] at htotal
  simp only [List.length_append, hascii, Container.salt_size] at htotal
  omega

/-- Neither of two containers lends digits to the other when their expiries have as many digits. -/
theorem sameSealed_of_length {a b : Authorization} (h : a.message = b.message)
    (hlength : a.expiryText.length = b.expiryText.length) : a.SameSealed b := by
  rcases sameSealed_or_lends h with hsame | ⟨ds, hne, -, hexpiry, -⟩ | ⟨ds, hne, -, hexpiry, -⟩
  · exact hsame
  all_goals
    rw [hexpiry, List.length_append] at hlength
    exact absurd (List.length_eq_zero_iff.mp (by omega)) hne

theorem isAuthentic_eq (a : Authorization) (key : Bytes) :
    isAuthentic a key = .ok (sameBytes (hmac a.hash key a.message) a.container.signature) := rfl

theorem isAuthentic_signedLike {a b : Authorization} (hhash : a.hash = b.hash)
    (h : a.message = b.message) (key : Bytes) : isAuthentic (b.signedLike a) key = isAuthentic a key := by
  have hmessage : (b.signedLike a).message = b.message := rfl
  rw [isAuthentic_eq, isAuthentic_eq, hmessage, ← h, hhash]
  rfl

/-- **What the signature of a container binds.** Two containers have one signed message just in case
their expiries, salts and ciphertexts are the same, or the one lends digits to the expiry of the other;
expiries of as many digits, or ciphertexts of one length, leave nothing to be lent. A container that takes
over a signature of the same hash along with the signed message is accepted as the other one was. -/
theorem message_eq_iff (a b : Authorization) :
    (a.message = b.message ↔ a.SameSealed b ∨ a.Lends b ∨ b.Lends a) ∧
      (a.message = b.message ∧ a.expiryText.length = b.expiryText.length ↔ a.SameSealed b) ∧
      (a.message = b.message ∧ a.container.ciphertext.length = b.container.ciphertext.length ↔
        a.SameSealed b) ∧
      (a.hash = b.hash → a.message = b.message →
        ∀ keychain : Keychain, keychain.matchKey (b.signedLike a) = keychain.matchKey a) := by
  refine ⟨?_, ?_, ?_, ?_⟩
  · constructor
    · intro h
      exact sameSealed_or_lends h
    · rintro (hsame | hlends | hlends)
      · exact hsame.message_eq
      · exact hlends.message_eq
      · exact hlends.message_eq.symm
  · constructor
    · rintro ⟨h, hlength⟩
      exact sameSealed_of_length h hlength
    · intro hsame
      refine ⟨hsame.message_eq, ?_⟩
      rw [expiryText, expiryText, hsame.timestamp]
  · constructor
    · rintro ⟨h, hlength⟩
      exact sameSealed_of_length h (length_expiryText_of_length_ciphertext h hlength)
    · intro hsame
      exact ⟨hsame.message_eq, congrArg List.length hsame.ciphertext⟩
  · intro hhash h keychain
    apply Keychain.matchKey_congr
    exact isAuthentic_signedLike hhash h

/-- A key with which `lender` is signed. -/
def lendingKey : Bytes :=
  [0x00, 0x11, 0x22, 0x33, 0x44, 0x55, 0x66, 0x77, 0x88, 0x99, 0xaa, 0xbb, 0xcc, 0xdd, 0xee, 0xff,
    0x00, 0x11, 0x22, 0x33, 0x44, 0x55, 0x66, 0x77, 0x88, 0x99, 0xaa, 0xbb, 0xcc, 0xdd, 0xee, 0xff]

def lentSignature : Bytes :=
  [209, 83, 52, 28, 58, 39, 222, 54, 144, 126, 189, 43, 20, 71, 88, 4, 13, 176, 229, 78, 23, 96, 63, 4,
    157, 117, 59, 235, 23, 63, 92, 245]

/-- What follows the first byte of the ciphertext of `lender`. -/
def lentCiphertext : Bytes :=
  [49, 50, 51, 52, 53, 54, 55, 56, 57, 58, 59, 60, 61, 62, 63, 61, 114, 84, 138, 43, 223, 22, 198, 57,
    110, 238, 247, 17, 56, 113, 47, 181, 147, 97, 27, 166, 49, 157, 182, 91, 63, 93, 8, 127, 157, 177,
    238, 143, 29, 76, 12, 244]

/-- A sealed authorization of a user whose salt begins with the digit `9`. -/
def lender : Authorization :=
  { Authorization.new .sha256 4096 with
    container := ⟨1700000000, [57, 161, 178, 195, 212, 229, 246, 7], lentSignature, 48 :: lentCiphertext,
      rfl⟩ }

/-- The same bytes, with the digit counted to the expiry and the salt one byte further on. -/
def borrower : Authorization :=
  { Authorization.new .sha256 4096 with
    container := ⟨17000000009, [161, 178, 195, 212, 229, 246, 7, 48], lentSignature, lentCiphertext, rfl⟩ }

/-- A signature under which an expiry can be moved: two wire forms, read as containers of one hash with
one signed message and one signature, of which the second expires some five hundred years later. The key
of the first accepts both. -/
theorem expiry_not_bound :
    (Authorization.new .sha256 4096).readWire lender.toWire = .ok lender ∧
      (Authorization.new .sha256 4096).readWire borrower.toWire = .ok borrower ∧
      lender.message = borrower.message ∧
      lender.container.timestamp ≠ borrower.container.timestamp ∧
      lender.container.salt ≠ borrower.container.salt ∧
      lender.container.ciphertext ≠ borrower.container.ciphertext ∧
      isAuthentic lender lendingKey = .ok true ∧ isAuthentic borrower lendingKey = .ok true := by
  have hlender : Container.ofWire 32 4096 lender.container.toWire = .ok lender.container :=
    Container.ofWire_toWire lender.container (by decide) (by
      rw [Container.toWire, Base64.utf8ByteSize_encode]
      decide +kernel)
  have hborrower : Container.ofWire 32 4096 borrower.container.toWire = .ok borrower.container :=
    Container.ofWire_toWire borrower.container (by decide) (by
      rw [Container.toWire, Base64.utf8ByteSize_encode]
      decide +kernel)
  have hauthentic : sameBytes (hmac .sha256 lendingKey lender.message) lentSignature = true := by
    decide +kernel
  have hmessage : lender.message = borrower.message := by decide +kernel
  refine ⟨?_, ?_, hmessage, by decide, by decide, by decide, ?_, ?_⟩
  · exact readWire_of_ofWire hlender
  · exact readWire_of_ofWire hborrower
  · exact congrArg Except.ok hauthentic
  · rw [isAuthentic_eq, ← hmessage]
    exact congrArg Except.ok hauthentic

/-- The same two containers show the borrowing at work, and that the keys of the one accept the other. -/
theorem message_eq_iff_borrower :
    lender.message = borrower.message ∧ lender.Lends borrower ∧
      ∀ keychain : Keychain, keychain.matchKey (borrower.signedLike lender) = keychain.matchKey lender := by
  have hmessage : lender.message = borrower.message := by decide +kernel
  refine ⟨hmessage, ?_, (message_eq_iff lender borrower).2.2.2 rfl hmessage⟩
  refine ⟨['9'], List.cons_ne_nil _ _, ?_, ?_, ?_⟩
  · intro c hc
    obtain rfl := List.mem_singleton.mp hc
    decide
  · decide +kernel
  · decide +kernel

end Authorization

end PaymentCredentials
