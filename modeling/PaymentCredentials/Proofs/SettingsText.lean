import PaymentCredentials.Proofs.IndentedText
import PaymentCredentials.Proofs.RecordText
import PaymentCredentials.Settings

/-!
Settings read back from the JSON text they are written as. Each field is read back by its own reader; the
retention policy carries its name among its members, so that these are gone through before anything of them is
looked at.
-/
namespace PaymentCredentials

open Json

namespace Json

theorem Draft.toUInt64_written (typeName : String) (n : UInt64) :
    (written (.ofUInt64 n)).toUInt64 typeName = .ok n := by
  have hnonneg : ¬ (n.toNat : Int) < 0 := by omega
  rw [ofUInt64, written, toUInt64, number?_writtenNumeral]
  simp only [if_neg hnonneg, Int.toNat_natCast, UInt64.ofNat_toNat]

/-- A list is read back if each of its items is. -/
theorem Draft.toList_written {α : Type} {read : Draft → Except Problem α} {view : α → Json}
    (h : ∀ a, read (written (view a)) = .ok a) (as : List α) :
    toList read (written (.array (as.map view))) = .ok as := by
  have hitems : (writtenItems (as.map view)).mapM read = .ok as := by
    induction as with
    | nil => rfl
    | cons a as ih =>
        rw [List.map_cons, writtenItems, List.mapM_cons, bind_of_ok (h a), bind_of_ok ih]
        rfl
  rw [written, toList, bind_of_ok hitems]
  rfl

/-- A number is read whatever the depth that is left. -/
theorem Draft.toJson_written_ofUInt64 (n : UInt64) (depth : Nat) :
    (written (.ofUInt64 n)).toJson depth = .ok (.ofUInt64 n) := by
  rw [ofUInt64, written, toJson, number?_writtenNumeral]

theorem integralItems_texts (ts : List String) : integralItems (ts.map Json.text) = true := by
  induction ts with
  | nil => rfl
  | cons t ts ih => exact ih

end Json

theorem HashAlgorithm.read_written (h : HashAlgorithm) : read (written (.text h.name)) = .ok h := by
  rw [written, read, text?_writtenText]
  cases h <;> rfl

namespace RetentionPolicy

/-- The one number of a policy is read back from its member. -/
theorem readNumber_written (variant field typeName : String) (n : UInt64) :
    readNumber variant field typeName (.object [(writtenText field, written (.ofUInt64 n))] true) = .ok n := by
  let number : RecordField (Option UInt64) := .mandatory field (Draft.toUInt64 typeName) fun n _ => some n
  have hset : number.read (written (.ofUInt64 n)) = .ok fun _ => some n :=
    congrArg (Except.map _) (Draft.toUInt64_written typeName n)
  have hfield : [number].find? (fun f => f.name = field) = some number :=
    List.find?_cons_of_pos (decide_eq_true rfl)
  have henter : Record.enterMembers [number] [(writtenText field, written (.ofUInt64 n))] [] none =
      .ok ([field], some n) := by
    rw [Record.enterMembers, text?_writtenText]
    simp only [hfield, List.not_mem_nil, if_false]
    exact (bind_of_ok rfl _).trans (bind_of_ok hset _)
  have hpresent : [number].find? (fun f => f.required && !([field].contains f.name)) = none := by
    rw [List.find?_eq_none]
    intro f hf
    obtain rfl := List.mem_singleton.mp hf
    simp [number, RecordField.mandatory]
  have hread : Record.read ⟨"struct variant RetentionPolicy::" ++ variant, [number]⟩ none
      (.object [(writtenText field, written (.ofUInt64 n))] true) = .ok (some n) := by
    rw [Record.read, bind_of_ok henter]
    simp only [not_true, if_false, hpresent]
    rfl
  exact bind_of_ok hread _

/-- What stands besides the name of a policy is gone through and kept. -/
theorem gatherMembers_number (depth : Nat) (kind : Option Kind) {field : String} (h : field ≠ "policy")
    (n : UInt64) :
    gatherMembers depth [(writtenText field, written (.ofUInt64 n))] kind [] =
      .ok (kind, [(writtenText field, written (.ofUInt64 n))]) := by
  unfold gatherMembers
  rw [text?_writtenText]
  split
  · rename_i hnone
    cases hnone
  · rename_i hpolicy
    exact absurd (Option.some.inj hpolicy) h
  · exact bind_of_ok (Draft.toJson_written_ofUInt64 n depth) _

/-- The name that a policy of a kind is written with. -/
def Kind.name : Kind → String
  | .unbounded => "unbounded"
  | .keepLatest => "keep_latest"
  | .overlapWindow => "overlap_window"

theorem readKind_written (kind : Kind) : readKind (written (.text kind.name)) = .ok kind := by
  rw [written, readKind, text?_writtenText]
  cases kind <;> rfl

/-- A policy with its name in front is read by what stands besides the name. -/
theorem read_named (kind : Kind) {members rest : List (RawText × Draft)} {depth : Nat}
    (hgather : gatherMembers (depth - 1) members (some kind) [] = .ok (some kind, rest)) :
    read depth (.object ((writtenText "policy", written (.text kind.name)) :: members) true) =
      readBody kind (.object rest true) := by
  have hall : gatherMembers (depth - 1) ((writtenText "policy", written (.text kind.name)) :: members) none [] =
      .ok (some kind, rest) := by
    rw [gatherMembers, text?_writtenText]
    exact (bind_of_ok (readKind_written kind) _).trans hgather
  rw [read, bind_of_ok hall]
  rfl

theorem read_written (policy : RetentionPolicy) (depth : Nat) : read depth (written policy.toJson) = .ok policy := by
  cases policy with
  | unbounded => exact read_named .unbounded rfl
  | keepLatest count =>
      refine (read_named .keepLatest (gatherMembers_number _ _ (by decide) count)).trans ?_
      rw [readBody, readNumber_written]
      rfl
  | overlapWindow secs =>
      refine (read_named .overlapWindow (gatherMembers_number _ _ (by decide) secs)).trans ?_
      rw [readBody, readNumber_written]
      rfl

theorem integral_toJson (policy : RetentionPolicy) : policy.toJson.integral = true := by
  cases policy <;> rfl

end RetentionPolicy

theorem CookieSettings.read_written (c : CookieSettings) : read (written c.toJson) = .ok c := by
  have hbool : ∀ b, Draft.toBool (written (.bool b)) = .ok b := fun _ => rfl
  have hallow : Record.Enters record.fields ["allow_cookie_auth"]
      [("allow_cookie_auth", .bool c.allowCookieAuth)] _ := Record.enters_member rfl (hbool _)
  have hhttp : Record.Enters record.fields ["http_only"] [("http_only", .bool c.httpOnly)] _ :=
    Record.enters_member rfl (hbool _)
  have hsecure : Record.Enters record.fields ["secure"] [("secure", .bool c.secure)] _ :=
    Record.enters_member rfl (hbool _)
  have hpath : Record.Enters record.fields ["path"] [("path", .text c.path)] _ :=
    Record.enters_member rfl (Draft.toText_written c.path)
  have hmembers := ((hallow.append hhttp (by decide)).append hsecure (by decide)).append hpath (by decide)
  exact Record.read_written hmembers (by decide) standard

namespace Settings

theorem read_written (s : Settings) : read (written s.toJson) = .ok s := by
  have hkeys : Record.Enters record.fields ["auth_keys"] [("auth_keys", .array (s.authKeys.map Json.text))] _ :=
    Record.enters_member rfl (Draft.toList_written Draft.toText_written s.authKeys)
  have hhash : Record.Enters record.fields ["hash"] [("hash", .text s.hash.name)] _ :=
    Record.enters_member rfl s.hash.read_written
  have hlifetime : Record.Enters record.fields ["session_lifetime_secs"]
      [("session_lifetime_secs", .ofUInt64 s.lifetime)] _ :=
    Record.enters_member rfl (Draft.toUInt64_written _ s.lifetime)
  have hsize : Record.Enters record.fields ["max_msg_size"] [("max_msg_size", .ofUInt64 s.maxMessageSize)] _ :=
    Record.enters_member rfl (Draft.toUInt64_written _ s.maxMessageSize)
  have hretention : Record.Enters record.fields ["key_retention"] [("key_retention", s.retention.toJson)] _ :=
    Record.enters_member rfl (s.retention.read_written _)
  have hage : Record.Enters record.fields ["request_max_age_secs"]
      [("request_max_age_secs", .ofUInt64 s.requestMaxAge)] _ :=
    Record.enters_member rfl (Draft.toUInt64_written _ s.requestMaxAge)
  have hcookie : Record.Enters record.fields ["cookie"] [("cookie", s.cookie.toJson)] _ :=
    Record.enters_member rfl s.cookie.read_written
  have hmembers := (((((hkeys.append hhash (by decide)).append hlifetime (by decide)).append hsize
    (by decide)).append hretention (by decide)).append hage (by decide)).append hcookie (by decide)
  exact Record.read_written hmembers (by decide) standard

theorem integral_toJson (s : Settings) : s.toJson.integral = true := by
  simp only [toJson, integral, integralMembers, integralItems_texts, s.retention.integral_toJson]
  rfl

/-- Settings are read back from both texts of their JSON form. -/
theorem decode_written (s : Settings) :
    Json.decode read s.toJson.compact = .ok s ∧ Json.decode read (s.toJson.pretty 0) = .ok s := by
  have hcompact : Json.decode read s.toJson.compact = .ok s := by
    rw [decode_compact _ s.integral_toJson, s.read_written]
  exact ⟨hcompact, (decode_pretty _ s.integral_toJson 0).trans hcompact⟩

end Settings

end PaymentCredentials
