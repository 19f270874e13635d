import PaymentCredentials.Message.Stamp
import PaymentCredentials.Proofs.JsonText

/-!
Records read back from the members that were written for their fields. A member is read by the field of its
name, whatever is around it, so that the members of a record are taken one by one; what is unset has no
member and keeps its default.
-/
namespace PaymentCredentials

namespace Json

theorem writtenMembers_append (members members' : List (String × Json)) :
    writtenMembers (members ++ members') = writtenMembers members ++ writtenMembers members' := by
  induction members with
  | nil => rw [writtenMembers, List.nil_append, List.nil_append]
  | cons m members ih => rw [List.cons_append, writtenMembers, writtenMembers, ih, List.cons_append]

theorem integralMembers_append (members members' : List (String × Json)) :
    integralMembers (members ++ members') = (integralMembers members && integralMembers members') := by
  induction members with
  | nil => rfl
  | cons m members ih => rw [List.cons_append, integralMembers, integralMembers, ih, Bool.and_assoc]

theorem Draft.toText_written (s : String) : (written (.text s)).toText = .ok s := by
  rw [written, toText, text?_writtenText]

/-- What is there is read as what is set. -/
theorem Draft.toOption_written {α : Type} {read : Draft → Except Problem α} {v : Json} {a : α}
    (h : read (written v) = .ok a) (hv : v ≠ .null) : toOption read (written v) = .ok (some a) := by
  cases v with
  | null => exact absurd rfl hv
  | _ => exact congrArg (Except.map some) h

namespace Record

variable {σ : Type} {fields : List (RecordField σ)}

/-- The members are entered into a record by a function, wherever they stand and whatever has been entered
before them, as long as none of their names has been. -/
def Enters (fields : List (RecordField σ)) (names : List String) (members : List (String × Json))
    (set : σ → σ) : Prop :=
  ∀ (rest : List (RawText × Draft)) (seen : List String) (s : σ), (∀ name ∈ names, name ∉ seen) →
    ∃ seen', (∀ name ∈ seen', name ∈ names ∨ name ∈ seen) ∧
      enterMembers fields (writtenMembers members ++ rest) seen s = enterMembers fields rest seen' (set s)

/-- A member is entered if the field of its name reads it. -/
theorem enters_member {α : Type} {name : String} {read : Draft → Except Problem α} {set : α → σ → σ}
    {v : Json} {a : α} (hfield : fields.find? (fun f => f.name = name) = some (.optional name read set))
    (hread : read (written v) = .ok a) : Enters fields [name] [(name, v)] (set a) := by
  intro rest seen s hseen
  have hnew : name ∉ seen := hseen name (List.mem_singleton.mpr rfl)
  refine ⟨name :: seen, fun other hother => ?_, ?_⟩
  · rcases List.mem_cons.mp hother with rfl | hother
    · exact Or.inl (List.mem_singleton.mpr rfl)
    · exact Or.inr hother
  · have hset : (RecordField.optional name read set).read (written v) = .ok (set a) :=
      congrArg (Except.map set) hread
    rw [writtenMembers, writtenMembers, List.cons_append, List.nil_append, enterMembers, text?_writtenText]
    simp only [hfield, if_neg hnew]
    exact (bind_of_ok rfl _).trans (bind_of_ok hset _)

/-- A member that may be left out is entered if it is there; if it is not, nothing is. -/
theorem enters_optionalMember {α : Type} {member : String → α → List (String × Json)} {view : α → Json}
    {name : String} {read : Draft → Except Problem α} {set keep : Option α → σ → σ}
    (hfield : fields.find? (fun f => f.name = name) = some (.optional name (Draft.toOption read) set))
    (hread : ∀ a, member name a = [(name, view a)] ∧ view a ≠ .null ∧ read (written (view a)) = .ok a)
    (hkeep : ∀ s, keep none s = s ∧ ∀ a, keep (some a) s = set (some a) s) (value : Option α) :
    Enters fields [name] (Message.optionalMember member name value) (keep value) := by
  cases value with
  | some a =>
      obtain ⟨hmember, hnull, hread⟩ := hread a
      have hset : keep (some a) = set (some a) := funext fun s => (hkeep s).2 a
      rw [hset, Message.optionalMember, hmember]
      exact enters_member hfield (Draft.toOption_written hread hnull)
  | none =>
      intro rest seen s _
      refine ⟨seen, fun _ => Or.inr, ?_⟩
      rw [(hkeep s).1, Message.optionalMember, writtenMembers, List.nil_append]

/-- Members with different names are entered one after the other. -/
theorem Enters.append {names names' : List String} {members members' : List (String × Json)}
    {set set' : σ → σ} (h : Enters fields names members set) (h' : Enters fields names' members' set')
    (hdisjoint : ∀ name ∈ names', name ∉ names) :
    Enters fields (names ++ names') (members ++ members') fun s => set' (set s) := by
  intro rest seen s hseen
  obtain ⟨seen₁, hnames, henter⟩ := h (writtenMembers members' ++ rest) seen s fun name hname =>
    hseen name (List.mem_append_left _ hname)
  obtain ⟨seen₂, hnames', henter'⟩ := h' rest seen₁ (set s) (by
    intro name hname hmem
    rcases hnames name hmem with hmem | hmem
    · exact hdisjoint name hname hmem
    · exact hseen name (List.mem_append_right _ hname) hmem)
  refine ⟨seen₂, fun name hname => ?_, ?_⟩
  · rcases hnames' name hname with hname | hname
    · exact Or.inl (List.mem_append_right _ hname)
    · exact (hnames name hname).imp_left (List.mem_append_left _)
  · rw [writtenMembers_append, List.append_assoc, henter, henter']

/-- A record without required fields is read from the members that are entered into it. -/
theorem read_written {r : Record σ} {names : List String} {members : List (String × Json)} {set : σ → σ}
    (h : Enters r.fields names members set) (hrequired : ∀ f ∈ r.fields, f.required = false) (default : σ) :
    r.read default (written (.object members)) = .ok (set default) := by
  obtain ⟨seen, -, henter⟩ := h [] [] default fun _ _ => List.not_mem_nil
  rw [List.append_nil, enterMembers] at henter
  have hall : r.fields.find? (fun f => f.required && !seen.contains f.name) = none := by
    rw [List.find?_eq_none]
    intro f hf
    rw [hrequired f hf]
    exact Bool.false_ne_true
  rw [written, read, henter]
  refine (bind_of_ok rfl _).trans ?_
  simp only [not_true, if_false, hall]
  rfl

end Record

end Json

open Json

namespace TextMap

theorem enter_append {key value : String} {entries : List (String × String)}
    (h : key ∉ entries.map (·.1)) : enter key value entries = entries ++ [(key, value)] := by
  induction entries with
  | nil => rfl
  | cons e entries ih =>
      rw [List.map_cons, List.mem_cons, not_or] at h
      rw [enter, if_neg (Ne.symm h.1), ih h.2, List.cons_append]

/-- Entries with new keys are read behind those that are there. -/
theorem readMembers_written (entries : List (String × String)) (before : TextMap)
    (h : ((before.entries ++ entries).map (·.1)).Nodup) :
    ∃ m, readMembers (writtenMembers (entries.map fun e => (e.1, .text e.2))) before = .ok m ∧
      m.entries = before.entries ++ entries := by
  induction entries generalizing before with
  | nil => exact ⟨before, rfl, (List.append_nil _).symm⟩
  | cons e entries ih =>
      have hkey : e.1 ∉ before.entries.map (·.1) := by
        rw [List.map_append, List.map_cons] at h
        intro hmem
        exact (List.nodup_append.mp h).2.2 e.1 hmem e.1 List.mem_cons_self rfl
      have henter : (before.insert e.1 e.2).entries = before.entries ++ [e] := enter_append hkey
      obtain ⟨m, hread, hentries⟩ := ih (before.insert e.1 e.2) (by
        rw [henter, List.append_assoc]
        exact h)
      rw [henter, List.append_assoc] at hentries
      refine ⟨m, ?_, hentries⟩
      rw [List.map_cons, writtenMembers, readMembers, text?_writtenText]
      exact (bind_of_ok (Draft.toText_written e.2) _).trans hread

/-- A map is read back with its entries in their order. -/
theorem read_written (m : TextMap) : read (written m.toJson) = .ok m := by
  obtain ⟨m', hread, hentries⟩ := readMembers_written m.entries empty m.unique
  have hm : m' = m := by
    cases m'
    cases m
    exact (mk.injEq ..).mpr hentries
  rw [toJson, written, read, bind_of_ok hread, hm]
  rfl

theorem integral_toJson (m : TextMap) : m.toJson.integral = true := by
  rw [toJson, integral]
  induction m.entries with
  | nil => rfl
  | cons e entries ih => exact ih

end TextMap

namespace Message

theorem readInt64_written (n : Int64) : readInt64 (written (.text (Decimal.ofInt n.toInt))) = .ok n := by
  rw [readInt64, readNumeral, bind_of_ok (Draft.toText_written _), Decimal.readInt64_ofInt, mapError_ok]

theorem readInt8_written (n : Int8) : readInt8 (written (.text (Decimal.ofInt n.toInt))) = .ok n := by
  rw [readInt8, readNumeral, bind_of_ok (Draft.toText_written _), Decimal.readInt8_ofInt, mapError_ok]

theorem optionalMember_map {α β : Type} (member : String → β → List (String × Json)) (name : String)
    (view : α → β) (value : Option α) :
    optionalMember member name (value.map view) =
      optionalMember (fun name a => member name (view a)) name value := by
  cases value <;> rfl

theorem integral_optionalMember {α : Type} {member : String → α → List (String × Json)} {name : String}
    (h : ∀ a, integralMembers (member name a) = true) (value : Option α) :
    integralMembers (optionalMember member name value) = true := by
  cases value with
  | none => rfl
  | some a => exact h a

theorem integral_optionalText (name : String) (value : Option String) :
    integralMembers (optionalMember textMember name value) = true :=
  integral_optionalMember (fun _ => rfl) value

theorem integral_optionalInt (name : String) (value : Option Int) :
    integralMembers (optionalMember intMember name value) = true :=
  integral_optionalMember (fun _ => rfl) value

theorem integral_optionalMap (name : String) (value : Option TextMap) :
    integralMembers (optionalMember mapMember name value) = true := by
  refine integral_optionalMember (fun m => ?_) value
  rw [mapMember, integralMembers, m.integral_toJson]
  rfl

/-! ### Members that may be left out -/

section

variable {σ : Type} {fields : List (RecordField σ)} {name : String}

theorem enters_optionalText {set keep : Option String → σ → σ}
    (hfield : fields.find? (fun f => f.name = name) = some (.optional name (Draft.toOption Draft.toText) set))
    (hkeep : ∀ s, keep none s = s ∧ ∀ t, keep (some t) s = set (some t) s) (value : Option String) :
    Record.Enters fields [name] (optionalMember textMember name value) (keep value) :=
  Record.enters_optionalMember hfield (fun t => ⟨rfl, Json.noConfusion, Draft.toText_written t⟩) hkeep value

theorem enters_optionalInt {α : Type} {view : α → Int} {read : Draft → Except Problem α}
    {set keep : Option α → σ → σ} (hread : ∀ n, read (written (.text (Decimal.ofInt (view n)))) = .ok n)
    (hfield : fields.find? (fun f => f.name = name) = some (.optional name (Draft.toOption read) set))
    (hkeep : ∀ s, keep none s = s ∧ ∀ n, keep (some n) s = set (some n) s) (value : Option α) :
    Record.Enters fields [name] (optionalMember intMember name (value.map view)) (keep value) := by
  rw [optionalMember_map]
  exact Record.enters_optionalMember hfield (fun n => ⟨rfl, Json.noConfusion, hread n⟩) hkeep value

theorem enters_optionalMap {set keep : Option TextMap → σ → σ}
    (hfield : fields.find? (fun f => f.name = name) = some (.optional name (Draft.toOption TextMap.read) set))
    (hkeep : ∀ s, keep none s = s ∧ ∀ m, keep (some m) s = set (some m) s) (value : Option TextMap) :
    Record.Enters fields [name] (optionalMember mapMember name value) (keep value) :=
  Record.enters_optionalMember hfield (fun m => ⟨rfl, Json.noConfusion, TextMap.read_written m⟩) hkeep value

end

end Message

/-- The members of a stamp are entered into the stamp of a message. -/
theorem Stamp.enters_members {σ : Type} {update : (Stamp → Stamp) → σ → σ} {before : List (RecordField σ)}
    (h : ∀ f ∈ before, f.name ∉ ["Timestamp", "Nonce", "Signature"]) (stamp : Stamp) :
    Record.Enters (before ++ fields update) ["Timestamp", "Nonce", "Signature"] stamp.members fun s =>
      update (fun t => { t with signature := stamp.signature })
        (update (fun t => { t with nonce := stamp.nonce })
          (update (fun t => { t with timestamp := stamp.timestamp }) s)) := by
  have hfield : ∀ name ∈ ["Timestamp", "Nonce", "Signature"],
      (before ++ fields update).find? (fun f => f.name = name) =
        (fields update).find? fun f => f.name = name := by
    intro name hname
    have hnone : before.find? (fun f => f.name = name) = none := by
      rw [List.find?_eq_none]
      intro f hf heq
      obtain rfl := of_decide_eq_true heq
      exact h f hf hname
    rw [List.find?_append, hnone, Option.none_or]
  have htimestamp : Record.Enters (before ++ fields update) ["Timestamp"]
      (Message.intMember "Timestamp" stamp.timestamp.toInt) _ :=
    Record.enters_member (hfield _ (by decide)) (Message.readInt64_written stamp.timestamp)
  have hnonce : Record.Enters (before ++ fields update) ["Nonce"] (Message.textMember "Nonce" stamp.nonce) _ :=
    Record.enters_member (hfield _ (by decide)) (Draft.toText_written stamp.nonce)
  have hsignature : Record.Enters (before ++ fields update) ["Signature"]
      (Message.textMember "Signature" stamp.signature) _ :=
    Record.enters_member (hfield _ (by decide)) (Draft.toText_written stamp.signature)
  exact (htimestamp.append hnonce (by decide)).append hsignature (by decide)

end PaymentCredentials
