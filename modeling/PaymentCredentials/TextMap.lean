import PaymentCredentials.Json.Reader

/-!
Maps from texts to texts. A key comes once. The order of the entries is the one they were first entered
in, and means nothing.
-/
namespace PaymentCredentials

/-- A map from texts to texts. -/
structure TextMap where
  entries : List (String × String)
  unique : (entries.map (·.1)).Nodup
  deriving DecidableEq

namespace TextMap

def empty : TextMap := ⟨[], .nil⟩

/-- Entries with one more, or with a new value for its key. -/
def enter (key value : String) : List (String × String) → List (String × String)
  | [] => [(key, value)]
  | (k, v) :: rest => if k = key then (key, value) :: rest else (k, v) :: enter key value rest

theorem mem_keys_enter {key value k : String} {entries : List (String × String)} :
    k ∈ (enter key value entries).map (·.1) ↔ k = key ∨ k ∈ entries.map (·.1) := by
  induction entries with
  | nil => simp [enter]
  | cons e rest ih =>
    by_cases h : e.1 = key
    · subst h; simp [enter]
    · simp only [enter, h, if_false, List.map_cons, List.mem_cons, ih]
      exact or_left_comm

theorem nodup_keys_enter {key value : String} {entries : List (String × String)}
    (h : (entries.map (·.1)).Nodup) : ((enter key value entries).map (·.1)).Nodup := by
  induction entries with
  | nil => simp [enter]
  | cons e rest ih =>
    have ⟨hnot, hrest⟩ := List.nodup_cons.1 h
    by_cases he : e.1 = key
    · subst he; simpa [enter] using ⟨by simpa using hnot, hrest⟩
    · simp only [enter, he, if_false, List.map_cons]
      refine List.nodup_cons.2 ⟨fun hmem => ?_, ih hrest⟩
      rcases mem_keys_enter.1 hmem with hkey | hmem
      · exact he hkey
      · exact hnot hmem

/-- The map with one more entry, or with a new value for its key. -/
def insert (m : TextMap) (key value : String) : TextMap :=
  ⟨enter key value m.entries, nodup_keys_enter m.unique⟩

/-- The map of entries, of which later ones replace earlier ones. -/
def ofEntries (entries : List (String × String)) : TextMap :=
  entries.foldl (fun m e => m.insert e.1 e.2) empty

def toJson (m : TextMap) : Json := .object (m.entries.map fun e => (e.1, .text e.2))

open Json

def readMembers : List (RawText × Draft) → TextMap → Except Problem TextMap
  | [], m => .ok m
  | (k, d) :: rest, m =>
    match text? k with
    | none => .error .malformed
    | some key => do
      let value ← d.toText
      readMembers rest (m.insert key value)

def read : Draft → Except Problem TextMap
  | .object members closed => do
    let m ← readMembers members empty
    if closed then return m else throw .malformed
  | d => d.mismatch "a map"

end TextMap

end PaymentCredentials
