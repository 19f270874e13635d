import PaymentCredentials.Json.Token

/-!
Documents as far as their text can be read. A draft keeps everything in front of the first place where
the text stops being JSON, so that a reader who wants a certain type of value meets its problems in the
order of the text.
-/
namespace PaymentCredentials.Json

/-- A value as it is written. -/
inductive Draft
  | null
  | bool (b : Bool)
  | number (n : Numeral)
  | text (s : RawText)
  | array (items : List Draft) (closed : Bool)
  | object (members : List (RawText × Draft)) (closed : Bool)
  /-- The text stops being JSON where a value is due. -/
  | fault

/-- A draft of a whole document, and whether something other than blanks follows it. -/
structure Document where
  root : Draft
  trailing : Bool

/-- An array or object around the value being read: what it holds so far, newest first. -/
inductive Frame
  | array (items : List Draft)
  | object (members : List (RawText × Draft)) (key : RawText)

/-- What is due next. -/
inductive Reading
  /-- A value. -/
  | value (around : List Frame)
  /-- The first item of an array, or its end. -/
  | firstItem (around : List Frame)
  /-- A key; directly behind the opening brace also the end of the object. -/
  | member (first : Bool) (members : List (RawText × Draft)) (around : List Frame)
  /-- The colon behind a key. -/
  | colon (members : List (RawText × Draft)) (key : RawText) (around : List Frame)
  /-- What follows a value: a comma or the end of what is around it. -/
  | after (value : Draft) (around : List Frame)
  /-- Nothing: the document is over. -/
  | stopped (document : Document)

/-- The draft that is left when reading stops at a value. -/
def abandon : Draft → List Frame → Draft
  | d, [] => d
  | d, .array items :: around => abandon (.array (items.reverse ++ [d]) false) around
  | d, .object members key :: around =>
    abandon (.object (members.reverse ++ [(key, d)]) false) around

/-- The document that is left when reading stops at a value. -/
def Reading.stop (d : Draft) (around : List Frame) : Reading :=
  .stopped ⟨abandon d around, false⟩

/-- A token where a value is due. -/
def Reading.startValue (around : List Frame) : Token → Reading
  | .null => .after .null around
  | .bool b => .after (.bool b) around
  | .number n => .after (.number n) around
  | .string s => .after (.text s) around
  | .openArray => .firstItem around
  | .openObject => .member true [] around
  | _ => .stop .fault around

def Reading.step : Reading → Token → Reading
  | .value around, t => .startValue around t
  | .firstItem around, .closeArray => .after (.array [] true) around
  | .firstItem around, t => .startValue (.array [] :: around) t
  | .member _ members around, .string s => .colon members s around
  | .member true members around, .closeObject => .after (.object members.reverse true) around
  | .member _ members around, _ => .stop (.object members.reverse false) around
  | .colon members key around, .colon => .value (.object members key :: around)
  | .colon members key around, _ => .stop .fault (.object members key :: around)
  | .after d [], _ => .stopped ⟨d, true⟩
  | .after d (.array items :: around), .comma => .value (.array (d :: items) :: around)
  | .after d (.array items :: around), .closeArray =>
    .after (.array (d :: items).reverse true) around
  | .after d (.array items :: around), _ => .stop (.array (d :: items).reverse false) around
  | .after d (.object members key :: around), .comma => .member false ((key, d) :: members) around
  | .after d (.object members key :: around), .closeObject =>
    .after (.object ((key, d) :: members).reverse true) around
  | .after d (.object members key :: around), _ =>
    .stop (.object ((key, d) :: members).reverse false) around
  | .stopped document, _ => .stopped document

def Reading.finish : Reading → Document
  | .value around => ⟨abandon .fault around, false⟩
  | .firstItem around => ⟨abandon (.array [] false) around, false⟩
  | .member _ members around => ⟨abandon (.object members.reverse false) around, false⟩
  | .colon members key around => ⟨abandon .fault (.object members key :: around), false⟩
  | .after d [] => ⟨d, false⟩
  | .after d (.array items :: around) => ⟨abandon (.array (d :: items).reverse false) around, false⟩
  | .after d (.object members key :: around) =>
    ⟨abandon (.object ((key, d) :: members).reverse false) around, false⟩
  | .stopped document => document

def Document.ofTokens (ts : List Token) : Document := (ts.foldl Reading.step (.value [])).finish

def Document.ofBytes (b : Bytes) : Document := .ofTokens (tokens b)

end PaymentCredentials.Json
