import MiniTun.Common.Bytes

/-!
# JSON values

The values of the JSON library and the edits the policy code makes to them.  An
object is the list of its members in key order, which is how the library stores
it.  Reading and writing texts is the library's work: `JsonLibrary` names its
functions, and a statement that depends on how they behave says so as a
hypothesis.
-/

namespace MiniTun

/-- A JSON value.  `number` is an integer; every other number, and the text `-0`,
which the library does not count as unsigned, is a `float`. -/
inductive Json where
  | null
  | boolean (value : Bool)
  | number (value : Int)
  | float (text : Bytes)
  | string (text : Bytes)
  | array (items : List Json)
  | object (fields : List (Bytes × Json))

namespace Json

/-! ## Reading a value -/

def text? : Json → Option Bytes
  | .string text => some text
  | _ => none

def boolean? : Json → Option Bool
  | .boolean value => some value
  | _ => none

/-- `is_number_unsigned` with `get<std::uint64_t>`. -/
def unsigned? : Json → Option Nat
  | .number value => if 0 ≤ value then some value.toNat else none
  | _ => none

def items? : Json → Option (List Json)
  | .array items => some items
  | _ => none

def isObject : Json → Bool
  | .object _ => true
  | _ => false

def size : Json → Nat
  | .null => 0
  | .array items => items.length
  | .object fields => fields.length
  | _ => 1

def lookupField (fields : List (Bytes × Json)) (key : Bytes) : Option Json :=
  (fields.find? fun field => field.1 = key).map Prod.snd

/-- The member of an object, if the value is an object that has it. -/
def field? : Json → Bytes → Option Json
  | .object fields, key => lookupField fields key
  | _, _ => none

def contains (value : Json) (key : Bytes) : Bool :=
  (value.field? key).isSome

def keys : Json → List Bytes
  | .object fields => fields.map Prod.fst
  | _ => []

/-! ## Editing an object -/

/-- Put a member at its place in the key order. -/
def insertField : List (Bytes × Json) → Bytes → Json → List (Bytes × Json)
  | [], key, value => [(key, value)]
  | (k, v) :: rest, key, value =>
    if k = key then (key, value) :: rest
    else if key < k then (key, value) :: (k, v) :: rest
    else (k, v) :: insertField rest key value

/-- `object[key] = value`; a null value becomes an object. -/
def setField : Json → Bytes → Json → Json
  | .object fields, key, value => .object (insertField fields key value)
  | .null, key, value => .object [(key, value)]
  | other, _, _ => other

def eraseField : Json → Bytes → Json
  | .object fields, key => .object (fields.filter fun field => field.1 ≠ key)
  | other, _ => other

/-- An object from an initializer list. -/
def ofFields (fields : List (Bytes × Json)) : Json :=
  fields.foldl (fun object field => object.setField field.1 field.2) (.object [])

theorem lookupField_insertField (flds : List (Bytes × Json)) (key : Bytes) (val : Json)
    (k : Bytes) :
    lookupField (insertField flds key val) k =
      if k = key then some val else lookupField flds k := by
  induction flds with
  | nil => by_cases h : k = key <;> simp [insertField, lookupField, eq_comm]
  | cons field rest ih =>
    obtain ⟨k', v⟩ := field
    unfold lookupField at ih ⊢
    unfold insertField
    by_cases hk : k = key
    · subst hk
      split
      · simp
      · split
        · simp
        · next hne _ => simpa [hne] using ih
    · split
      · next heq => subst heq; simp [Ne.symm hk]
      · split
        · simp [Ne.symm hk]
        · by_cases hkk : k' = k
          · simp [hkk]
          · simpa [hkk, hk] using ih

theorem field?_setField {val : Json} (h : val.isObject = true) (key : Bytes)
    (new : Json) (k : Bytes) :
    (val.setField key new).field? k = if k = key then some new else val.field? k := by
  cases val with
  | object flds => exact lookupField_insertField flds key new k
  | _ => cases h

theorem isObject_setField {val : Json} (h : val.isObject = true) (key : Bytes) (new : Json) :
    (val.setField key new).isObject = true := by
  cases val with
  | object flds => rfl
  | _ => cases h

end Json

/-! ## The library -/

/-- What the parser reports to its callback. -/
inductive ParseEvent where
  | objectStart
  | objectEnd
  | arrayStart
  | arrayEnd
  | key (text : Bytes)
  /-- A value that is not an array or object, with its text if it is a string. -/
  | value (text : Option Bytes)

/-- What is used of `nlohmann::json`. -/
structure JsonLibrary where
  /-- `Json::parse`; `none` where it throws. -/
  parse : Bytes → Option Json
  /-- The events `Json::parse` reports while it reads a text. -/
  events : Bytes → List ParseEvent
  /-- `dump` with the given indentation, or none; `none` where it throws. -/
  dump : Option Nat → Json → Option Bytes

/-! ## A library for concrete runs

On values whose strings need no escapes, `write` is what `dump` prints, and
`events` is what the parser reports while it reads that text.  `ofValues` reads
the texts of some values and no others. -/

namespace Json

def lineBreak (indent : Option Nat) (level : Nat) : Bytes :=
  match indent with
  | none => []
  | some width => 10 :: List.replicate (width * level) 32

def colon (indent : Option Nat) : Bytes :=
  if indent.isSome then [58, 32] else [58]

def quoted (text : Bytes) : Bytes :=
  34 :: text ++ [34]

def integerText : Int → Bytes
  | .ofNat n => decimal n
  | .negSucc n => 45 :: decimal (n + 1)

mutual

def write (indent : Option Nat) (level : Nat) : Json → Bytes
  | .null => ascii "null"
  | .boolean true => ascii "true"
  | .boolean false => ascii "false"
  | .number value => integerText value
  | .float text => text
  | .string text => quoted text
  | .array [] => [91, 93]
  | .array (item :: items) =>
    91 :: lineBreak indent (level + 1) ++ write indent (level + 1) item ++
      writeItems indent (level + 1) items ++ lineBreak indent level ++ [93]
  | .object [] => [123, 125]
  | .object ((key, value) :: fields) =>
    123 :: lineBreak indent (level + 1) ++ quoted key ++ colon indent ++
      write indent (level + 1) value ++ writeFields indent (level + 1) fields ++
      lineBreak indent level ++ [125]

def writeItems (indent : Option Nat) (level : Nat) : List Json → Bytes
  | [] => []
  | item :: items =>
    44 :: lineBreak indent level ++ write indent level item ++ writeItems indent level items

def writeFields (indent : Option Nat) (level : Nat) : List (Bytes × Json) → Bytes
  | [] => []
  | (key, value) :: fields =>
    44 :: lineBreak indent level ++ quoted key ++ colon indent ++
      write indent level value ++ writeFields indent level fields

end

mutual

def events : Json → List ParseEvent
  | .array items => .arrayStart :: eventsItems items ++ [.arrayEnd]
  | .object fields => .objectStart :: eventsFields fields ++ [.objectEnd]
  | .string text => [.value (some text)]
  | _ => [.value none]

def eventsItems : List Json → List ParseEvent
  | [] => []
  | item :: items => events item ++ eventsItems items

def eventsFields : List (Bytes × Json) → List ParseEvent
  | [] => []
  | (key, value) :: fields => .key key :: events value ++ eventsFields fields

end

end Json

/-- The library on the texts of the given values, printed compactly or with an
indentation of two. -/
def JsonLibrary.ofValues (values : List Json) : JsonLibrary :=
  let find := fun text => values.find? fun value =>
    value.write (some 2) 0 = text ∨ value.write none 0 = text
  { parse := find
    events := fun text => ((find text).map Json.events).getD []
    dump := fun indent value => some (value.write indent 0) }

end MiniTun
