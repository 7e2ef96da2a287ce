import ChatPlatform.Foundation.Numeral
import Mathlib.Data.List.Sort

/-!
# Dynamic values and their JSON text

The values a dynamically typed program passes around in dictionaries, over an
arbitrary type `F` of floating-point numbers, and the text `json.dumps` writes
for them with compact separators. A dictionary is the list of its entries in
insertion order.
-/

namespace ChatPlatform

/-- A dynamic value. -/
inductive Value (F : Type)
  | none
  | bool (value : Bool)
  | int (value : Int)
  | float (value : F)
  | str (value : Str)
  | list (items : List (Value F))
  | dict (entries : List (Str × Value F))

/-- Entries of a dictionary in insertion order. -/
abbrev Dict (F : Type) := List (Str × Value F)

/-- Why a floating-point number has no integer part. -/
inductive FloatFault
  /-- It is infinite: `OverflowError`. -/
  | overflow
  /-- It is not a number: `ValueError`. -/
  | notANumber
  deriving DecidableEq, Repr

/-- What a program does with floating-point numbers. -/
class FloatOps (F : Type) where
  /-- The text of a floating-point number. -/
  text : F → Str
  /-- Whether the number is zero. -/
  isZero : F → Bool
  /-- The integer part. -/
  truncate : F → Except FloatFault Int
  /-- The nearest number to an integer, unless the integer is too large. -/
  ofInt : Int → Option F
  /-- The number a text denotes, if it denotes one. -/
  ofText : Str → Option F
  /-- Whether two numbers are equal. -/
  equal : F → F → Bool
  /-- Whether a number is equal to an integer. -/
  equalInt : F → Int → Bool

/-- A program without floating-point numbers. -/
instance : FloatOps Empty where
  text := nofun
  isZero := nofun
  truncate := nofun
  ofInt := fun _ => none
  ofText := fun _ => none
  equal := nofun
  equalInt := nofun

namespace Value

variable {F : Type} [FloatOps F]

/-- Whether a value counts as true. -/
def truthy : Value F → Bool
  | .none => false
  | .bool value => value
  | .int value => value ≠ 0
  | .float value => !FloatOps.isZero value
  | .str value => !value.isEmpty
  | .list items => !items.isEmpty
  | .dict entries => !entries.isEmpty

/-- `int(value)`; `none` stands for the exception. -/
def toInt : Value F → Option Int
  | .bool value => some (if value then 1 else 0)
  | .int value => some value
  | .float value => (FloatOps.truncate value).toOption
  | .str value => Numeral.intLiteral 10 value
  | .none | .list _ | .dict _ => Option.none

end Value

namespace Dict

variable {F : Type}

/-- The value under a key, as `dict.get` returns it. -/
def get (entries : Dict F) (key : Str) : Option (Value F) :=
  (entries.find? fun entry => entry.1 = key).map (·.2)

/-- The string under a key, if there is one. -/
def getStr (entries : Dict F) (key : Str) : Option Str :=
  match get entries key with
  | some (.str text) => some text
  | _ => none

/-- The dictionary under a key, if there is one. -/
def getDict (entries : Dict F) (key : Str) : Option (Dict F) :=
  match get entries key with
  | some (.dict fields) => some fields
  | _ => none

/-- `int(...)` of what is under a key; nothing when it is absent or not an
integer. -/
def safeInt [FloatOps F] (entries : Dict F) (key : Str) : Option Int :=
  (get entries key).bind Value.toInt

/-- The keys in insertion order. -/
def keys (entries : Dict F) : List Str := entries.map (·.1)

/-- Store a value under a key: in the key's place if it is present, at the end
otherwise. -/
def set (entries : Dict F) (key : Str) (value : Value F) : Dict F :=
  if key ∈ keys entries then
    entries.map fun entry => if entry.1 = key then (key, value) else entry
  else entries ++ [(key, value)]

/-- `{**left, **right}`: the entries of `right` stored over those of `left`. -/
def merge (left right : Dict F) : Dict F :=
  right.foldl (fun merged entry => set merged entry.1 entry.2) left

/-- Whether the set of keys is the given one. -/
def hasKeySet (entries : Dict F) (required : List Str) : Bool :=
  (keys entries).all (· ∈ required) && required.all (· ∈ keys entries)

@[simp] theorem get_nil (key : Str) : get ([] : Dict F) key = none := rfl

@[simp] theorem get_cons (entry : Str × Value F) (rest : Dict F) (key : Str) :
    get (entry :: rest) key = if entry.1 = key then some entry.2 else get rest key := by
  unfold get
  rw [List.find?_cons]
  by_cases same : entry.1 = key <;> simp [same]

@[simp] theorem merge_nil_right (left : Dict F) : merge left [] = left := rfl

@[simp] theorem merge_singleton (left : Dict F) (key : Str) (value : Value F) :
    merge left [(key, value)] = set left key value := rfl

@[simp] theorem set_nil (key : Str) (value : Value F) :
    set [] key value = [(key, value)] := rfl

end Dict

namespace Json

/-- Lexicographic order of keys by code point. -/
def keyLe : Str → Str → Bool
  | [], _ => true
  | _ :: _, [] => false
  | c :: left, d :: right => c.toNat < d.toNat || (c == d && keyLe left right)

/-- Options of the writer. -/
structure Style where
  /-- Write the entries of a dictionary in the order of their keys. -/
  sortKeys : Bool
  /-- Escape every character outside ASCII. -/
  ensureAscii : Bool

/-- The four hexadecimal digits of one escaped code unit. -/
def unicodeEscape (unit : Nat) : Str :=
  '\\' :: 'u' :: Numeral.hexText 4 unit

/-- One character of a string literal. -/
def escapeChar (style : Style) (c : Char) : Str :=
  let n := c.toNat
  if c = '"' then ['\\', '"']
  else if c = '\\' then ['\\', '\\']
  else if c = '\n' then ['\\', 'n']
  else if c = '\r' then ['\\', 'r']
  else if c = '\t' then ['\\', 't']
  else if n = 12 then ['\\', 'f']
  else if n = 8 then ['\\', 'b']
  else if n < 32 then unicodeEscape n
  else if style.ensureAscii && 126 < n then
    if n < 0x10000 then unicodeEscape n
    else
      unicodeEscape (0xD800 + (n - 0x10000) / 0x400) ++
        unicodeEscape (0xDC00 + (n - 0x10000) % 0x400)
  else [c]

/-- A string literal. -/
def quote (style : Style) (s : Str) : Str :=
  '"' :: s.flatMap (escapeChar style) ++ ['"']

variable {F : Type} [FloatOps F]

/-- An object from its keys and written values. -/
def object (style : Style) (entries : List (Str × Str)) : Str :=
  let ordered :=
    if style.sortKeys then
      entries.insertionSort fun left right => keyLe left.1 right.1
    else entries
  '{' :: Text.join [',']
    (ordered.map fun entry => quote style entry.1 ++ ':' :: entry.2) ++ ['}']

mutual
/-- The JSON text of a value. -/
def dumps (style : Style) : Value F → Str
  | .none => "null".toList
  | .bool true => "true".toList
  | .bool false => "false".toList
  | .int n => Numeral.decimal n
  | .float x => FloatOps.text x
  | .str s => quote style s
  | .list items => '[' :: Text.join [','] (dumpsItems style items) ++ [']']
  | .dict entries => object style (dumpsEntries style entries)
/-- The JSON texts of the items of a list. -/
def dumpsItems (style : Style) : List (Value F) → List Str
  | [] => []
  | item :: rest => dumps style item :: dumpsItems style rest
/-- The keys and JSON texts of the entries of a dictionary. -/
def dumpsEntries (style : Style) : List (Str × Value F) → List (Str × Str)
  | [] => []
  | (key, value) :: rest =>
      (key, dumps style value) :: dumpsEntries style rest
end

/-- Items are written one by one. -/
theorem dumpsItems_eq_map (style : Style) (items : List (Value F)) :
    dumpsItems style items = items.map (dumps style) := by
  induction items with
  | nil => rfl
  | cons item rest inductionHypothesis => rw [dumpsItems, inductionHypothesis, List.map_cons]

/-- Entries are written one by one. -/
theorem dumpsEntries_eq_map (style : Style) (entries : List (Str × Value F)) :
    dumpsEntries style entries = entries.map fun entry => (entry.1, dumps style entry.2) := by
  induction entries with
  | nil => rfl
  | cons entry rest inductionHypothesis =>
      rw [dumpsEntries, inductionHypothesis, List.map_cons]

example : dumps (F := Empty) ⟨true, false⟩
    (.dict [("b".toList, .int (-12)), ("a".toList, .str "x\"\n".toList)]) =
      "\x7b\"a\":\"x\\\"\\n\",\"b\":-12\x7d".toList := by decide

end Json
end ChatPlatform
