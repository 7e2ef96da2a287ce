import ChatPlatform.Foundation.JsonScan
import ChatPlatform.Foundation.Keyed

/-!
# Reading JSON

A strict reader of JSON texts. The fuel bounds the nesting of its calls; twice the
length of the text is enough for what was written. A value whose floating-point
numbers are finite and whose dictionaries have distinct keys is read back from its
text.
-/

namespace ChatPlatform
namespace Json

variable {F : Type} [FloatOps F]

/-- What a reader takes beyond strict JSON. -/
structure Reading where
  /-- `NaN` and the infinities are numbers. -/
  constants : Bool
  /-- A repeated key overwrites what is under it. -/
  repeats : Bool

/-- White space between tokens. -/
def isBlank (c : Char) : Bool := c = ' ' || c = '\t' || c = '\n' || c = '\r'

/-- What follows white space. -/
def skipBlank (text : Str) : Str := text.dropWhile isBlank

/-- The words that stand for a value. -/
def words (reading : Reading) : List (Str × Option (Value F)) :=
  [("null".toList, some .none), ("true".toList, some (.bool true)),
    ("false".toList, some (.bool false))] ++
    if reading.constants then
      ["NaN".toList, "Infinity".toList, "-Infinity".toList].map fun word =>
        (word, (FloatOps.ofText word).map .float)
    else []

/-- A word or a number at the front of a text. -/
def readAtom (reading : Reading) (text : Str) : Option (Value F × Str) :=
  match (words reading).find? fun word => word.1.isPrefixOf text with
  | some (word, value) => value.map fun value => (value, text.drop word.length)
  | none => scanNumber text

/-- The dictionary of some pairs. -/
def dictionary (reading : Reading) (pairs : List (Str × Value F)) : Option (Value F) :=
  if reading.repeats ∨ (pairs.map (·.1)).Nodup then some (.dict (Keyed.ofList pairs))
  else none

/-- The key of an entry and the colon after it. -/
def readKey : Nat → Str → Option (Str × Str)
  | _, [] => none
  | fuel, c :: rest =>
      if c = '"' then
        match scanChars fuel rest with
        | none => none
        | some (key, rest) =>
            match skipBlank rest with
            | [] => none
            | c :: rest => if c = ':' then some (key, skipBlank rest) else none
      else none

mutual
/-- The value at the front of a text. -/
def readValue (reading : Reading) : Nat → Str → Option (Value F × Str)
  | 0, _ => none
  | fuel + 1, text =>
      match text with
      | [] => none
      | c :: rest =>
          if c = '"' then
            (scanChars (fuel + 1) rest).map fun scanned => (.str scanned.1, scanned.2)
          else if c = '[' then
            if (skipBlank rest).head? = some ']' then
              some (.list [], (skipBlank rest).drop 1)
            else
              (readItems reading fuel (skipBlank rest)).map fun items =>
                (.list items.1, items.2)
          else if c = '\x7b' then
            if (skipBlank rest).head? = some '\x7d' then
              some (.dict [], (skipBlank rest).drop 1)
            else
              (readEntries reading fuel (skipBlank rest)).bind fun entries =>
                (dictionary reading entries.1).map fun value => (value, entries.2)
          else readAtom reading (c :: rest)
/-- The items of a list, up to its end. -/
def readItems (reading : Reading) : Nat → Str → Option (List (Value F) × Str)
  | 0, _ => none
  | fuel + 1, text =>
      match readValue reading fuel text with
      | none => none
      | some (item, rest) =>
          match skipBlank rest with
          | [] => none
          | c :: rest =>
              if c = ',' then
                (readItems reading fuel (skipBlank rest)).map fun items =>
                  (item :: items.1, items.2)
              else if c = ']' then some ([item], rest)
              else none
/-- The entries of a dictionary, up to its end. -/
def readEntries (reading : Reading) : Nat → Str → Option (List (Str × Value F) × Str)
  | 0, _ => none
  | fuel + 1, text =>
      match readKey fuel text with
      | none => none
      | some (key, rest) =>
          match readValue reading fuel rest with
          | none => none
          | some (value, rest) =>
              match skipBlank rest with
              | [] => none
              | c :: rest =>
                  if c = ',' then
                    (readEntries reading fuel (skipBlank rest)).map fun entries =>
                      ((key, value) :: entries.1, entries.2)
                  else if c = '\x7d' then some ([(key, value)], rest)
                  else none
end

/-- The value of a whole text. -/
def loads (reading : Reading) (text : Str) : Option (Value F) :=
  match readValue reading (2 * text.length + 2) (skipBlank text) with
  | none => none
  | some (value, rest) => if skipBlank rest = [] then some value else none

/-! ## What can be written -/

/-- A floating-point number is finite. -/
def isFinite (x : F) : Bool :=
  match FloatOps.truncate x with
  | .ok _ => true
  | .error _ => false

/-- The text of a finite number is a number, and it is read as the number it was
written for. -/
class ReadableFloats (F : Type) [FloatOps F] : Prop where
  /-- It is written with the characters of numbers. -/
  token : ∀ x : F, isFinite x = true → (FloatOps.text x).all isNumberChar = true
  /-- It has its value. -/
  value : ∀ x : F, isFinite x = true → numberValue (FloatOps.text x) = some (.float x)

instance : ReadableFloats Empty where
  token := nofun
  value := nofun

mutual
/-- Every number and the keys of every dictionary of a value pass a test. -/
def everywhere (number : F → Bool) (keys : List Str → Bool) : Value F → Bool
  | .float x => number x
  | .list items => everywhereItems number keys items
  | .dict entries => keys (entries.map (·.1)) && everywhereEntries number keys entries
  | _ => true
/-- The same for every item of a list. -/
def everywhereItems (number : F → Bool) (keys : List Str → Bool) : List (Value F) → Bool
  | [] => true
  | item :: rest => everywhere number keys item && everywhereItems number keys rest
/-- The same for every entry of a dictionary. -/
def everywhereEntries (number : F → Bool) (keys : List Str → Bool) :
    List (Str × Value F) → Bool
  | [] => true
  | (_, value) :: rest => everywhere number keys value && everywhereEntries number keys rest
end

omit [FloatOps F] in
/-- A test of the entries is one of every value. -/
theorem everywhereEntries_eq_all
    (number : F → Bool)
    (keys : List Str → Bool)
    (entries : List (Str × Value F)) :
    everywhereEntries number keys entries =
      entries.all fun entry => everywhere number keys entry.2 := by
  induction entries with
  | nil => rfl
  | cons entry rest inductionHypothesis =>
      rw [everywhereEntries, inductionHypothesis]
      rfl

/-- No number of a value is infinite or not a number. -/
def finite (value : Value F) : Bool := everywhere isFinite (fun _ => true) value

/-- The keys of every dictionary of a value are distinct. -/
def wellKeyed (value : Value F) : Bool :=
  everywhere (fun _ => true) (fun keys => decide keys.Nodup) value

/-- A value that is read back from its text. -/
def readable (value : Value F) : Bool := everywhere isFinite (fun keys => decide keys.Nodup) value

end Json
end ChatPlatform
