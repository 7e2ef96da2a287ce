import ChatPlatform.Foundation.Value

/-!
# Operations that depend on the type of a value

Equality, membership, conversion to numbers, dictionaries and text. An operation
that the type of its operand does not support raises, and so does a conversion of
something that has no counterpart.
-/

namespace ChatPlatform

/-- The class of an exception that an operation on values raises. -/
inductive ValueFault
  | typeError
  | valueError
  | keyError
  | attributeError
  | overflowError
  deriving DecidableEq, Repr

namespace Value

variable {F : Type} [FloatOps F]

/-- Equality of a number that is an integer or a truth value with another value. -/
def equalsInt (left : Int) : Value F → Bool
  | .bool right => left = if right then 1 else 0
  | .int right => left = right
  | .float right => FloatOps.equalInt right left
  | .none | .str _ | .list _ | .dict _ => false

mutual
/-- `left == right`. -/
def equal : Value F → Value F → Bool
  | .none, .none => true
  | .bool left, right => equalsInt (if left then 1 else 0) right
  | .int left, right => equalsInt left right
  | .float left, .bool right => FloatOps.equalInt left (if right then 1 else 0)
  | .float left, .int right => FloatOps.equalInt left right
  | .float left, .float right => FloatOps.equal left right
  | .str left, .str right => left = right
  | .list left, .list right => equalItems left right
  | .dict left, .dict right =>
      left.length = right.length && equalEntries left right
  | _, _ => false
/-- Equality of lists, item by item. -/
def equalItems : List (Value F) → List (Value F) → Bool
  | [], [] => true
  | left :: lefts, right :: rights => equal left right && equalItems lefts rights
  | _, _ => false
/-- Whether every entry has an equal one under the same key. -/
def equalEntries : List (Str × Value F) → List (Str × Value F) → Bool
  | [], _ => true
  | (key, left) :: lefts, rights =>
      (match Dict.get rights key with
        | some right => equal left right
        | Option.none => false) && equalEntries lefts rights
end

/-- `value in container`. -/
def isIn (value : Value F) : Value F → Except ValueFault Bool
  | .list items => .ok (items.any fun item => equal item value)
  | .dict entries =>
      match value with
      | .str key => .ok (key ∈ Dict.keys entries)
      | .list _ | .dict _ => .error .typeError
      | _ => .ok false
  | .str text =>
      match value with
      | .str needle => .ok (Text.contains needle text)
      | _ => .error .typeError
  | .none | .bool _ | .int _ | .float _ => .error .typeError

/-- Most digits of an integer that is read from or written to text. -/
def maxIntDigits : Nat := 4300

/-- `int(value)`. -/
def asInt : Value F → Except ValueFault Int
  | .bool value => .ok (if value then 1 else 0)
  | .int value => .ok value
  | .float value =>
      match FloatOps.truncate value with
      | .ok whole => .ok whole
      | .error .overflow => .error .overflowError
      | .error .notANumber => .error .valueError
  | .str text =>
      if maxIntDigits < (text.filter fun c => (Numeral.digitValue c).isSome).length then
        .error .valueError
      else
        match Numeral.intLiteral 10 text with
        | some value => .ok value
        | Option.none => .error .valueError
  | .none | .list _ | .dict _ => .error .typeError

/-- `float(value)`. -/
def asFloat : Value F → Except ValueFault F
  | .bool value =>
      match FloatOps.ofInt (if value then 1 else 0) with
      | some number => .ok number
      | Option.none => .error .overflowError
  | .int value =>
      match FloatOps.ofInt value with
      | some number => .ok number
      | Option.none => .error .overflowError
  | .float value => .ok value
  | .str text =>
      match FloatOps.ofText text with
      | some number => .ok number
      | Option.none => .error .valueError
  | .none | .list _ | .dict _ => .error .typeError

/-- The two values of an item that `dict` takes for an entry. -/
def asPair : Value F → Except ValueFault (Value F × Value F)
  | .list [key, value] => .ok (key, value)
  | .list _ => .error .valueError
  | .str [key, value] => .ok (.str [key], .str [value])
  | .str _ => .error .valueError
  | .dict [(key, _), (value, _)] => .ok (.str key, .str value)
  | .dict _ => .error .valueError
  | .none | .bool _ | .int _ | .float _ => .error .typeError

/-- Store an entry; one whose key is no string is never looked up again. -/
def storePair (entries : Dict F) (pair : Value F × Value F) :
    Except ValueFault (Dict F) :=
  match pair.1 with
  | .str key => .ok (Dict.set entries key pair.2)
  | .list _ | .dict _ => .error .typeError
  | _ => .ok entries

/-- The dictionary of a sequence of entries. -/
def entriesFrom (entries : Dict F) : List (Value F) → Except ValueFault (Dict F)
  | [] => .ok entries
  | item :: rest => do
      let pair ← asPair item
      let entries ← storePair entries pair
      entriesFrom entries rest

/-- `dict(value)`. -/
def asDict : Value F → Except ValueFault (Dict F)
  | .dict entries => .ok entries
  | .list items => entriesFrom [] items
  | .str text => entriesFrom [] (text.map fun c => .str [c])
  | .none | .bool _ | .int _ | .float _ => .error .typeError

/-- `value.get(key)`. -/
def getAttribute (value : Value F) (key : Str) :
    Except ValueFault (Option (Value F)) :=
  match value with
  | .dict entries => .ok (Dict.get entries key)
  | _ => .error .attributeError

/-- `value[key]` for a string key. -/
def getItem (value : Value F) (key : Str) : Except ValueFault (Value F) :=
  match value with
  | .dict entries =>
      match Dict.get entries key with
      | some item => .ok item
      | Option.none => .error .keyError
  | _ => .error .typeError

/-- `str(value)`; the texts of lists and dictionaries are given by `shown`. -/
def asText (shown : Value F → Str) : Value F → Str
  | .none => "None".toList
  | .bool true => "True".toList
  | .bool false => "False".toList
  | .int value => Numeral.decimal value
  | .float value => FloatOps.text value
  | .str text => text
  | value => shown value

example : equal (F := Empty) (.list [.bool true, .str "a".toList])
    (.list [.int 1, .str "a".toList]) = true := by decide

end Value
end ChatPlatform
