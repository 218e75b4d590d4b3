import Dcvp.Js
import Dcvp.Lib.Delimited

/-!
# `Dcvp.Json`: the values of `JSON.parse`

What an external service answers is untrusted JSON. `JsonValue` is such a value, and the functions
read it as the validators of the services do. A number literal that is too large for a double is
`infinity`. Where a literal repeats a member, `JSON.parse` keeps the last one.

The parser itself is a parameter of what uses it. `ParsesJson` has what is documented of it where a
result depends on that.
-/

set_option autoImplicit false

namespace Dcvp

/-- A value that `JSON.parse` can return. Numbers are exact, and a literal that is too large for a
double is one of the two infinities; an object is the list of its members in the order of the text,
so a repeated key stays visible. -/
inductive JsonValue where
  | null
  | bool (value : Bool)
  | number (value : Rat)
  | infinity (negative : Bool)
  | string (value : String)
  | array (items : List JsonValue)
  | object (members : List (String × JsonValue))

namespace JsonValue

/-- The members of an object. An array, `null` and a value that is no object have none. -/
def members? : JsonValue → Option (List (String × JsonValue))
  | .object members => some members
  | _ => none

/-- The text of a string, and nothing for a value of another kind. -/
def string? : JsonValue → Option String
  | .string value => some value
  | _ => none

end JsonValue

/-- `hasOwnProperty` and `Reflect.get`: the value of a member, or `none` for `undefined`. -/
def readUnknown (members : List (String × JsonValue)) (key : String) : Option JsonValue :=
  (members.reverse.find? (·.1 = key)).map (·.2)

/-- `{ ...members, ...others }`. A member of both has the value of `others`. -/
def spread (members others : List (String × JsonValue)) : List (String × JsonValue) :=
  members ++ others

/-- `value === text` for a text, which a value of another kind never meets. -/
def isText (value : Option JsonValue) (text : String) : Bool :=
  match value with
  | some (.string value) => decide (value = text)
  | _ => false

/-- A score that a service may answer: a finite number from 0 to 100. -/
def validScore : Option JsonValue → Option Rat
  | some (.number value) => if value < 0 ∨ 100 < value then none else some value
  | _ => none

/-- The value is `true` itself, and not one that merely counts as true. -/
def isTrueValue : Option JsonValue → Bool
  | some (.bool true) => true
  | _ => false

/-- A spread object has the members of its second part, and those of the first one that the second
part does not name. -/
@[simp] theorem readUnknown_spread (members others : List (String × JsonValue)) (key : String) :
    readUnknown (spread members others) key
      = (readUnknown others key).or (readUnknown members key) := by
  unfold readUnknown spread
  rw [List.reverse_append, List.find?_append]
  cases others.reverse.find? (·.1 = key) <;> rfl

/-- A score is a number from 0 to 100. Nothing else passes for one, no text and no boolean. -/
theorem validScore_eq_some {value : Option JsonValue} {score : Rat} :
    validScore value = some score ↔
      value = some (.number score) ∧ 0 ≤ score ∧ score ≤ 100 := by
  unfold validScore
  split
  · rename_i n
    split
    · rename_i hout
      constructor
      · intro h
        -- The value is a number, but outside of the range: `validScore` answers nothing.
        cases h
      · rintro ⟨heq, hlow, hhigh⟩
        cases heq
        exact absurd hout (by grind)
    · rename_i hin
      constructor
      · intro h
        cases h
        exact ⟨rfl, by grind, by grind⟩
      · rintro ⟨heq, -, -⟩
        cases heq
        rfl
  -- Every other value falls through to the last branch of the match.
  · rename_i hnone
    constructor
    · intro h
      cases h
    · rintro ⟨heq, -, -⟩
      exact absurd heq (hnone score)

/-! ### The parser -/

/-- The white space of the JSON grammar: four of the characters that ECMAScript counts as white
space. -/
def isJsonSpace (c : Char) : Bool := decide (c = ' ' ∨ c = '\t' ∨ c = '\n' ∨ c = '\r')

/-- The text of a value, without the white space that the grammar allows around it. -/
def trimJson (raw : String) : String := String.ofList (Lib.trimmed isJsonSpace raw.toList)

/-- What is documented of `JSON.parse`, which answers `none` for a `SyntaxError`.
* White space of JSON around a value is allowed, and makes no difference.
* No value begins or ends with white space of ECMAScript, so any other white space at an end of
  the text, a byte order mark for example, is a `SyntaxError`. -/
structure ParsesJson (parseJson : String → Option JsonValue) : Prop where
  padding : ∀ raw, parseJson raw = parseJson (trimJson raw)
  strict : ∀ raw, Js.trim raw ≠ trimJson raw → parseJson raw = none

/-- White space of JSON is white space of ECMAScript. -/
theorem isWhiteSpace_of_isJsonSpace (c : Char) (h : isJsonSpace c = true) :
    Js.isWhiteSpace c = true := by
  rcases of_decide_eq_true h with rfl | rfl | rfl | rfl <;> rfl

/-- The text of a value is left alone. -/
theorem trimJson_trimJson (raw : String) : trimJson (trimJson raw) = trimJson raw := by
  unfold trimJson
  rw [String.toList_ofList, Lib.trimmed_trimmed (fun _ h => h)]

/-- `trim` leaves out the white space of JSON as well. -/
theorem trim_trimJson (raw : String) : Js.trim (trimJson raw) = Js.trim raw := by
  have htrimmed := Lib.trimmed_trimmed isWhiteSpace_of_isJsonSpace raw.toList
  show String.ofList (Lib.trimmed Js.isWhiteSpace (trimJson raw).toList) =
    String.ofList (Lib.trimmed Js.isWhiteSpace raw.toList)
  unfold trimJson
  rw [String.toList_ofList, htrimmed]

end Dcvp
