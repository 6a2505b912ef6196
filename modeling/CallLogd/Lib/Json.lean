/-
JSON values, `json.loads`, and the operations that Python has on decoded values.

Objects keep the order of their keys and the last of several equal keys wins.
An integer literal is an integer, any other numeric literal the double nearest to
it.  The interpreter bounds the digits of an integer and the nesting of a value.
An escaped surrogate that is not half of a pair, which Python keeps in the string,
is read as U+FFFD.
-/
import CallLogd.Lib.Double
import CallLogd.Lib.Text

/-- Decoded JSON values. -/
inductive Json where
  | null
  | bool (b : Bool)
  | int (n : ℤ)
  | float (x : Float.Model)
  | str (s : String)
  | arr (items : List Json)
  | obj (fields : List (String × Json))
deriving Repr, Inhabited

namespace Json

/-! ### Decidable equality -/

mutual

/-- Equality of values is decidable. -/
def decEq : (a b : Json) → Decidable (a = b)
  | null, null => isTrue rfl
  | bool a, bool b => decidable_of_iff (a = b) (by simp)
  | int a, int b => decidable_of_iff (a = b) (by simp)
  | float a, float b => decidable_of_iff (a = b) (by simp)
  | str a, str b => decidable_of_iff (a = b) (by simp)
  | arr a, arr b =>
      have := decEqItems a b
      decidable_of_iff (a = b) (by simp)
  | obj a, obj b =>
      have := decEqFields a b
      decidable_of_iff (a = b) (by simp)
  | null, bool _ | null, int _ | null, float _ | null, str _ | null, arr _ | null, obj _
  | bool _, null | bool _, int _ | bool _, float _ | bool _, str _ | bool _, arr _
  | bool _, obj _ | int _, null | int _, bool _ | int _, float _ | int _, str _ | int _, arr _
  | int _, obj _ | float _, null | float _, bool _ | float _, int _ | float _, str _
  | float _, arr _ | float _, obj _ | str _, null | str _, bool _ | str _, int _
  | str _, float _ | str _, arr _ | str _, obj _ | arr _, null | arr _, bool _ | arr _, int _
  | arr _, float _ | arr _, str _ | arr _, obj _ | obj _, null | obj _, bool _ | obj _, int _
  | obj _, float _ | obj _, str _ | obj _, arr _ =>
      isFalse (by simp)

/-- Equality of lists of values is decidable. -/
def decEqItems : (a b : List Json) → Decidable (a = b)
  | [], [] => isTrue rfl
  | [], _ :: _ | _ :: _, [] => isFalse (by simp)
  | a :: as, b :: bs =>
      have := decEq a b
      have := decEqItems as bs
      decidable_of_iff (a = b ∧ as = bs) (by simp)

/-- Equality of lists of fields is decidable. -/
def decEqFields : (a b : List (String × Json)) → Decidable (a = b)
  | [], [] => isTrue rfl
  | [], _ :: _ | _ :: _, [] => isFalse (by simp)
  | (k, a) :: as, (l, b) :: bs =>
      have := decEq a b
      have := decEqFields as bs
      decidable_of_iff ((k = l ∧ a = b) ∧ as = bs) (by simp)

end

instance : DecidableEq Json := decEq

/-! ### Operations on decoded values -/

/-- `bool(value)`. -/
def truthy : Json → Bool
  | null => false
  | bool b => b
  | int n => n != 0
  | float x => x != Float.Model.ofNat 0
  | str s => s != ""
  | arr items => !items.isEmpty
  | obj fields => !fields.isEmpty

/-- The integer that a value is, if it is one: `True` is `1` and `False` is `0`. -/
def int? : Json → Option ℤ
  | bool b => some (if b then 1 else 0)
  | int n => some n
  | _ => none

/-- The double `NaN`: `json.loads` gives the same object each time. -/
def isNaN : Json → Bool
  | float x => x.isNaN
  | _ => false

/-- An integer and a value. -/
def pyEqInt (n : ℤ) : Json → Bool
  | float x => Double.value x == some (n : ℚ)
  | b => b.int? == some n

mutual

/-- Python's `==` on decoded values: numbers are compared by their exact values,
and objects without regard to the order of their keys. -/
def pyEq : Json → Json → Bool
  | null, b => b == null
  | bool x, b => pyEqInt (if x then 1 else 0) b
  | int n, b => pyEqInt n b
  | float x, float y => x == y
  | float x, b => b.int?.any fun n => Double.value x == some (n : ℚ)
  | str s, b => b == str s
  | arr as, arr bs => pyEqItems as bs
  | arr _, _ => false
  | obj as, obj bs => as.length == bs.length && pyEqFields as bs
  | obj _, _ => false

/-- Equality of lists, item by item.  An item is equal to itself, also if it is `NaN`. -/
def pyEqItems : List Json → List Json → Bool
  | [], [] => true
  | a :: as, b :: bs => (a.isNaN && b.isNaN || pyEq a b) && pyEqItems as bs
  | _, _ => false

/-- Every field of the first object is in the second one. -/
def pyEqFields : List (String × Json) → List (String × Json) → Bool
  | [], _ => true
  | (k, a) :: as, bs =>
      (match bs.lookup k with
        | some b => a.isNaN && b.isNaN || pyEq a b
        | none => false) && pyEqFields as bs

end

/-- Values that can be a key of a `dict` or a member of a `set`. -/
def hashable : Json → Bool
  | arr _ => false
  | obj _ => false
  | _ => true

/-- `repr` of a string: quoted, with the quote, the backslash and the control
characters escaped. -/
def reprStr (s : String) : String :=
  let quote := if s.toList.contains '\'' && !s.toList.contains '"' then '"' else '\''
  let hex (n : ℕ) : Char := (Nat.toDigits 16 n).headD '0'
  let escape (c : Char) : List Char :=
    if c = quote ∨ c = '\\' then ['\\', c]
    else if c = '\n' then ['\\', 'n']
    else if c = '\r' then ['\\', 'r']
    else if c = '\t' then ['\\', 't']
    else if c.toNat < 32 ∨ c.toNat = 127 then
      ['\\', 'x', hex (c.toNat / 16), hex (c.toNat % 16)]
    else [c]
  String.ofList (quote :: s.toList.flatMap escape ++ [quote])

section ToText

variable (floatStr : Float.Model → String)

mutual

/-- `repr(value)`; `floatStr` prints the floating-point numbers. -/
def pyRepr : Json → String
  | null => "None"
  | bool b => if b then "True" else "False"
  | int n => toString n
  | float x => floatStr x
  | str s => reprStr s
  | arr items => "[" ++ ", ".intercalate (pyReprItems items) ++ "]"
  | obj fields => "\x7b" ++ ", ".intercalate (pyReprFields fields) ++ "\x7d"

/-- `repr` of the items of a list. -/
def pyReprItems : List Json → List String
  | [] => []
  | a :: as => pyRepr a :: pyReprItems as

/-- `repr` of the fields of an object. -/
def pyReprFields : List (String × Json) → List String
  | [] => []
  | (k, a) :: as => (reprStr k ++ ": " ++ pyRepr a) :: pyReprFields as

end

/-- `str(value)`. -/
def pyStr : Json → String
  | str s => s
  | v => pyRepr floatStr v

end ToText

/-! ### Decoding -/

/-- What `json.loads` raises. -/
inductive LoadsError where
  | jsonDecodeError
  /-- An integer literal has too many digits. -/
  | valueError
  /-- A value is nested too deeply. -/
  | recursionError
deriving DecidableEq, Repr

/-- The limits of the interpreter. -/
structure Limits where
  /-- The digits that an integer literal may have (`sys.get_int_max_str_digits`). -/
  digits : ℕ
  /-- The arrays and objects that may be open at once, before the stack is used up. -/
  nesting : ℕ

/-- The blanks between tokens. -/
def isBlank (c : Char) : Bool := c = ' ' ∨ c = '\t' ∨ c = '\n' ∨ c = '\r'

/-- Drop the blanks at the front of a text. -/
def skipBlanks (s : List Char) : List Char := s.dropWhile isBlank

/-- The value of a hexadecimal digit. -/
def hexValue (c : Char) : Option ℕ :=
  if '0' ≤ c ∧ c ≤ '9' then some (c.toNat - '0'.toNat)
  else if 'a' ≤ c ∧ c ≤ 'f' then some (c.toNat - 'a'.toNat + 10)
  else if 'A' ≤ c ∧ c ≤ 'F' then some (c.toNat - 'A'.toNat + 10)
  else none

/-- Four hexadecimal digits. -/
def hex4 : List Char → Option (ℕ × List Char)
  | a :: b :: c :: d :: s => do
      let a ← hexValue a
      let b ← hexValue b
      let c ← hexValue c
      let d ← hexValue d
      some (((a * 16 + b) * 16 + c) * 16 + d, s)
  | _ => none

/-- The low surrogate that completes the high surrogate `hi`, and the character
of the pair. -/
def surrogatePair (hi : ℕ) (s : List Char) : Option (Char × List Char) :=
  match s with
  | '\\' :: 'u' :: s =>
      match hex4 s with
      | some (lo, s) =>
          if 0xd800 ≤ hi ∧ hi < 0xdc00 ∧ 0xdc00 ≤ lo ∧ lo < 0xe000 then
            some (Char.ofNat (0x10000 + (hi - 0xd800) * 0x400 + (lo - 0xdc00)), s)
          else none
      | none => none
  | _ => none

/-- The character of a simple escape. -/
def simpleEscape (c : Char) : Option Char :=
  match c with
  | '"' => some '"'
  | '\\' => some '\\'
  | '/' => some '/'
  | 'b' => some (Char.ofNat 8)
  | 'f' => some (Char.ofNat 12)
  | 'n' => some '\n'
  | 'r' => some '\r'
  | 't' => some '\t'
  | _ => none

/-- The characters of a string literal after its opening quote, and what follows
the closing one.  Control characters are refused. -/
def parseChars : ℕ → List Char → List Char → Option (List Char × List Char)
  | 0, _, _ => none
  | _ + 1, _, [] => none
  | _ + 1, acc, '"' :: s => some (acc.reverse, s)
  | fuel + 1, acc, '\\' :: 'u' :: s =>
      match hex4 s with
      | none => none
      | some (n, s) =>
          match surrogatePair n s with
          | some (c, s) => parseChars fuel (c :: acc) s
          | none =>
              let c := if 0xd800 ≤ n ∧ n < 0xe000 then Char.ofNat 0xfffd else Char.ofNat n
              parseChars fuel (c :: acc) s
  | fuel + 1, acc, '\\' :: c :: s =>
      match simpleEscape c with
      | some c => parseChars fuel (c :: acc) s
      | none => none
  | fuel + 1, acc, c :: s =>
      if c = '\\' ∨ c.toNat < 32 then none else parseChars fuel (c :: acc) s

/-- The natural number written in decimal digits. -/
def digitsValue (s : List Char) : ℕ :=
  s.foldl (fun n c => n * 10 + (c.toNat - '0'.toNat)) 0

/-- The longest run of decimal digits at the front of a text. -/
def takeDigits (s : List Char) : List Char × List Char := s.span Char.isDigit

/-- The fractional part of a number, if there is one. -/
def parseFraction : List Char → Option (List Char) × List Char
  | '.' :: s =>
      match takeDigits s with
      | ([], _) => (none, '.' :: s)
      | (ds, s) => (some ds, s)
  | s => (none, s)

/-- The sign of an exponent. -/
def parseSign : List Char → Bool × List Char
  | '-' :: s => (true, s)
  | '+' :: s => (false, s)
  | s => (false, s)

/-- The exponent of a number, if there is one. -/
def parseExponent : List Char → Option ℤ × List Char
  | c :: s =>
      if c = 'e' ∨ c = 'E' then
        let (neg, rest) := parseSign s
        match takeDigits rest with
        | ([], _) => (none, c :: s)
        | (ds, rest) => (some (if neg then -digitsValue ds else digitsValue ds), rest)
      else (none, c :: s)
  | [] => (none, [])

section Limits

variable (limits : Limits)

/-- A number without its sign: the integral part has no superfluous zero. -/
def parseUnsigned (neg : Bool) (s : List Char) : Except LoadsError (Json × List Char) :=
  let (ds, s) :=
    match s with
    | '0' :: s => (['0'], s)
    | s => takeDigits s
  if ds = [] then .error .jsonDecodeError
  else
    let (frac, s) := parseFraction s
    let (expo, s) := parseExponent s
    match frac, expo with
    | none, none =>
        if limits.digits < ds.length then .error .valueError
        else .ok (int ((if neg then -1 else 1) * digitsValue ds), s)
    | _, _ =>
        let fs := frac.getD []
        .ok (float (Double.ofDecimal neg (digitsValue (ds ++ fs)) (expo.getD 0 - fs.length)), s)

/-- A literal constant at the front of a text. -/
def parseConst (s : List Char) : Option (Json × List Char) :=
  let infinity := Float.Model.pack (.infinity .positive)
  let consts : List (String × Json) :=
    [("null", null), ("true", bool true), ("false", bool false),
      ("NaN", float (Float.Model.pack .notANumber)), ("Infinity", float infinity),
      ("-Infinity", float infinity.neg)]
  (consts.find? fun c => c.1.toList.isPrefixOf s).map fun c => (c.2, s.drop c.1.length)

/-- A number or a literal constant. -/
def parseScalar (s : List Char) : Except LoadsError (Json × List Char) :=
  match parseConst s with
  | some r => .ok r
  | none =>
      match s with
      | '-' :: s => parseUnsigned limits true s
      | s => parseUnsigned limits false s

/-- A string literal after its opening quote. -/
def parseString (s : List Char) : Except LoadsError (String × List Char) :=
  match parseChars (s.length + 1) [] s with
  | some r => .ok (String.ofList r.1, r.2)
  | none => .error .jsonDecodeError

/-- Add a field to an object; a key that occurs again keeps its place and gets
the later value. -/
def setField (k : String) (v : Json) : List (String × Json) → List (String × Json)
  | [] => [(k, v)]
  | (l, w) :: fields => if k = l then (l, v) :: fields else (l, w) :: setField k v fields

mutual

/-- A value at the front of a text, with `depth` more containers to open. -/
def parseValue : (fuel depth : ℕ) → List Char → Except LoadsError (Json × List Char)
  | 0, _, _ => .error .jsonDecodeError
  | fuel + 1, depth, s =>
      match s, depth with
      | '"' :: s, _ => (parseString s).map fun r => (str r.1, r.2)
      | '[' :: _, 0 | '\x7b' :: _, 0 => .error .recursionError
      | '[' :: s, depth + 1 =>
          match skipBlanks s with
          | ']' :: s => .ok (arr [], s)
          | s => (parseItems fuel depth [] s).map fun r => (arr r.1, r.2)
      | '\x7b' :: s, depth + 1 =>
          match skipBlanks s with
          | '\x7d' :: s => .ok (obj [], s)
          | s => (parseFields fuel depth [] s).map fun r => (obj r.1, r.2)
      | s, _ => parseScalar limits s

/-- The items of a list after its opening bracket. -/
def parseItems : (fuel depth : ℕ) → List Json → List Char →
    Except LoadsError (List Json × List Char)
  | 0, _, _, _ => .error .jsonDecodeError
  | fuel + 1, depth, acc, s =>
      match parseValue fuel depth s with
      | .error e => .error e
      | .ok (v, s) =>
          match skipBlanks s with
          | ']' :: s => .ok ((v :: acc).reverse, s)
          | ',' :: s => parseItems fuel depth (v :: acc) (skipBlanks s)
          | _ => .error .jsonDecodeError

/-- The fields of an object after its opening brace. -/
def parseFields : (fuel depth : ℕ) → List (String × Json) → List Char →
    Except LoadsError (List (String × Json) × List Char)
  | 0, _, _, _ => .error .jsonDecodeError
  | fuel + 1, depth, acc, s =>
      match s with
      | '"' :: s =>
          match parseString s with
          | .error e => .error e
          | .ok (k, s) =>
              match skipBlanks s with
              | ':' :: s =>
                  match parseValue fuel depth (skipBlanks s) with
                  | .error e => .error e
                  | .ok (v, s) =>
                      let acc := setField k v acc
                      match skipBlanks s with
                      | '\x7d' :: s => .ok (acc, s)
                      | ',' :: s => parseFields fuel depth acc (skipBlanks s)
                      | _ => .error .jsonDecodeError
              | _ => .error .jsonDecodeError
      | _ => .error .jsonDecodeError

end

/-- `json.loads`: one value with blanks around it.  Each level of nesting and each
item takes at least one character, so the fuel suffices. -/
def loads (text : String) : Except LoadsError Json :=
  match parseValue limits (2 * text.length + 2) limits.nesting (skipBlanks text.toList) with
  | .ok (v, rest) => if skipBlanks rest = [] then .ok v else .error .jsonDecodeError
  | .error e => .error e

end Limits

example : (do return pyEq (← loads ⟨4300, 900⟩ "0.1") (← loads ⟨4300, 900⟩ "0.10000000000000001")) =
    .ok true := by
  decide +kernel

example : loads ⟨4300, 3⟩ "[[[[" = .error .recursionError ∧
    loads ⟨4300, 4⟩ "[[[[" = .error .jsonDecodeError := by
  decide +kernel

end Json
