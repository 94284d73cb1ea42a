import ExoBrain.Lib.Value
import Mathlib.Data.List.Sort

/-!
# Writing and reading JSON

`json.dumps` and `json.loads` on values whose keys are texts.  The keys of a dictionary are written
in order (`sort_keys`), so that `dumps` writes the same for dictionaries that differ in the order of
their entries only; `normal` puts them into that order.

* A `Layout` is the space between the parts of a text: none (`compact`), or new lines that are
  indented (`indented`).
* `write` and `readValue` are the two directions on characters, `dumps` and `loads` on texts.
* `isJson` says of a value that it can be written.  A floating-point number is known by its text;
  `showFloat` is `repr(float(text))`, and leaves the texts alone that show a number.

The infinities and NaN are left out.
-/

set_option autoImplicit false

namespace Json

/-! ## Texts -/

/-- Four digits in base 16. -/
def hex4 (n : Nat) : List Char :=
  [Nat.digitChar (n / 4096 % 16), Nat.digitChar (n / 256 % 16), Nat.digitChar (n / 16 % 16),
    Nat.digitChar (n % 16)]

/-- The short escapes. -/
def escapes : List (Char × Char) :=
  [('"', '"'), ('\\', '\\'), ('\n', 'n'), ('\r', 'r'), ('\t', 't'), ('\x08', 'b'), ('\x0c', 'f')]

/-- A character between quotes. -/
def escape (c : Char) : List Char :=
  match escapes.find? fun e ↦ e.1 = c with
  | some e => ['\\', e.2]
  | none =>
    if 32 ≤ c.toNat ∧ c.toNat ≤ 126 then [c]
    else if c.toNat < 0x10000 then '\\' :: 'u' :: hex4 c.toNat
    else
      '\\' :: 'u' :: hex4 (0xd800 + (c.toNat - 0x10000) / 0x400) ++
        '\\' :: 'u' :: hex4 (0xdc00 + (c.toNat - 0x10000) % 0x400)

/-- A text between quotes. -/
def quote (s : String) : List Char := '"' :: (s.toList.flatMap escape ++ ['"'])

/-- The value of a digit in base 16. -/
def hexVal? (c : Char) : Option Nat :=
  if c.isDigit = true then some (c.toNat - 48)
  else if 97 ≤ c.toNat ∧ c.toNat ≤ 102 then some (c.toNat - 87)
  else if 65 ≤ c.toNat ∧ c.toNat ≤ 70 then some (c.toNat - 55)
  else none

/-- Four digits in base 16, and the rest. -/
def readHex4 : List Char → Option (Nat × List Char)
  | a :: b :: c :: d :: rest => do
    let a ← hexVal? a
    let b ← hexVal? b
    let c ← hexVal? c
    let d ← hexVal? d
    return (4096 * a + 256 * b + 16 * c + d, rest)
  | _ => none

/-- What follows `\u`.  Half of a pair alone is no character. -/
def readUnicode (cs : List Char) : Option (Char × List Char) := do
  let (n, rest) ← readHex4 cs
  if 0xd800 ≤ n ∧ n ≤ 0xdbff then
    match rest with
    | '\\' :: 'u' :: rest =>
      let (m, rest) ← readHex4 rest
      if 0xdc00 ≤ m ∧ m ≤ 0xdfff then
        some (Char.ofNat (0x10000 + 0x400 * (n - 0xd800) + (m - 0xdc00)), rest)
      else none
    | _ => none
  else if 0xdc00 ≤ n ∧ n ≤ 0xdfff then none
  else some (Char.ofNat n, rest)

/-- One character between quotes, and the rest. -/
def readChar : List Char → Option (Char × List Char)
  | '\\' :: c :: rest =>
    if c = 'u' then readUnicode rest
    else if c = '/' then some ('/', rest)
    else (escapes.find? fun e ↦ e.2 = c).map fun e ↦ (e.1, rest)
  | c :: rest => if c.toNat < 32 then none else some (c, rest)
  | [] => none

/-- The text up to the closing quote, and the rest. -/
def readString : (fuel : Nat) → List Char → Option (List Char × List Char)
  | 0, _ => none
  | fuel + 1, cs =>
    match cs with
    | '"' :: rest => some ([], rest)
    | cs => do
      let (c, rest) ← readChar cs
      let (s, rest) ← readString fuel rest
      return (c :: s, rest)

/-! ## Numbers -/

/-- A character of a number. -/
def isNumberChar (c : Char) : Bool := c.isDigit || c ∈ ['-', '+', '.', 'e', 'E']

/-- Digits without a zero in front. -/
def readNat? (cs : List Char) : Option Nat :=
  if cs ≠ [] ∧ cs.all Char.isDigit = true ∧ (cs.head? = some '0' → cs = ['0']) then
    some (Nat.ofDigitChars 10 cs 0)
  else none

/-- The same, with or without a sign. -/
def readInt? : List Char → Option Int
  | '-' :: cs => (readNat? cs).map fun n ↦ -(n : Int)
  | cs => (readNat? cs).map fun n ↦ (n : Int)

/-- There are digits, and only digits. -/
def areDigits (cs : List Char) : Bool := cs ≠ [] && cs.all Char.isDigit

/-- An exponent. -/
def isExponent : List Char → Bool
  | e :: '-' :: cs | e :: '+' :: cs | e :: cs => (e = 'e' || e = 'E') && areDigits cs
  | [] => false

/-- What follows the digits in front: a fraction, an exponent or both. -/
def isFraction : List Char → Bool
  | '.' :: cs =>
    areDigits (cs.takeWhile Char.isDigit) &&
      (cs.dropWhile Char.isDigit = [] || isExponent (cs.dropWhile Char.isDigit))
  | cs => isExponent cs

/-- The text of a number that is not an integer. -/
def isFloat (cs : List Char) : Bool :=
  let unsigned := if cs.head? = some '-' then cs.tail else cs
  cs.all isNumberChar && (readInt? cs).isNone &&
    ((readNat? (unsigned.takeWhile Char.isDigit)).isSome &&
      isFraction (unsigned.dropWhile Char.isDigit))

/-! ## Values -/

section
variable (showFloat : String → String)

mutual

/-- The value can be written: all its parts are of the classes of JSON, and the keys of each
dictionary are distinct. -/
def isJson : Value → Bool
  | .none | .bool _ | .int _ | .str _ => true
  | .float text => isFloat text.toList && showFloat text = text
  | .list items => areJson items
  | .dict entries => (entries.map Prod.fst).Nodup && entriesAreJson entries
  | .object _ _ _ _ => false

/-- The items of a list can be written. -/
def areJson : List Value → Bool
  | [] => true
  | v :: items => isJson v && areJson items

/-- The values of a dictionary can be written. -/
def entriesAreJson : List (String × Value) → Bool
  | [] => true
  | (_, v) :: entries => isJson v && entriesAreJson entries

end
end

/-- The entries in the order of their keys. -/
def sortEntries (entries : List (String × Value)) : List (String × Value) :=
  entries.insertionSort fun a b ↦ a.1 ≤ b.1

mutual

/-- The value with all its dictionaries in the order of their keys. -/
def normal : Value → Value
  | .list items => .list (normalItems items)
  | .dict entries => .dict (sortEntries (normalEntries entries))
  | v => v

/-- The items of a list. -/
def normalItems : List Value → List Value
  | [] => []
  | v :: items => normal v :: normalItems items

/-- The values of a dictionary. -/
def normalEntries : List (String × Value) → List (String × Value)
  | [] => []
  | (key, v) :: entries => (key, normal v) :: normalEntries entries

end

/-! ## Writing -/

/-- White space. -/
def isSpace (c : Char) : Bool := c ∈ [' ', '\t', '\n', '\r']

/-- The space between the parts of a text. -/
structure Layout where
  /-- Before an item at some depth, and before the bracket that closes what is deeper. -/
  newline : (depth : Nat) → List Char
  /-- After the colon of an entry. -/
  colon : List Char
  newline_isSpace : ∀ depth, ∀ c ∈ newline depth, isSpace c = true
  colon_isSpace : ∀ c ∈ colon, isSpace c = true

/-- `separators=(",", ":")`. -/
def compact : Layout where
  newline _ := []
  colon := []
  newline_isSpace _ _ h := nomatch h
  colon_isSpace _ h := nomatch h

/-- `indent=width`. -/
def indented (width : Nat) : Layout where
  newline depth := '\n' :: List.replicate (width * depth) ' '
  colon := [' ']
  newline_isSpace depth c h := by
    rcases List.mem_cons.mp h with rfl | h
    · rfl
    · rw [List.eq_of_mem_replicate h]
      rfl
  colon_isSpace c h := by
    rw [List.mem_singleton.mp h]
    rfl

section
variable (lay : Layout)

mutual

/-- The text of a value. -/
def write (depth : Nat) : Value → List Char
  | .none => ['n', 'u', 'l', 'l']
  | .bool true => ['t', 'r', 'u', 'e']
  | .bool false => ['f', 'a', 'l', 's', 'e']
  | .int n => (toString n).toList
  | .float text => text.toList
  | .str s => quote s
  | .list [] => ['[', ']']
  | .list (v :: items) =>
    '[' :: (lay.newline (depth + 1) ++ (write (depth + 1) v ++ writeItems depth items))
  | .dict [] => ['\x7b', '\x7d']
  | .dict ((key, v) :: entries) =>
    '\x7b' :: (lay.newline (depth + 1) ++ (quote key ++ ':' :: (lay.colon ++
      (write (depth + 1) v ++ writeEntries depth entries))))
  -- No object of another class can be written.
  | .object _ _ _ _ => []

/-- The items after the first one, and the end of the list. -/
def writeItems (depth : Nat) : List Value → List Char
  | [] => lay.newline depth ++ [']']
  | v :: items =>
    ',' :: (lay.newline (depth + 1) ++ (write (depth + 1) v ++ writeItems depth items))

/-- The entries after the first one, and the end of the dictionary. -/
def writeEntries (depth : Nat) : List (String × Value) → List Char
  | [] => lay.newline depth ++ ['\x7d']
  | (key, v) :: entries =>
    ',' :: (lay.newline (depth + 1) ++ (quote key ++ ':' :: (lay.colon ++
      (write (depth + 1) v ++ writeEntries depth entries))))

end

/-- `json.dumps(v, sort_keys=True)`. -/
def dumps (v : Value) : String := String.ofList (write lay 0 (normal v))

end

/-! ## Reading -/

/-- The text without the white space in front. -/
def skip (cs : List Char) : List Char := cs.dropWhile isSpace

/-- `dict(pairs)`. -/
def fromPairs (pairs : List (String × Value)) : List (String × Value) :=
  pairs.foldl (fun entries e ↦ Value.assign e.1 e.2 entries) []

section
variable (showFloat : String → String)

/-- A number, and the rest. -/
def readNumber (cs : List Char) : Option (Value × List Char) :=
  let text := cs.takeWhile isNumberChar
  match readInt? text with
  | some n => some (.int n, cs.dropWhile isNumberChar)
  | none =>
    if isFloat text = true then
      some (.float (showFloat (String.ofList text)), cs.dropWhile isNumberChar)
    else none

mutual

/-- A value, and the rest. -/
def readValue : (fuel : Nat) → List Char → Option (Value × List Char)
  | 0, _ => none
  | fuel + 1, cs =>
    match cs with
    | '"' :: rest => (readString fuel rest).map fun p ↦ (.str (String.ofList p.1), p.2)
    | '[' :: rest =>
      match skip rest with
      | ']' :: rest => some (.list [], rest)
      | rest => (readItems fuel rest).map fun p ↦ (.list p.1, p.2)
    | '\x7b' :: rest =>
      match skip rest with
      | '\x7d' :: rest => some (.dict [], rest)
      | rest => (readEntries fuel rest).map fun p ↦ (.dict (fromPairs p.1), p.2)
    | 'n' :: 'u' :: 'l' :: 'l' :: rest => some (.none, rest)
    | 't' :: 'r' :: 'u' :: 'e' :: rest => some (.bool true, rest)
    | 'f' :: 'a' :: 'l' :: 's' :: 'e' :: rest => some (.bool false, rest)
    | cs => readNumber showFloat cs

/-- The items of a list that is not empty, and what follows the list. -/
def readItems : (fuel : Nat) → List Char → Option (List Value × List Char)
  | 0, _ => none
  | fuel + 1, cs => do
    let (v, rest) ← readValue fuel cs
    match skip rest with
    | ',' :: rest =>
      let (items, rest) ← readItems fuel (skip rest)
      return (v :: items, rest)
    | ']' :: rest => return ([v], rest)
    | _ => none

/-- The entries of a dictionary that is not empty, and what follows the dictionary. -/
def readEntries : (fuel : Nat) → List Char → Option (List (String × Value) × List Char)
  | 0, _ => none
  | fuel + 1, cs =>
    match cs with
    | '"' :: rest => do
      let (key, rest) ← readString fuel rest
      match skip rest with
      | ':' :: rest =>
        let (v, rest) ← readValue fuel (skip rest)
        match skip rest with
        | ',' :: rest =>
          let (entries, rest) ← readEntries fuel (skip rest)
          return ((String.ofList key, v) :: entries, rest)
        | '\x7d' :: rest => return ([(String.ofList key, v)], rest)
        | _ => none
      | _ => none
    | _ => none

end

/-- `json.loads(text)`, if it raises nothing. -/
def loads (text : String) : Option Value :=
  match readValue showFloat (2 * text.toList.length + 2) (skip text.toList) with
  | some (v, rest) => if skip rest = [] then some v else none
  | none => none

end

example : dumps compact (.dict [("b", .list [.int (-12), .none]), ("a", .str "\"\u00fc\n")]) =
    "\x7b\"a\":\"\\\"\\u00fc\\n\",\"b\":[-12,null]\x7d" := by decide +kernel

example : (loads id " [1.5e-7 , true,\x7b\"k\" : \"\\ud83d\\ude00\"\x7d]\n").map (dumps (indented 1)) =
    some "[\n 1.5e-7,\n true,\n \x7b\n  \"k\": \"\\ud83d\\ude00\"\n \x7d\n]" := by decide +kernel

end Json
