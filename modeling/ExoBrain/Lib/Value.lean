import ExoBrain.Lib.Text

/-!
# The values of JSON and YAML documents

A document that was read is a tree of Python values, and the code that checks it asks of each part
of which class it is, looks up keys in it, or turns it into a text.  `Value` is such a tree.  Besides
the classes of JSON there are the other objects a YAML document can hold (a date, a set); of these
only the name of the class, the texts and the truth value are kept.

* `typeName` is `type(v).__name__`, and `int?` reads what is an instance of `int`; so are the truth
  values.
* `get?` is the lookup in a dictionary.  The keys of a dictionary are distinct.
* `str` and `truth` are `str(v)` and `bool(v)`.  Which characters beyond ASCII are printable, so that
  `repr` leaves them as they are, is a parameter.
-/

set_option autoImplicit false

/-- A value of a document. -/
inductive Value
  | none
  | bool (b : Bool)
  | int (n : Int)
  /-- A floating-point number, by the text that shows it. -/
  | float (text : String)
  | str (s : String)
  | list (items : List Value)
  | dict (entries : List (String × Value))
  /-- An object of another class. -/
  | object (className text reprText : String) (truthValue : Bool)
deriving Repr

namespace Value

/-! ## Classes and lookups -/

/-- `type(v).__name__`. -/
def typeName : Value → String
  | none => "NoneType"
  | bool _ => "bool"
  | int _ => "int"
  | float _ => "float"
  | str _ => "str"
  | list _ => "list"
  | dict _ => "dict"
  | object className _ _ _ => className

/-- The number, for an instance of `int`. -/
def int? : Value → Option Int
  | bool b => some (if b then 1 else 0)
  | int n => some n
  | _ => Option.none

/-- The text, for an instance of `str`. -/
def str? : Value → Option String
  | str s => some s
  | _ => Option.none

/-- The items, for an instance of `list`. -/
def list? : Value → Option (List Value)
  | list items => some items
  | _ => Option.none

/-- The entries, for an instance of `dict`. -/
def dict? : Value → Option (List (String × Value))
  | dict entries => some entries
  | _ => Option.none

/-- `entries.get(key)`. -/
def lookup (key : String) (entries : List (String × Value)) : Option Value :=
  (entries.find? fun e ↦ e.1 = key).map Prod.snd

/-- `v.get(key)`, for a dictionary. -/
def get? (key : String) (v : Value) : Option Value := v.dict?.bind (lookup key)

/-- `entries[key] = v`. -/
def assign (key : String) (v : Value) (entries : List (String × Value)) : List (String × Value) :=
  if (lookup key entries).isSome then entries.map fun e ↦ if e.1 = key then (key, v) else e
  else entries ++ [(key, v)]

/-- The entries after `entries.setdefault(key, v)`. -/
def setDefault (key : String) (v : Value) (entries : List (String × Value)) :
    List (String × Value) :=
  if (lookup key entries).isSome then entries else entries ++ [(key, v)]

/-- The text, if there is one that is not blank. -/
def nonBlank? (v : Value) : Option String := v.str?.filter fun s ↦ Text.strip s ≠ ""

/-! ### Lookups after an assignment -/

theorem lookup_cons (key : String) (e : String × Value) (entries : List (String × Value)) :
    lookup key (e :: entries) = if e.1 = key then some e.2 else lookup key entries := by
  rw [lookup, List.find?_cons, lookup]
  by_cases h : e.1 = key <;> simp [h]

theorem lookup_concat (key key' : String) (v : Value) (entries : List (String × Value)) :
    lookup key (entries ++ [(key', v)]) =
      (lookup key entries).or (if key' = key then some v else Option.none) := by
  induction entries with
  | nil => exact lookup_cons key (key', v) []
  | cons e entries ih =>
    rw [List.cons_append, lookup_cons, lookup_cons, ih]
    by_cases h : e.1 = key
    · rw [if_pos h, if_pos h, Option.some_or]
    · rw [if_neg h, if_neg h]

theorem lookup_overwrite (key key' : String) (v : Value) (entries : List (String × Value)) :
    lookup key (entries.map fun e ↦ if e.1 = key' then (key', v) else e) =
      if key' = key then (lookup key entries).map fun _ ↦ v else lookup key entries := by
  induction entries with
  | nil => split <;> rfl
  | cons e entries ih =>
    rw [List.map_cons, lookup_cons, lookup_cons, ih]
    by_cases hkey : key' = key
    · subst hkey
      by_cases he : e.1 = key'
      · simp [he]
      · simp [he]
    · by_cases he : e.1 = key'
      · simp [he, hkey]
      · simp [he, hkey]

theorem lookup_assign (key key' : String) (v : Value) (entries : List (String × Value)) :
    lookup key (assign key' v entries) = if key' = key then some v else lookup key entries := by
  rw [assign]
  by_cases hkey : key' = key
  · subst hkey
    rw [if_pos rfl]
    cases hfound : lookup key' entries with
    | none => rw [Option.isSome_none, if_neg nofun, lookup_concat, hfound, if_pos rfl, Option.none_or]
    | some old => rw [Option.isSome_some, if_pos rfl, lookup_overwrite, if_pos rfl, hfound]; rfl
  · rw [if_neg hkey]
    split
    · rw [lookup_overwrite, if_neg hkey]
    · rw [lookup_concat, if_neg hkey, Option.or_none]

theorem lookup_setDefault (key key' : String) (v : Value) (entries : List (String × Value)) :
    lookup key (setDefault key' v entries) =
      if key' = key then some ((lookup key entries).getD v) else lookup key entries := by
  rw [setDefault]
  by_cases hkey : key' = key
  · subst hkey
    rw [if_pos rfl]
    cases hfound : lookup key' entries with
    | none => rw [Option.isSome_none, if_neg nofun, lookup_concat, hfound, if_pos rfl]; rfl
    | some old => rw [Option.isSome_some, if_pos rfl, hfound]; rfl
  · rw [if_neg hkey]
    split
    · rfl
    · rw [lookup_concat, if_neg hkey, Option.or_none]

/-! ## Texts and truth values -/

/-- The last `width` digits of a number in base 16. -/
def hex : (width : Nat) → Nat → String
  | 0, _ => ""
  | width + 1, n => hex width (n / 16) ++ String.singleton (Nat.digitChar (n % 16))

section
variable (isPrintable : Char → Bool)

/-- A character between quotes in `repr`. -/
def escape (quote c : Char) : String :=
  if c = quote ∨ c = '\\' then "\\" ++ String.singleton c
  else if c = '\t' then "\\t"
  else if c = '\n' then "\\n"
  else if c = '\r' then "\\r"
  else if c.toNat < 32 ∨ c.toNat = 127 then "\\x" ++ hex 2 c.toNat
  else if c.toNat < 127 ∨ isPrintable c = true then String.singleton c
  else if c.toNat < 0x100 then "\\x" ++ hex 2 c.toNat
  else if c.toNat < 0x10000 then "\\u" ++ hex 4 c.toNat
  else "\\U" ++ hex 8 c.toNat

/-- `repr(s)`: between double quotes if there are single quotes and no double ones in it. -/
def reprStr (s : String) : String :=
  let quote := if s.toList.contains '\'' && !s.toList.contains '"' then '"' else '\''
  String.singleton quote ++ String.join (s.toList.map (escape isPrintable quote)) ++
    String.singleton quote

mutual

/-- `repr(v)`. -/
def repr : Value → String
  | none => "None"
  | bool b => if b then "True" else "False"
  | int n => toString n
  | float text => text
  | str s => reprStr isPrintable s
  | list items => "[" ++ ", ".intercalate (reprItems items) ++ "]"
  | dict entries => "\x7b" ++ ", ".intercalate (reprEntries entries) ++ "\x7d"
  | object _ _ reprText _ => reprText

/-- The items of a list. -/
def reprItems : List Value → List String
  | [] => []
  | v :: items => repr v :: reprItems items

/-- The entries of a dictionary. -/
def reprEntries : List (String × Value) → List String
  | [] => []
  | (key, v) :: entries => (reprStr isPrintable key ++ ": " ++ repr v) :: reprEntries entries

end

/-- `str(v)`. -/
def toStr : Value → String
  | str s => s
  | object _ text _ _ => text
  | v => repr isPrintable v

end

/-- `bool(v)`. -/
def truth : Value → Bool
  | none => false
  | bool b => b
  | int n => n ≠ 0
  | float text => text ≠ "0.0" ∧ text ≠ "-0.0"
  | str s => s ≠ ""
  | list items => !items.isEmpty
  | dict entries => !entries.isEmpty
  | object _ _ _ truthValue => truthValue

example : toStr (fun _ ↦ true) (list [str "it's", bool true, dict [("a", none)]]) =
    "[\"it's\", True, \x7b'a': None\x7d]" := by decide

end Value
