import ExoBrain.Lib.JsonNormal
import ExoBrain.Lib.Runs

/-!
# Reading what was written

`readValue` is the inverse of `write`, whatever the layout and whatever follows, as long as it does
not go on with a number.  So nothing is lost in writing but the order of the entries.

* `loads_dumps`: what is read back is the value in normal form.
* `normal_eq_of_dumps_eq`: values with the same text have the same normal form.
* `forall_mem_write`: only white space and printable characters are written, so that a text can stand
  in a file.
-/

set_option autoImplicit false

namespace Json

/-! ## Texts -/

theorem hexVal?_digitChar : ∀ d < 16, hexVal? (Nat.digitChar d) = some d := by decide

theorem readHex4_hex4 {n : Nat} (h : n < 0x10000) (rest : List Char) :
    readHex4 (hex4 n ++ rest) = some (n, rest) := by
  rw [hex4]
  simp only [List.cons_append, List.nil_append, readHex4]
  rw [hexVal?_digitChar _ (Nat.mod_lt _ (by decide)), hexVal?_digitChar _ (Nat.mod_lt _ (by decide)),
    hexVal?_digitChar _ (Nat.mod_lt _ (by decide)), hexVal?_digitChar _ (Nat.mod_lt _ (by decide))]
  show some (_, rest) = some (n, rest)
  congr 2
  omega

/-- A character is no half of a pair, and has at most 21 bits. -/
theorem toNat_bounds (c : Char) : c.toNat < 0xd800 ∨ 0xdfff < c.toNat ∧ c.toNat < 0x110000 := c.valid

theorem readUnicode_of_lt {c : Char} (h : c.toNat < 0x10000) (rest : List Char) :
    readUnicode (hex4 c.toNat ++ rest) = some (c, rest) := by
  have hbounds := toNat_bounds c
  rw [readUnicode, readHex4_hex4 h]
  show (if _ then _ else _) = _
  rw [if_neg (by omega), if_neg (by omega), Char.ofNat_toNat]

theorem readUnicode_pair {n m : Nat} (hn : 0xd800 ≤ n ∧ n ≤ 0xdbff) (hm : 0xdc00 ≤ m ∧ m ≤ 0xdfff)
    (rest : List Char) :
    readUnicode (hex4 n ++ '\\' :: 'u' :: (hex4 m ++ rest)) =
      some (Char.ofNat (0x10000 + 0x400 * (n - 0xd800) + (m - 0xdc00)), rest) := by
  have hlow : m < 0x10000 := by omega
  rw [readUnicode, readHex4_hex4 (by omega)]
  simp only [Option.bind_eq_bind, Option.bind_some, hn, and_self, if_true, readHex4_hex4 hlow, hm]

theorem readUnicode_of_le {c : Char} (h : 0x10000 ≤ c.toNat) (rest : List Char) :
    readUnicode (hex4 (0xd800 + (c.toNat - 0x10000) / 0x400) ++
      '\\' :: 'u' :: (hex4 (0xdc00 + (c.toNat - 0x10000) % 0x400) ++ rest)) = some (c, rest) := by
  have hbounds := toNat_bounds c
  have hsum : 0x10000 + 0x400 * (0xd800 + (c.toNat - 0x10000) / 0x400 - 0xd800) +
      (0xdc00 + (c.toNat - 0x10000) % 0x400 - 0xdc00) = c.toNat := by omega
  rw [readUnicode_pair (by omega) (by omega), hsum, Char.ofNat_toNat]

/-- **A character that was escaped is read back.** -/
theorem readChar_escape (c : Char) (rest : List Char) :
    readChar (escape c ++ rest) = some (c, rest) := by
  rw [escape]
  cases hfind : escapes.find? fun e ↦ e.1 = c with
  | some e =>
    have hmem := List.mem_of_find?_eq_some hfind
    have hkey : e.1 = c := by simpa using List.find?_some hfind
    rw [← hkey]
    simp only [escapes, List.mem_cons, List.not_mem_nil, or_false] at hmem
    rcases hmem with rfl | rfl | rfl | rfl | rfl | rfl | rfl <;> rfl
  | none =>
    have hne : c ≠ '\\' := by
      rintro rfl
      cases hfind
    dsimp only
    split
    · rename_i hprintable
      rw [List.singleton_append, readChar.eq_def]
      split
      · rename_i heq
        exact absurd (List.cons.inj heq).1 hne
      · rename_i heq
        obtain ⟨rfl, rfl⟩ := List.cons.inj heq
        rw [if_neg (by omega)]
      · rename_i heq
        cases heq
    · split
      · rename_i hlt
        exact readUnicode_of_lt hlt rest
      · rename_i hle
        rw [List.append_assoc]
        exact readUnicode_of_le (Nat.le_of_not_lt hle) rest

theorem escape_eq_cons (c : Char) : ∃ d ds, escape c = d :: ds ∧ d ≠ '"' := by
  rw [escape]
  cases hfind : escapes.find? fun e ↦ e.1 = c with
  | some e => exact ⟨'\\', _, rfl, by decide⟩
  | none =>
    dsimp only
    split
    · refine ⟨c, [], rfl, ?_⟩
      rintro rfl
      cases hfind
    · split <;> exact ⟨'\\', _, rfl, by decide⟩

theorem readString_flatMap (s : List Char) {fuel : Nat} (h : s.length < fuel) (rest : List Char) :
    readString fuel (s.flatMap escape ++ '"' :: rest) = some (s, rest) := by
  induction s generalizing fuel with
  | nil =>
    obtain ⟨fuel, rfl⟩ := Nat.exists_eq_add_one.mpr (Nat.zero_lt_of_lt h)
    rfl
  | cons c s ih =>
    obtain ⟨fuel, rfl⟩ := Nat.exists_eq_add_one.mpr (Nat.zero_lt_of_lt h)
    have hread := readChar_escape c (s.flatMap escape ++ '"' :: rest)
    obtain ⟨d, ds, hescape, hd⟩ := escape_eq_cons c
    rw [List.flatMap_cons, List.append_assoc, readString.eq_def]
    dsimp only
    split
    · rename_i heq
      rw [hescape] at heq
      exact absurd (List.cons.inj heq).1 hd
    · rw [hread]
      show (readString fuel _ >>= _) = _
      rw [ih (Nat.lt_of_succ_lt_succ h)]
      rfl

theorem length_le_length_flatMap (s : List Char) : s.length ≤ (s.flatMap escape).length := by
  induction s with
  | nil => exact Nat.le_refl 0
  | cons c s ih =>
    obtain ⟨d, ds, hescape, -⟩ := escape_eq_cons c
    rw [List.flatMap_cons, List.length_append, hescape, List.length_cons, List.length_cons]
    omega

/-- **A text that was quoted is read back**, after the quote in front. -/
theorem readString_quote (s : String) {fuel : Nat} (h : (quote s).length ≤ fuel + 1)
    (rest : List Char) :
    readString fuel ((quote s).tail ++ rest) = some (s.toList, rest) := by
  have hlength := length_le_length_flatMap s.toList
  rw [quote, List.length_cons, List.length_append, List.length_singleton] at h
  rw [quote, List.tail_cons, List.append_assoc]
  exact readString_flatMap s.toList (by omega) rest

theorem quote_append (s : String) (rest : List Char) :
    quote s ++ rest = '"' :: ((quote s).tail ++ rest) := rfl

/-! ## Numbers -/

theorem isNumberChar_of_isDigit {c : Char} (h : c.isDigit = true) : isNumberChar c = true := by
  rw [isNumberChar, h, Bool.true_or]

theorem digitChar_eq_zero : ∀ n < 10, Nat.digitChar n = '0' → n = 0 := by decide

/-- Only zero is written with a zero in front. -/
theorem eq_zero_of_head?_toDigits {n : Nat} (h : (Nat.toDigits 10 n).head? = some '0') : n = 0 := by
  induction n using Nat.strongRecOn with
  | _ n ih =>
    by_cases hlt : n < 10
    · rw [Nat.toDigits_of_lt_base hlt] at h
      exact digitChar_eq_zero n hlt (Option.some.inj h)
    · have hle := Nat.le_of_not_lt hlt
      rw [Nat.toDigits_of_base_le (by decide) hle, List.head?_append_of_ne_nil _ Nat.toDigits_ne_nil]
        at h
      have hzero := ih (n / 10) (Nat.div_lt_self (by omega) (by decide)) h
      omega

theorem readNat?_toDigits (n : Nat) : readNat? (Nat.toDigits 10 n) = some n := by
  have hdigits : (Nat.toDigits 10 n).all Char.isDigit = true :=
    List.all_eq_true.mpr fun c hc ↦ Nat.isDigit_of_mem_toDigits (by decide) (by decide) hc
  have hfront : (Nat.toDigits 10 n).head? = some '0' → Nat.toDigits 10 n = ['0'] := fun hhead ↦ by
    rw [eq_zero_of_head?_toDigits hhead, Nat.toDigits_zero]
  rw [readNat?, if_pos ⟨Nat.toDigits_ne_nil, hdigits, hfront⟩,
    Nat.ofDigitChars_toDigits (by decide) (by decide)]

/-- **An integer is read back**, and it is written with characters of numbers. -/
theorem readInt?_toString (n : Int) :
    readInt? (toString n).toList = some n ∧ (toString n).toList ≠ [] ∧
      ∀ c ∈ (toString n).toList, isNumberChar c = true := by
  have hchars (m : Nat) : ∀ c ∈ Nat.toDigits 10 m, isNumberChar c = true := fun c hc ↦
    isNumberChar_of_isDigit (Nat.isDigit_of_mem_toDigits (by decide) (by decide) hc)
  cases n with
  | ofNat n =>
    have htext : (toString (Int.ofNat n)).toList = Nat.toDigits 10 n := Nat.toList_repr
    rw [htext]
    refine ⟨?_, Nat.toDigits_ne_nil, hchars n⟩
    rw [readInt?.eq_def]
    split
    · rename_i cs heq
      have hminus := Nat.isDigit_of_mem_toDigits (c := '-') (b := 10) (n := n) (by decide) (by decide)
        (heq ▸ List.mem_cons_self)
      cases hminus
    · rw [readNat?_toDigits]
      rfl
  | negSucc n =>
    have htext : (toString (Int.negSucc n)).toList = '-' :: Nat.toDigits 10 (n + 1) := by
      show ("-" ++ (n + 1).repr).toList = _
      rw [String.toList_append, Nat.toList_repr]
      rfl
    rw [htext]
    refine ⟨?_, List.cons_ne_nil _ _, List.forall_mem_cons.mpr ⟨rfl, hchars (n + 1)⟩⟩
    rw [readInt?, readNat?_toDigits]
    rfl

/-- What follows a value: it does not go on with a number. -/
def Ends (rest : List Char) : Prop := ∀ c ∈ rest.head?, isNumberChar c = false

theorem takeWhile_isNumberChar {text rest : List Char} (h : ∀ c ∈ text, isNumberChar c = true)
    (hends : Ends rest) : (text ++ rest).takeWhile isNumberChar = text := by
  rw [List.takeWhile_append_of_pos h]
  cases rest with
  | nil => exact List.append_nil text
  | cons c rest => rw [List.takeWhile_cons_of_neg (by simp [hends c rfl]), List.append_nil]

section
variable {showFloat : String → String} {text rest : List Char}

theorem readNumber_of_readInt? (h : ∀ c ∈ text, isNumberChar c = true) (hends : Ends rest) {n : Int}
    (hint : readInt? text = some n) : readNumber showFloat (text ++ rest) = some (.int n, rest) := by
  rw [readNumber, takeWhile_isNumberChar h hends, hint, Runs.dropWhile_append_of_head h hends]

theorem readNumber_of_isFloat (hends : Ends rest) (hfloat : isFloat text = true) :
    readNumber showFloat (text ++ rest) = some (.float (showFloat (String.ofList text)), rest) := by
  have hparts := hfloat
  rw [isFloat, Bool.and_eq_true, Bool.and_eq_true, List.all_eq_true, Option.isNone_iff_eq_none]
    at hparts
  rw [readNumber, takeWhile_isNumberChar hparts.1.1 hends, hparts.1.2,
    Runs.dropWhile_append_of_head hparts.1.1 hends]
  dsimp only
  rw [if_pos hfloat]

theorem chars_of_isFloat (h : isFloat text = true) :
    text ≠ [] ∧ ∀ c ∈ text, isNumberChar c = true := by
  constructor
  · rintro rfl
    cases h
  · rw [isFloat, Bool.and_eq_true, Bool.and_eq_true, List.all_eq_true] at h
    exact h.1.1

/-- A text of a number is read as one. -/
theorem readValue_number (h : ∀ c ∈ text, isNumberChar c = true) (hne : text ≠ []) {fuel : Nat} :
    readValue showFloat (fuel + 1) (text ++ rest) = readNumber showFloat (text ++ rest) := by
  obtain ⟨c, cs, rfl⟩ := List.exists_cons_of_ne_nil hne
  have hc := h c List.mem_cons_self
  rw [List.cons_append, readValue.eq_def]
  dsimp only
  split
  all_goals first
    | rfl
    | (rename_i heq
       rw [(List.cons.inj heq).1] at hc
       cases hc)

/-! ## Values -/

theorem skip_append {space : List Char} (hspace : ∀ c ∈ space, isSpace c = true)
    (hrest : ∀ c ∈ rest.head?, isSpace c = false) : skip (space ++ rest) = rest :=
  Runs.dropWhile_append_of_head hspace hrest

theorem skip_cons {c : Char} (hc : isSpace c = false) (cs : List Char) : skip (c :: cs) = c :: cs :=
  List.dropWhile_cons_of_neg (Bool.eq_false_iff.mp hc)

theorem isSpace_of_isNumberChar {c : Char} (h : isNumberChar c = true) :
    isSpace c = false ∧ c ≠ ']' ∧ c ≠ '\x7d' := by
  refine ⟨Bool.eq_false_iff.mpr fun hspace ↦ ?_, ?_, ?_⟩
  · simp only [isSpace, decide_eq_true_eq, List.mem_cons, List.not_mem_nil, or_false] at hspace
    rcases hspace with rfl | rfl | rfl | rfl <;> cases h
  · rintro rfl
    cases h
  · rintro rfl
    cases h

theorem ends_newline (lay : Layout) (depth : Nat) {c : Char} (hc : isNumberChar c = false)
    (cs : List Char) : Ends (lay.newline depth ++ c :: cs) := by
  intro d hd
  cases hspace : lay.newline depth with
  | nil =>
    rw [hspace] at hd
    obtain rfl := Option.some.inj hd
    exact hc
  | cons s space =>
    rw [hspace] at hd
    obtain rfl := Option.some.inj hd
    have hs := lay.newline_isSpace depth s (hspace ▸ List.mem_cons_self)
    cases hnumber : isNumberChar s with
    | false => rfl
    | true => rw [(isSpace_of_isNumberChar hnumber).1] at hs; cases hs

/-- The text of a value begins with a character that is no white space and closes nothing. -/
theorem write_eq_cons (lay : Layout) (depth : Nat) {v : Value} (hv : isJson showFloat v = true) :
    ∃ c cs, write lay depth v = c :: cs ∧ isSpace c = false ∧ c ≠ ']' ∧ c ≠ '\x7d' := by
  have hnumber {text : List Char} (hne : text ≠ []) (h : ∀ c ∈ text, isNumberChar c = true) :
      ∃ c cs, text = c :: cs ∧ isSpace c = false ∧ c ≠ ']' ∧ c ≠ '\x7d' := by
    obtain ⟨c, cs, rfl⟩ := List.exists_cons_of_ne_nil hne
    exact ⟨c, cs, rfl, isSpace_of_isNumberChar (h c List.mem_cons_self)⟩
  cases v with
  | none => exact ⟨'n', _, rfl, by decide⟩
  | bool b => cases b <;> exact ⟨_, _, rfl, by decide⟩
  | int n =>
    obtain ⟨-, hne, hchars⟩ := readInt?_toString n
    exact hnumber hne hchars
  | float text =>
    rw [isJson, Bool.and_eq_true] at hv
    obtain ⟨hne, hchars⟩ := chars_of_isFloat hv.1
    exact hnumber hne hchars
  | str s => exact ⟨'"', _, rfl, by decide⟩
  | list items => cases items <;> exact ⟨'[', _, rfl, by decide⟩
  | dict entries =>
    cases entries with
    | nil => exact ⟨'\x7b', _, rfl, by decide⟩
    | cons e entries => exact ⟨'\x7b', _, rfl, by decide⟩
  | object => cases hv

theorem skip_newline_write (lay : Layout) (depth depth' : Nat) {v : Value}
    (hv : isJson showFloat v = true) (rest : List Char) :
    skip (lay.newline depth ++ (write lay depth' v ++ rest)) = write lay depth' v ++ rest := by
  obtain ⟨c, cs, heq, hspace, -⟩ := write_eq_cons lay depth' hv
  rw [heq]
  refine skip_append (lay.newline_isSpace depth) fun d hd ↦ ?_
  obtain rfl := Option.some.inj hd
  exact hspace

theorem skip_colon_write (lay : Layout) (depth : Nat) {v : Value}
    (hv : isJson showFloat v = true) (rest : List Char) :
    skip (lay.colon ++ (write lay depth v ++ rest)) = write lay depth v ++ rest := by
  obtain ⟨c, cs, heq, hspace, -⟩ := write_eq_cons lay depth hv
  rw [heq]
  refine skip_append lay.colon_isSpace fun d hd ↦ ?_
  obtain rfl := Option.some.inj hd
  exact hspace

/-- What is written of a value is read back. -/
def ReadsBack (showFloat : String → String) (lay : Layout) (depth : Nat) (v : Value) : Prop :=
  ∀ fuel rest, 2 * (write lay depth v).length ≤ fuel → Ends rest →
    readValue showFloat fuel (write lay depth v ++ rest) = some (v, rest)

section Brackets

variable {fuel : Nat} {cs more : List Char} {v : Value} {key : String}

theorem readItems_of_close (hv : readValue showFloat fuel cs = some (v, more))
    (hclose : skip more = ']' :: rest) : readItems showFloat (fuel + 1) cs = some ([v], rest) := by
  simp only [readItems, hv, hclose, Option.bind_eq_bind, Option.bind_some, Option.pure_def]

theorem readItems_of_comma {more' : List Char} {items : List Value}
    (hv : readValue showFloat fuel cs = some (v, more)) (hcomma : skip more = ',' :: more')
    (hitems : readItems showFloat fuel (skip more') = some (items, rest)) :
    readItems showFloat (fuel + 1) cs = some (v :: items, rest) := by
  simp only [readItems, hv, hcomma, hitems, Option.bind_eq_bind, Option.bind_some,
    Option.pure_def]

theorem readEntries_of_close {afterKey afterColon : List Char}
    (hkey : readString fuel cs = some (key.toList, afterKey)) (hcolon : skip afterKey = ':' :: afterColon)
    (hv : readValue showFloat fuel (skip afterColon) = some (v, more))
    (hclose : skip more = '\x7d' :: rest) :
    readEntries showFloat (fuel + 1) ('"' :: cs) = some ([(key, v)], rest) := by
  simp only [readEntries, hkey, hcolon, hv, hclose, Option.bind_eq_bind, Option.bind_some,
    Option.pure_def, String.ofList_toList]

theorem readEntries_of_comma {afterKey afterColon more' : List Char}
    {entries : List (String × Value)} (hkey : readString fuel cs = some (key.toList, afterKey))
    (hcolon : skip afterKey = ':' :: afterColon)
    (hv : readValue showFloat fuel (skip afterColon) = some (v, more))
    (hcomma : skip more = ',' :: more')
    (hentries : readEntries showFloat fuel (skip more') = some (entries, rest)) :
    readEntries showFloat (fuel + 1) ('"' :: cs) =
      some ((key, v) :: entries, rest) := by
  simp only [readEntries, hkey, hcolon, hv, hcomma, hentries, Option.bind_eq_bind,
    Option.bind_some, Option.pure_def, String.ofList_toList]

theorem readValue_of_bracket {c : Char} (hskip : skip cs = c :: more) (hc : c ≠ ']') :
    readValue showFloat (fuel + 1) ('[' :: cs) =
      (readItems showFloat fuel (c :: more)).map fun p ↦ (.list p.1, p.2) := by
  simp only [readValue, hskip]
  split
  · rename_i hbracket
    exact absurd (List.cons.inj hbracket).1 hc
  · rfl

theorem readValue_of_brace {c : Char} (hskip : skip cs = c :: more) (hc : c ≠ '\x7d') :
    readValue showFloat (fuel + 1) ('\x7b' :: cs) =
      (readEntries showFloat fuel (c :: more)).map fun p ↦ (.dict (fromPairs p.1), p.2) := by
  simp only [readValue, hskip]
  split
  · rename_i hbrace
    exact absurd (List.cons.inj hbrace).1 hc
  · rfl

end Brackets

/-! ### Lists and dictionaries -/

section Composite

variable {lay : Layout} {depth : Nat} {v : Value}

theorem skip_newline_cons {c : Char} (hc : isSpace c = false) (cs : List Char) :
    skip (lay.newline depth ++ c :: cs) = c :: cs := by
  refine skip_append (lay.newline_isSpace depth) fun d hd ↦ ?_
  obtain rfl := Option.some.inj hd
  exact hc

/-- What is written of the items is read back. -/
def ItemsReadBack (showFloat : String → String) (lay : Layout) (depth : Nat) (v : Value)
    (items : List Value) : Prop :=
  ∀ fuel rest,
    2 * ((write lay (depth + 1) v).length + (writeItems lay depth items).length) < fuel →
    readItems showFloat fuel (write lay (depth + 1) v ++ (writeItems lay depth items ++ rest)) =
      some (v :: items, rest)

/-- What is written of the entries is read back. -/
def EntriesReadBack (showFloat : String → String) (lay : Layout) (depth : Nat) (key : String)
    (v : Value) (entries : List (String × Value)) : Prop :=
  ∀ fuel rest,
    2 * ((quote key).length + (write lay (depth + 1) v).length +
      (writeEntries lay depth entries).length) < fuel →
    readEntries showFloat fuel (quote key ++ ':' :: (lay.colon ++ (write lay (depth + 1) v ++
      (writeEntries lay depth entries ++ rest)))) = some ((key, v) :: entries, rest)

theorem itemsReadBack_nil (hv : ReadsBack showFloat lay (depth + 1) v) :
    ItemsReadBack showFloat lay depth v [] := by
  intro fuel rest hfuel
  obtain ⟨fuel, rfl⟩ := Nat.exists_eq_add_one.mpr (Nat.zero_lt_of_lt hfuel)
  rw [writeItems, List.append_assoc]
  exact readItems_of_close (hv fuel _ (by omega) (ends_newline lay depth (by decide) rest))
    (skip_newline_cons (by decide) rest)

theorem itemsReadBack_cons (hv : ReadsBack showFloat lay (depth + 1) v) {w : Value}
    {items : List Value} (hw : isJson showFloat w = true)
    (hitems : ItemsReadBack showFloat lay depth w items) :
    ItemsReadBack showFloat lay depth v (w :: items) := by
  intro fuel rest hfuel
  obtain ⟨fuel, rfl⟩ := Nat.exists_eq_add_one.mpr (Nat.zero_lt_of_lt hfuel)
  rw [writeItems] at hfuel ⊢
  simp only [List.length_cons, List.length_append] at hfuel
  have hends : Ends (',' :: (lay.newline (depth + 1) ++
      (write lay (depth + 1) w ++ (writeItems lay depth items ++ rest)))) := fun c hc ↦ by
    obtain rfl := Option.some.inj hc
    decide
  simp only [List.cons_append, List.append_assoc]
  refine readItems_of_comma (hv fuel _ (by omega) hends) (skip_cons (by decide) _) ?_
  rw [skip_newline_write lay (depth + 1) (depth + 1) hw]
  exact hitems fuel rest (by omega)

theorem readsBack_list (hv : isJson showFloat v = true) {items : List Value}
    (hitems : ItemsReadBack showFloat lay depth v items) :
    ReadsBack showFloat lay depth (.list (v :: items)) := by
  intro fuel rest hfuel _
  rw [write] at hfuel ⊢
  simp only [List.length_cons, List.length_append] at hfuel
  obtain ⟨fuel, rfl⟩ := Nat.exists_eq_add_one.mpr (Nat.zero_lt_of_lt hfuel)
  obtain ⟨c, cs, heq, -, hclose, -⟩ := write_eq_cons lay (depth + 1) hv
  have hread := hitems fuel rest (by omega)
  have hskip := skip_newline_write lay (depth + 1) (depth + 1) hv (writeItems lay depth items ++ rest)
  simp only [List.cons_append, List.append_assoc]
  rw [heq, List.cons_append] at hskip hread
  rw [heq, List.cons_append, readValue_of_bracket hskip hclose, hread]
  rfl

theorem entriesReadBack_nil {key : String} (hjson : isJson showFloat v = true)
    (hv : ReadsBack showFloat lay (depth + 1) v) :
    EntriesReadBack showFloat lay depth key v [] := by
  intro fuel rest hfuel
  obtain ⟨fuel, rfl⟩ := Nat.exists_eq_add_one.mpr (Nat.zero_lt_of_lt hfuel)
  have hread := hv fuel (lay.newline depth ++ '\x7d' :: rest) (by omega)
    (ends_newline lay depth (by decide) rest)
  rw [writeEntries, List.append_assoc]
  exact readEntries_of_close (readString_quote key (by omega) _) (skip_cons (by decide) _)
    (skip_colon_write lay (depth + 1) hjson _ ▸ hread) (skip_newline_cons (by decide) rest)

theorem entriesReadBack_cons {key key' : String} (hjson : isJson showFloat v = true)
    (hv : ReadsBack showFloat lay (depth + 1) v) {w : Value} {entries : List (String × Value)}
    (hentries : EntriesReadBack showFloat lay depth key' w entries) :
    EntriesReadBack showFloat lay depth key v ((key', w) :: entries) := by
  intro fuel rest hfuel
  obtain ⟨fuel, rfl⟩ := Nat.exists_eq_add_one.mpr (Nat.zero_lt_of_lt hfuel)
  rw [writeEntries] at hfuel ⊢
  simp only [List.length_cons, List.length_append] at hfuel
  have hread := hv fuel (',' :: (lay.newline (depth + 1) ++ (quote key' ++ ':' :: (lay.colon ++
    (write lay (depth + 1) w ++ (writeEntries lay depth entries ++ rest)))))) (by omega) fun c hc ↦ by
      obtain rfl := Option.some.inj hc
      decide
  simp only [List.cons_append, List.append_assoc]
  refine readEntries_of_comma (readString_quote key (by omega) _) (skip_cons (by decide) _)
    (skip_colon_write lay (depth + 1) hjson _ ▸ hread) (skip_cons (by decide) _) ?_
  rw [quote, List.cons_append, skip_newline_cons (by decide)]
  exact hentries fuel rest (by omega)

theorem lookup_eq_none {key : String} {entries : List (String × Value)}
    (h : key ∉ entries.map Prod.fst) : Value.lookup key entries = none := by
  rw [Value.lookup, Option.map_eq_none_iff, List.find?_eq_none]
  intro e he
  rw [decide_eq_true_eq]
  rintro rfl
  exact h (List.mem_map_of_mem he)

theorem foldl_assign (pairs entries : List (String × Value))
    (h : ((entries ++ pairs).map Prod.fst).Nodup) :
    pairs.foldl (fun entries e ↦ Value.assign e.1 e.2 entries) entries = entries ++ pairs := by
  induction pairs generalizing entries with
  | nil => exact (List.append_nil entries).symm
  | cons e pairs ih =>
    have hnew : e.1 ∉ entries.map Prod.fst := by
      rw [List.map_append, List.map_cons] at h
      exact fun hmem ↦ List.disjoint_of_nodup_append h hmem List.mem_cons_self
    have hassign : Value.assign e.1 e.2 entries = entries ++ [e] := by
      rw [Value.assign, lookup_eq_none hnew]
      rfl
    rw [List.append_cons] at h ⊢
    rw [List.foldl_cons, hassign, ih (entries ++ [e]) h]

/-- **Distinct keys are kept, with their values and in their order.** -/
theorem fromPairs_eq_self {entries : List (String × Value)} (h : (entries.map Prod.fst).Nodup) :
    fromPairs entries = entries :=
  foldl_assign entries [] h

theorem readsBack_dict {key : String} {entries : List (String × Value)}
    (hnodup : (((key, v) :: entries).map Prod.fst).Nodup)
    (hentries : EntriesReadBack showFloat lay depth key v entries) :
    ReadsBack showFloat lay depth (.dict ((key, v) :: entries)) := by
  intro fuel rest hfuel _
  rw [write] at hfuel ⊢
  simp only [List.length_cons, List.length_append] at hfuel
  obtain ⟨fuel, rfl⟩ := Nat.exists_eq_add_one.mpr (Nat.zero_lt_of_lt hfuel)
  have hread := hentries fuel rest (by omega)
  simp only [List.cons_append, List.append_assoc]
  rw [quote_append] at hread ⊢
  rw [readValue_of_brace (skip_newline_cons (by decide) _) (by decide), hread]
  show some (Value.dict (fromPairs _), rest) = _
  rw [fromPairs_eq_self hnodup]

end Composite

section RoundTrip

variable (lay : Layout)

mutual

/-- **A value is read back**, whatever follows it. -/
theorem readValue_write (depth : Nat) :
    (v : Value) → isJson showFloat v = true → ReadsBack showFloat lay depth v
  | .none, _ => fun fuel rest hfuel _ ↦ by
    obtain ⟨fuel, rfl⟩ := Nat.exists_eq_add_one.mpr (Nat.zero_lt_of_lt hfuel)
    rfl
  | .bool true, _ => fun fuel rest hfuel _ ↦ by
    obtain ⟨fuel, rfl⟩ := Nat.exists_eq_add_one.mpr (Nat.zero_lt_of_lt hfuel)
    rfl
  | .bool false, _ => fun fuel rest hfuel _ ↦ by
    obtain ⟨fuel, rfl⟩ := Nat.exists_eq_add_one.mpr (Nat.zero_lt_of_lt hfuel)
    rfl
  | .int n, _ => fun fuel rest hfuel hends ↦ by
    obtain ⟨hint, hne, hchars⟩ := readInt?_toString n
    rw [write] at hfuel ⊢
    have hpos := List.length_pos_of_ne_nil hne
    obtain ⟨fuel, rfl⟩ := Nat.exists_eq_add_one.mpr (show 0 < fuel by omega)
    rw [readValue_number hchars hne, readNumber_of_readInt? hchars hends hint]
  | .float text, hv => fun fuel rest hfuel hends ↦ by
    rw [isJson, Bool.and_eq_true, decide_eq_true_eq] at hv
    obtain ⟨hne, hchars⟩ := chars_of_isFloat hv.1
    rw [write] at hfuel ⊢
    have hpos := List.length_pos_of_ne_nil hne
    obtain ⟨fuel, rfl⟩ := Nat.exists_eq_add_one.mpr (show 0 < fuel by omega)
    rw [readValue_number hchars hne, readNumber_of_isFloat hends hv.1, String.ofList_toList, hv.2]
  | .str s, _ => fun fuel rest hfuel _ ↦ by
    rw [write] at hfuel ⊢
    obtain ⟨fuel, rfl⟩ := Nat.exists_eq_add_one.mpr (Nat.zero_lt_of_lt hfuel)
    rw [quote_append]
    show (readString fuel _).map _ = _
    rw [readString_quote s (by omega)]
    show some (Value.str (String.ofList s.toList), rest) = _
    rw [String.ofList_toList]
  | .list [], _ => fun fuel rest hfuel _ ↦ by
    obtain ⟨fuel, rfl⟩ := Nat.exists_eq_add_one.mpr (Nat.zero_lt_of_lt hfuel)
    rfl
  | .list (v :: items), hv => by
    rw [isJson, areJson, Bool.and_eq_true] at hv
    exact readsBack_list hv.1 (readItems_write depth items hv.2 v hv.1
      (readValue_write (depth + 1) v hv.1))
  | .dict [], _ => fun fuel rest hfuel _ ↦ by
    obtain ⟨fuel, rfl⟩ := Nat.exists_eq_add_one.mpr (Nat.zero_lt_of_lt hfuel)
    rfl
  | .dict ((key, v) :: entries), hv => by
    rw [isJson, entriesAreJson, Bool.and_eq_true, Bool.and_eq_true, decide_eq_true_eq] at hv
    exact readsBack_dict hv.1 (readEntries_write depth entries hv.2.2 key v hv.2.1
      (readValue_write (depth + 1) v hv.2.1))

/-- The items of a list are read back. -/
theorem readItems_write (depth : Nat) : (items : List Value) → areJson showFloat items = true →
    ∀ v, isJson showFloat v = true → ReadsBack showFloat lay (depth + 1) v →
      ItemsReadBack showFloat lay depth v items
  | [], _, _, _, hread => itemsReadBack_nil hread
  | w :: items, hitems, v, hv, hread => by
    rw [areJson, Bool.and_eq_true] at hitems
    exact itemsReadBack_cons hread hitems.1 (readItems_write depth items hitems.2 w hitems.1
      (readValue_write (depth + 1) w hitems.1))

/-- The entries of a dictionary are read back. -/
theorem readEntries_write (depth : Nat) : (entries : List (String × Value)) →
    entriesAreJson showFloat entries = true → ∀ key v, isJson showFloat v = true →
      ReadsBack showFloat lay (depth + 1) v → EntriesReadBack showFloat lay depth key v entries
  | [], _, _, _, hv, hread => entriesReadBack_nil hv hread
  | (key', w) :: entries, hentries, key, v, hv, hread => by
    rw [entriesAreJson, Bool.and_eq_true] at hentries
    exact entriesReadBack_cons hv hread (readEntries_write depth entries hentries.2 key' w hentries.1
      (readValue_write (depth + 1) w hentries.1))

end

end RoundTrip

/-! ## Texts of values -/

/-- **What is read of a text that was written is the value in normal form.** -/
theorem loads_dumps (lay : Layout) {v : Value} (hv : isJson showFloat v = true) :
    loads showFloat (dumps lay v) = some (normal v) := by
  have hnormal := isJson_normal v hv
  obtain ⟨c, cs, heq, hspace, -⟩ := write_eq_cons lay 0 hnormal
  have hskip : skip (write lay 0 (normal v)) = write lay 0 (normal v) := by
    rw [heq, skip_cons hspace]
  have hread := readValue_write lay 0 (normal v) hnormal (2 * (write lay 0 (normal v)).length + 2) []
    (by omega) (fun c hc ↦ (nomatch hc))
  rw [List.append_nil] at hread
  rw [loads, dumps, String.toList_ofList, hskip, hread]
  rfl

/-- **Values with the same text have the same normal form.** -/
theorem normal_eq_of_dumps_eq {lay : Layout} {v w : Value} (hv : isJson showFloat v = true)
    (hw : isJson showFloat w = true) (h : dumps lay v = dumps lay w) : normal v = normal w := by
  have hread := loads_dumps lay hv
  rw [h, loads_dumps lay hw] at hread
  exact (Option.some.inj hread).symm

theorem dumps_congr (lay : Layout) {v w : Value} (h : normal v = normal w) :
    dumps lay v = dumps lay w := by
  rw [dumps, dumps, h]

/-! ### The characters of a text -/

/-- What stands in a text besides white space: everything else is escaped. -/
def IsPrintable (c : Char) : Prop := 32 ≤ c.toNat ∧ c.toNat ≤ 126

instance (c : Char) : Decidable (IsPrintable c) := inferInstanceAs (Decidable (_ ∧ _))

theorem isPrintable_digitChar : ∀ d < 16, IsPrintable (Nat.digitChar d) := by decide

theorem isPrintable_hex4 (n : Nat) : ∀ c ∈ hex4 n, IsPrintable c := by
  simp only [hex4, List.forall_mem_cons]
  exact ⟨isPrintable_digitChar _ (Nat.mod_lt _ (by decide)),
    isPrintable_digitChar _ (Nat.mod_lt _ (by decide)),
    isPrintable_digitChar _ (Nat.mod_lt _ (by decide)),
    isPrintable_digitChar _ (Nat.mod_lt _ (by decide)), nofun⟩

theorem isPrintable_escape (c : Char) : ∀ d ∈ escape c, IsPrintable d := by
  have hbackslash : IsPrintable '\\' := by decide
  have hu : IsPrintable 'u' := by decide
  rw [escape]
  cases hfind : escapes.find? fun e ↦ e.1 = c with
  | some e =>
    have hescapes : ∀ e ∈ escapes, IsPrintable e.2 := by decide
    exact List.forall_mem_cons.mpr ⟨hbackslash, List.forall_mem_singleton.mpr
      (hescapes e (List.mem_of_find?_eq_some hfind))⟩
  | none =>
    dsimp only
    split
    · rename_i hprintable
      exact List.forall_mem_singleton.mpr hprintable
    · split
      · exact List.forall_mem_cons.mpr ⟨hbackslash, List.forall_mem_cons.mpr
          ⟨hu, isPrintable_hex4 _⟩⟩
      · refine List.forall_mem_append.mpr ⟨?_, ?_⟩
        · exact List.forall_mem_cons.mpr ⟨hbackslash, List.forall_mem_cons.mpr
            ⟨hu, isPrintable_hex4 _⟩⟩
        · exact List.forall_mem_cons.mpr ⟨hbackslash, List.forall_mem_cons.mpr
            ⟨hu, isPrintable_hex4 _⟩⟩

theorem isPrintable_quote (s : String) : ∀ c ∈ quote s, IsPrintable c := by
  have hquote : IsPrintable '"' := by decide
  refine List.forall_mem_cons.mpr ⟨hquote, List.forall_mem_append.mpr
    ⟨fun c hc ↦ ?_, List.forall_mem_singleton.mpr hquote⟩⟩
  obtain ⟨d, -, hd⟩ := List.mem_flatMap.mp hc
  exact isPrintable_escape d c hd

theorem isPrintable_of_isNumberChar {c : Char} (h : isNumberChar c = true) : IsPrintable c := by
  rw [isNumberChar, Bool.or_eq_true, decide_eq_true_eq] at h
  rcases h with hdigit | hsign
  · simp only [Char.isDigit, Bool.and_eq_true, decide_eq_true_eq, ge_iff_le,
      UInt32.le_iff_toNat_le] at hdigit
    change 48 ≤ c.toNat ∧ c.toNat ≤ 57 at hdigit
    exact ⟨by omega, by omega⟩
  · have hsigns : ∀ d ∈ ['-', '+', '.', 'e', 'E'], IsPrintable d := by decide
    exact hsigns c hsign

section Characters

variable {lay : Layout} {Q : Char → Prop}

/-- What stands in the space between the parts, and all other characters of a text. -/
structure Covers (lay : Layout) (Q : Char → Prop) : Prop where
  printable : ∀ {c}, IsPrintable c → Q c
  newline : ∀ depth, ∀ c ∈ lay.newline depth, Q c
  colon : ∀ c ∈ lay.colon, Q c

mutual

/-- **Only white space and printable characters are written.** -/
theorem forall_mem_write (h : Covers lay Q) (depth : Nat) :
    (v : Value) → isJson showFloat v = true → ∀ c ∈ write lay depth v, Q c
  | .none, _ => by
    have hletters : ∀ c ∈ ['n', 'u', 'l', 'l'], IsPrintable c := by decide
    exact fun c hc ↦ h.printable (hletters c hc)
  | .bool true, _ => by
    have hletters : ∀ c ∈ ['t', 'r', 'u', 'e'], IsPrintable c := by decide
    exact fun c hc ↦ h.printable (hletters c hc)
  | .bool false, _ => by
    have hletters : ∀ c ∈ ['f', 'a', 'l', 's', 'e'], IsPrintable c := by decide
    exact fun c hc ↦ h.printable (hletters c hc)
  | .int n, _ => fun c hc ↦
    h.printable (isPrintable_of_isNumberChar ((readInt?_toString n).2.2 c hc))
  | .float text, hv => fun c hc ↦ by
    rw [isJson, Bool.and_eq_true] at hv
    exact h.printable (isPrintable_of_isNumberChar ((chars_of_isFloat hv.1).2 c hc))
  | .str s, _ => fun c hc ↦ h.printable (isPrintable_quote s c hc)
  | .list [], _ => by
    have hbrackets : ∀ c ∈ ['[', ']'], IsPrintable c := by decide
    exact fun c hc ↦ h.printable (hbrackets c hc)
  | .list (v :: items), hv => by
    rw [isJson, areJson, Bool.and_eq_true] at hv
    rw [write, List.forall_mem_cons, List.forall_mem_append, List.forall_mem_append]
    exact ⟨h.printable (by decide), h.newline _, forall_mem_write h (depth + 1) v hv.1,
      forall_mem_writeItems h depth items hv.2⟩
  | .dict [], _ => by
    have hbraces : ∀ c ∈ ['\x7b', '\x7d'], IsPrintable c := by decide
    exact fun c hc ↦ h.printable (hbraces c hc)
  | .dict ((key, v) :: entries), hv => by
    rw [isJson, entriesAreJson, Bool.and_eq_true, Bool.and_eq_true] at hv
    rw [write, List.forall_mem_cons, List.forall_mem_append, List.forall_mem_append,
      List.forall_mem_cons, List.forall_mem_append, List.forall_mem_append]
    exact ⟨h.printable (by decide), h.newline _, fun c hc ↦ h.printable (isPrintable_quote key c hc),
      h.printable (by decide), h.colon, forall_mem_write h (depth + 1) v hv.2.1,
      forall_mem_writeEntries h depth entries hv.2.2⟩

/-- The same for the items of a list. -/
theorem forall_mem_writeItems (h : Covers lay Q) (depth : Nat) : (items : List Value) →
    areJson showFloat items = true → ∀ c ∈ writeItems lay depth items, Q c
  | [], _ => by
    rw [writeItems, List.forall_mem_append, List.forall_mem_singleton]
    exact ⟨h.newline _, h.printable (by decide)⟩
  | v :: items, hitems => by
    rw [areJson, Bool.and_eq_true] at hitems
    rw [writeItems, List.forall_mem_cons, List.forall_mem_append, List.forall_mem_append]
    exact ⟨h.printable (by decide), h.newline _, forall_mem_write h (depth + 1) v hitems.1,
      forall_mem_writeItems h depth items hitems.2⟩

/-- The same for the entries of a dictionary. -/
theorem forall_mem_writeEntries (h : Covers lay Q) (depth : Nat) :
    (entries : List (String × Value)) → entriesAreJson showFloat entries = true →
      ∀ c ∈ writeEntries lay depth entries, Q c
  | [], _ => by
    rw [writeEntries, List.forall_mem_append, List.forall_mem_singleton]
    exact ⟨h.newline _, h.printable (by decide)⟩
  | (key, v) :: entries, hentries => by
    rw [entriesAreJson, Bool.and_eq_true] at hentries
    rw [writeEntries, List.forall_mem_cons, List.forall_mem_append, List.forall_mem_append,
      List.forall_mem_cons, List.forall_mem_append, List.forall_mem_append]
    exact ⟨h.printable (by decide), h.newline _, fun c hc ↦ h.printable (isPrintable_quote key c hc),
      h.printable (by decide), h.colon, forall_mem_write h (depth + 1) v hentries.1,
      forall_mem_writeEntries h depth entries hentries.2⟩

end

end Characters

/-- A text has no CR in it, so a file with it is read as it was written. -/
theorem not_mem_dumps_indented (width : Nat) {v : Value} (hv : isJson showFloat v = true) :
    '\r' ∉ (dumps (indented width) v).toList := by
  have hcovers : Covers (indented width) fun c ↦ c ≠ '\r' := by
    refine ⟨?_, fun depth c hc ↦ ?_, ?_⟩
    · rintro c hc rfl
      exact absurd hc.1 (by decide)
    · rcases List.mem_cons.mp hc with rfl | hc
      · decide
      · rw [List.eq_of_mem_replicate hc]
        decide
    · exact List.forall_mem_singleton.mpr (by decide)
  rw [dumps, String.toList_ofList]
  exact fun hmem ↦ forall_mem_write hcovers 0 (normal v) (isJson_normal v hv) '\r' hmem rfl

end

end Json
