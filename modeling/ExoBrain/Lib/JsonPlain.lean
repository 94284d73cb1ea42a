import ExoBrain.Lib.JsonRoundTrip

/-!
# Writing without a layout

`json.dumps(v)`, as it is without any options: the entries of a dictionary stay in their order, and
there is a space after each comma and colon.

`loads_dumpsPlain`: what is read back is the value itself.
-/

set_option autoImplicit false

namespace Json

mutual

/-- The text of a value. -/
def plain : Value → List Char
  | .none => ['n', 'u', 'l', 'l']
  | .bool true => ['t', 'r', 'u', 'e']
  | .bool false => ['f', 'a', 'l', 's', 'e']
  | .int n => (toString n).toList
  | .float text => text.toList
  | .str s => quote s
  | .list [] => ['[', ']']
  | .list (v :: items) => '[' :: (plain v ++ plainItems items)
  | .dict [] => ['\x7b', '\x7d']
  | .dict ((key, v) :: entries) =>
    '\x7b' :: (quote key ++ ':' :: ' ' :: (plain v ++ plainEntries entries))
  -- No object of another class can be written.
  | .object _ _ _ _ => []

/-- The items after the first one, and the end of the list. -/
def plainItems : List Value → List Char
  | [] => [']']
  | v :: items => ',' :: ' ' :: (plain v ++ plainItems items)

/-- The entries after the first one, and the end of the dictionary. -/
def plainEntries : List (String × Value) → List Char
  | [] => ['\x7d']
  | (key, v) :: entries =>
    ',' :: ' ' :: (quote key ++ ':' :: ' ' :: (plain v ++ plainEntries entries))

end

/-- `json.dumps(v)`. -/
def dumpsPlain (v : Value) : String := String.ofList (plain v)

example : dumpsPlain (.dict [("b", .list [.int (-12), .none]), ("a", .str "\"")]) =
    "\x7b\"b\": [-12, null], \"a\": \"\\\"\"\x7d" := by decide +kernel

variable {showFloat : String → String} {rest : List Char}

/-- The text of a value begins with a character that is no white space and closes nothing. -/
theorem plain_eq_cons {v : Value} (hv : isJson showFloat v = true) :
    ∃ c cs, plain v = c :: cs ∧ isSpace c = false ∧ c ≠ ']' ∧ c ≠ '\x7d' := by
  cases v with
  | none => exact write_eq_cons compact 0 hv
  | bool b => cases b <;> exact write_eq_cons compact 0 hv
  | int n => exact write_eq_cons compact 0 hv
  | float text => exact write_eq_cons compact 0 hv
  | str s => exact write_eq_cons compact 0 hv
  | list items => cases items <;> exact ⟨'[', _, rfl, by decide⟩
  | dict entries => cases entries <;> exact ⟨'\x7b', _, rfl, by decide⟩
  | object => cases hv

theorem skip_space (cs : List Char) : skip (' ' :: cs) = skip cs := rfl

theorem skip_plain {v : Value} (hv : isJson showFloat v = true) (rest : List Char) :
    skip (plain v ++ rest) = plain v ++ rest := by
  obtain ⟨c, cs, heq, hspace, -⟩ := plain_eq_cons hv
  rw [heq]
  exact skip_cons hspace _

theorem ends_cons {c : Char} (hc : isNumberChar c = false) (cs : List Char) : Ends (c :: cs) := by
  intro d hd
  obtain rfl := Option.some.inj hd
  exact hc

/-- What is written of a value is read back. -/
def PlainReadBack (showFloat : String → String) (v : Value) : Prop :=
  ∀ fuel rest, 2 * (plain v).length ≤ fuel → Ends rest →
    readValue showFloat fuel (plain v ++ rest) = some (v, rest)

theorem plainReadBack_list {v : Value} {items : List Value} (hv : isJson showFloat v = true)
    (hitems : ∀ fuel rest, 2 * ((plain v).length + (plainItems items).length) < fuel →
      readItems showFloat fuel (plain v ++ (plainItems items ++ rest)) = some (v :: items, rest)) :
    PlainReadBack showFloat (.list (v :: items)) := by
  intro fuel rest hfuel _
  rw [plain] at hfuel ⊢
  simp only [List.length_cons, List.length_append] at hfuel
  obtain ⟨fuel, rfl⟩ := Nat.exists_eq_add_one.mpr (Nat.zero_lt_of_lt hfuel)
  obtain ⟨c, cs, heq, -, hclose, -⟩ := plain_eq_cons hv
  have hread := hitems fuel rest (by omega)
  have hskip := skip_plain hv (plainItems items ++ rest)
  simp only [List.cons_append, List.append_assoc]
  rw [heq, List.cons_append] at hskip hread
  rw [heq, List.cons_append, readValue_of_bracket hskip hclose, hread]
  rfl

theorem plainReadBack_dict {key : String} {v : Value} {entries : List (String × Value)}
    (hnodup : (((key, v) :: entries).map Prod.fst).Nodup)
    (hentries : ∀ fuel rest,
      2 * ((quote key).length + (plain v).length + (plainEntries entries).length) < fuel →
        readEntries showFloat fuel
          (quote key ++ ':' :: ' ' :: (plain v ++ (plainEntries entries ++ rest))) =
            some ((key, v) :: entries, rest)) :
    PlainReadBack showFloat (.dict ((key, v) :: entries)) := by
  intro fuel rest hfuel _
  rw [plain] at hfuel ⊢
  simp only [List.length_cons, List.length_append] at hfuel
  obtain ⟨fuel, rfl⟩ := Nat.exists_eq_add_one.mpr (Nat.zero_lt_of_lt hfuel)
  have hread := hentries fuel rest (by omega)
  simp only [List.cons_append, List.append_assoc]
  rw [quote_append] at hread ⊢
  rw [readValue_of_brace (skip_cons (by decide) _) (by decide), hread]
  show some (Value.dict (fromPairs _), rest) = _
  rw [fromPairs_eq_self hnodup]

mutual

/-- **A value is read back**, whatever follows it. -/
theorem readValue_plain : (v : Value) → isJson showFloat v = true → PlainReadBack showFloat v
  | .none, hv => readValue_write compact 0 .none hv
  | .bool true, hv => readValue_write compact 0 (.bool true) hv
  | .bool false, hv => readValue_write compact 0 (.bool false) hv
  | .int n, hv => readValue_write compact 0 (.int n) hv
  | .float text, hv => readValue_write compact 0 (.float text) hv
  | .str s, hv => readValue_write compact 0 (.str s) hv
  | .list [], hv => readValue_write compact 0 (.list []) hv
  | .list (v :: items), hv => by
    rw [isJson, areJson, Bool.and_eq_true] at hv
    exact plainReadBack_list hv.1 (readItems_plain items hv.2 v (readValue_plain v hv.1))
  | .dict [], hv => readValue_write compact 0 (.dict []) hv
  | .dict ((key, v) :: entries), hv => by
    rw [isJson, entriesAreJson, Bool.and_eq_true, Bool.and_eq_true, decide_eq_true_eq] at hv
    exact plainReadBack_dict hv.1 (readEntries_plain entries hv.2.2 key v hv.2.1
      (readValue_plain v hv.2.1))

/-- The items of a list are read back. -/
theorem readItems_plain : (items : List Value) → areJson showFloat items = true →
    ∀ v, PlainReadBack showFloat v → ∀ fuel rest,
      2 * ((plain v).length + (plainItems items).length) < fuel →
        readItems showFloat fuel (plain v ++ (plainItems items ++ rest)) = some (v :: items, rest)
  | [], _, v, hread => fun fuel rest hfuel ↦ by
    obtain ⟨fuel, rfl⟩ := Nat.exists_eq_add_one.mpr (Nat.zero_lt_of_lt hfuel)
    exact readItems_of_close (hread fuel _ (by omega) (ends_cons (by decide) rest))
      (skip_cons (by decide) rest)
  | w :: items, hitems, v, hread => fun fuel rest hfuel ↦ by
    rw [areJson, Bool.and_eq_true] at hitems
    obtain ⟨fuel, rfl⟩ := Nat.exists_eq_add_one.mpr (Nat.zero_lt_of_lt hfuel)
    rw [plainItems] at hfuel ⊢
    simp only [List.length_cons, List.length_append] at hfuel
    simp only [List.cons_append, List.append_assoc]
    refine readItems_of_comma (hread fuel _ (by omega) (ends_cons (by decide) _))
      (skip_cons (by decide) _) ?_
    rw [skip_space, skip_plain hitems.1]
    exact readItems_plain items hitems.2 w (readValue_plain w hitems.1) fuel rest (by omega)

/-- The entries of a dictionary are read back. -/
theorem readEntries_plain : (entries : List (String × Value)) →
    entriesAreJson showFloat entries = true → ∀ key v, isJson showFloat v = true →
      PlainReadBack showFloat v → ∀ fuel rest,
        2 * ((quote key).length + (plain v).length + (plainEntries entries).length) < fuel →
          readEntries showFloat fuel
            (quote key ++ ':' :: ' ' :: (plain v ++ (plainEntries entries ++ rest))) =
              some ((key, v) :: entries, rest)
  | [], _, key, v, hv, hread => fun fuel rest hfuel ↦ by
    obtain ⟨fuel, rfl⟩ := Nat.exists_eq_add_one.mpr (Nat.zero_lt_of_lt hfuel)
    have hvalue := hread fuel ('\x7d' :: rest) (by omega) (ends_cons (by decide) rest)
    rw [← skip_plain hv, ← skip_space] at hvalue
    exact readEntries_of_close (readString_quote key (by omega) _) (skip_cons (by decide) _) hvalue
      (skip_cons (by decide) rest)
  | (key', w) :: entries, hentries, key, v, hv, hread => fun fuel rest hfuel ↦ by
    rw [entriesAreJson, Bool.and_eq_true] at hentries
    obtain ⟨fuel, rfl⟩ := Nat.exists_eq_add_one.mpr (Nat.zero_lt_of_lt hfuel)
    rw [plainEntries] at hfuel ⊢
    simp only [List.length_cons, List.length_append] at hfuel
    have hnext := readEntries_plain entries hentries.2 key' w hentries.1
      (readValue_plain w hentries.1) fuel rest (by omega)
    have hvalue := hread fuel (',' :: ' ' :: (quote key' ++ ':' :: ' ' ::
      (plain w ++ (plainEntries entries ++ rest)))) (by omega) (ends_cons (by decide) _)
    rw [← skip_plain hv, ← skip_space] at hvalue
    simp only [List.cons_append, List.append_assoc]
    refine readEntries_of_comma (readString_quote key (by omega) _) (skip_cons (by decide) _) hvalue
      (skip_cons (by decide) _) ?_
    rw [skip_space, quote, List.cons_append, skip_cons (by decide)]
    exact hnext

end

/-- **What is read of a text that was written is the value.** -/
theorem loads_dumpsPlain {v : Value} (hv : isJson showFloat v = true) :
    loads showFloat (dumpsPlain v) = some v := by
  have hskip := skip_plain hv []
  rw [List.append_nil] at hskip
  have hread := readValue_plain v hv (2 * (plain v).length + 2) [] (by omega) (fun c hc ↦ nomatch hc)
  rw [List.append_nil] at hread
  rw [loads, dumpsPlain, String.toList_ofList, hskip, hread]
  rfl

end Json
