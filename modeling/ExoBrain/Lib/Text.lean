import ExoBrain.Lib.Runs

/-!
# The string operations the code uses

The code compares identifiers after `str(x).strip()`, and treats one that strips to the empty
string as missing.  `strip` is that function on Lean strings: it drops the longest prefix and the
longest suffix of characters for which `str.isspace` is true.  `lower` is `str.lower` on ASCII,
`contains` looks for a string in another, `universalNewlines` is how a file is read, `split` cuts a
string wherever a character stands and `rsplit` at the last such place, `like` is the `LIKE` of
SQLite, and `sortedTexts` is `sorted` of strings.
-/

set_option autoImplicit false

namespace Text

/-- What holds of the characters of a list is decided by going through the list, and not through all
characters there are. -/
instance (priority := high) decidableForallMem (p : Char → Prop) [DecidablePred p] (l : List Char) :
    Decidable (∀ c ∈ l, p c) :=
  List.decidableBAll p l

/-- `str.isspace` for one character: the Unicode separators and the bidirectional types `WS`, `B`
and `S`. -/
def isSpace (c : Char) : Bool :=
  let n := c.toNat
  (9 ≤ n && n ≤ 13) || (28 ≤ n && n ≤ 32) || n == 0x85 || n == 0xA0 || n == 0x1680 ||
    (0x2000 ≤ n && n ≤ 0x200A) || n == 0x2028 || n == 0x2029 || n == 0x202F || n == 0x205F ||
    n == 0x3000

/-- `s.strip()`. -/
def strip (s : String) : String :=
  String.ofList (((s.toList.dropWhile isSpace).reverse.dropWhile isSpace).reverse)

example : strip " job 1\n" = "job 1" := by decide

/-- Stripping twice is stripping once. -/
theorem strip_strip (s : String) : strip (strip s) = strip s := by
  rw [strip, strip, String.toList_ofList]
  generalize s.toList = l
  -- What is left of the suffix starts like what is left of the prefix, so with no blank.
  have hsub : ((l.dropWhile isSpace).reverse.dropWhile isSpace).reverse <+: l.dropWhile isSpace := by
    rw [← List.reverse_reverse (l.dropWhile isSpace), List.reverse_prefix, List.reverse_reverse]
    exact List.dropWhile_suffix isSpace
  have hhead : (((l.dropWhile isSpace).reverse.dropWhile isSpace).reverse).dropWhile isSpace =
      ((l.dropWhile isSpace).reverse.dropWhile isSpace).reverse := by
    rw [List.dropWhile_eq_self_iff]
    intro hl
    rw [hsub.getElem hl]
    exact List.dropWhile_get_zero_not isSpace l (hl.trans_le hsub.length_le)
  rw [hhead, List.reverse_reverse, List.dropWhile_idempotent]

theorem toList_strip (s : String) : (strip s).toList = Runs.trimEnds isSpace s.toList :=
  String.toList_ofList

/-- What is stripped does not begin or end with a blank. -/
theorem trimmed_strip (s : String) : Runs.Trimmed isSpace (strip s).toList := by
  obtain ⟨a, b, -, -, -, htrimmed⟩ := Runs.trimEnds_spec isSpace s.toList
  rwa [toList_strip]

theorem strip_eq_self_iff {s : String} : strip s = s ↔ Runs.Trimmed isSpace s.toList := by
  constructor
  · intro h
    rw [← h]
    exact trimmed_strip s
  · intro h
    have hself : Runs.trimEnds isSpace ([] ++ s.toList ++ []) = s.toList :=
      Runs.trimEnds_eq nofun nofun h
    rw [List.nil_append, List.append_nil] at hself
    rw [← String.toList_inj, toList_strip, hself]

/-- Two texts without blanks at their ends make one. -/
theorem strip_append {s t : String} (hs : strip s = s) (ht : strip t = t) :
    strip (s ++ t) = s ++ t := by
  rw [strip_eq_self_iff] at hs ht ⊢
  rw [String.toList_append]
  constructor
  · intro c hc
    rw [List.head?_append, Option.mem_def, Option.or_eq_some_iff] at hc
    exact hc.elim (hs.1 c) fun h ↦ ht.1 c h.2
  · intro c hc
    rw [List.getLast?_append, Option.mem_def, Option.or_eq_some_iff] at hc
    exact hc.elim (ht.2 c) fun h ↦ hs.2 c h.2

/-- A text without blanks is left as it is. -/
theorem strip_eq_self {s : String} (h : ∀ c ∈ s.toList, isSpace c = false) : strip s = s :=
  strip_eq_self_iff.mpr ⟨fun c hc ↦ h c (List.mem_of_mem_head? hc),
    fun c hc ↦ h c (List.mem_of_mem_getLast? hc)⟩

/-- Something is left of a text with a character that is not blank. -/
theorem strip_ne_empty {s : String} {c : Char} (hc : c ∈ s.toList) (hblank : isSpace c = false) :
    strip s ≠ "" := by
  intro h
  obtain ⟨a, b, hsplit, ha, hb, -⟩ := Runs.trimEnds_spec isSpace s.toList
  rw [← toList_strip, h, String.toList_empty, List.append_nil] at hsplit
  rw [hsplit, List.mem_append] at hc
  rcases hc with hc | hc
  · rw [ha c hc] at hblank
    cases hblank
  · rw [hb c hc] at hblank
    cases hblank

/-- A blank stands at the beginning. -/
def StartsBlank (s : String) : Prop := s.toList.head?.any isSpace = true

instance (s : String) : Decidable (StartsBlank s) := inferInstanceAs (Decidable (_ = true))

theorem not_startsBlank_strip (s : String) : ¬StartsBlank (strip s) := by
  intro h
  obtain ⟨c, hc, hblank⟩ := (Option.any_eq_true ..).mp h
  rw [(trimmed_strip s).1 c hc] at hblank
  cases hblank

/-- A text that does not end with a blank is left as it is if it does not begin with one. -/
theorem strip_eq_self_iff_of_last {s : String} {c : Char} (hlast : s.toList.getLast? = some c)
    (hblank : isSpace c = false) : strip s = s ↔ ¬StartsBlank s := by
  rw [strip_eq_self_iff, StartsBlank, Bool.not_eq_true, Option.any_eq_false]
  refine ⟨fun h d hd ↦ by simp [h.1 d hd], fun h ↦ ⟨fun d hd ↦ by simpa using h d hd, ?_⟩⟩
  intro d hd
  obtain rfl : c = d := Option.some.inj (hlast.symm.trans hd)
  exact hblank

/-- `s.lower()`, for the letters of ASCII. -/
def lower (s : String) : String := String.ofList (s.toList.map Char.toLower)

/-- The code of a capital letter grows by 32, and no other code changes. -/
theorem toNat_toLower (c : Char) :
    c.toLower.toNat = if 65 ≤ c.toNat ∧ c.toNat ≤ 90 then c.toNat + 32 else c.toNat := by
  unfold Char.toLower
  split
  · rename_i hupper
    have hbounds : 65 ≤ c.toNat ∧ c.toNat ≤ 90 := hupper
    rw [if_pos hbounds]
    have hle : c.val.toNat ≤ 90 := hbounds.2
    show (c.val + 32).toNat = c.val.toNat + 32
    rw [UInt32.toNat_add, Nat.mod_eq_of_lt]
    · rfl
    · show c.val.toNat + 32 < 4294967296
      omega
  · rename_i hupper
    have hbounds : ¬(65 ≤ c.toNat ∧ c.toNat ≤ 90) := hupper
    rw [if_neg hbounds]

theorem toLower_toLower (c : Char) : c.toLower.toLower = c.toLower := by
  refine Char.toNat_inj.mp ?_
  rw [toNat_toLower c.toLower, toNat_toLower c]
  split_ifs <;> omega

theorem isSpace_toLower (c : Char) : isSpace c.toLower = isSpace c := by
  rw [Bool.eq_iff_iff]
  simp only [isSpace, toNat_toLower, Bool.or_eq_true, Bool.and_eq_true, decide_eq_true_eq,
    beq_iff_eq]
  split <;> omega

/-- What is in lower case stays so. -/
theorem lower_lower (s : String) : lower (lower s) = lower s := by
  rw [lower, lower, String.toList_ofList, List.map_map]
  exact congrArg String.ofList (List.map_congr_left fun c _ ↦ toLower_toLower c)

/-- No blank comes to the ends of a text. -/
theorem strip_lower {s : String} (h : strip s = s) : strip (lower s) = lower s := by
  rw [strip_eq_self_iff] at h ⊢
  rw [lower, String.toList_ofList]
  exact h.map isSpace_toLower

/-- `part in s`. -/
def contains (part s : String) : Bool := part.toList <:+: s.toList

/-- What `read_text` makes of the text of a file: CR LF and CR are read as LF. -/
def universalNewlines (s : String) : String :=
  String.ofList (translate s.toList)
where
  /-- The same for the characters. -/
  translate : List Char → List Char
    | [] => []
    | '\r' :: '\n' :: cs => '\n' :: translate cs
    | c :: cs => (if c = '\r' then '\n' else c) :: translate cs

example : universalNewlines "a\r\nb\rc\n" = "a\nb\nc\n" := by decide

theorem not_mem_universalNewlines (s : String) : '\r' ∉ (universalNewlines s).toList := by
  rw [universalNewlines, String.toList_ofList]
  induction s.toList using universalNewlines.translate.induct with
  | case1 => exact List.not_mem_nil
  | case2 cs ih => simpa [universalNewlines.translate] using ih
  | case3 c cs _ ih =>
    rw [universalNewlines.translate.eq_3 c cs ‹_›, List.mem_cons, not_or]
    refine ⟨?_, ih⟩
    split
    · decide
    · exact Ne.symm ‹_›

/-- **Reading back what was written.**  A text is read as it is exactly if no CR is in it. -/
theorem universalNewlines_eq_self {s : String} : universalNewlines s = s ↔ '\r' ∉ s.toList := by
  constructor
  · intro h
    rw [← h]
    exact not_mem_universalNewlines s
  · intro h
    have hself : universalNewlines.translate s.toList = s.toList := by
      revert h
      induction s.toList using universalNewlines.translate.induct with
      | case1 => exact fun _ ↦ rfl
      | case2 cs ih => simp
      | case3 c cs _ ih =>
        intro h
        rw [List.mem_cons, not_or] at h
        rw [universalNewlines.translate.eq_3 c cs ‹_›, if_neg (Ne.symm h.1), ih h.2]
    rw [universalNewlines, hself, String.ofList_toList]

/-- What stands before the first `c` and after it. -/
theorem append_separator_inj {c : Char} {s s' t t' : String} (hs : c ∉ s.toList)
    (hs' : c ∉ s'.toList) :
    s ++ String.singleton c ++ t = s' ++ String.singleton c ++ t' ↔ s = s' ∧ t = t' := by
  have hdrop {u v : String} (hu : c ∉ u.toList) :
      (u ++ String.singleton c ++ v).toList.dropWhile (fun d ↦ d ≠ c) = c :: v.toList := by
    rw [String.toList_append, String.toList_append, String.toList_singleton, List.append_assoc]
    refine Runs.dropWhile_append_of_head (fun d hd ↦ decide_eq_true ?_) fun d hd ↦ ?_
    · rintro rfl
      exact hu hd
    · obtain rfl : c = d := Option.some.inj hd
      exact decide_eq_false (not_not_intro rfl)
  constructor
  · intro h
    have htail := (hdrop hs).symm.trans ((congrArg _ (congrArg String.toList h)).trans (hdrop hs'))
    obtain rfl := String.toList_inj.mp (List.cons.inj htail).2
    rw [String.append_assoc, String.append_assoc, String.append_left_inj] at h
    exact ⟨h, rfl⟩
  · rintro ⟨rfl, rfl⟩
    rfl

/-- `s.split(c)`: the texts between the occurrences of the character. -/
def split (c : Char) (s : String) : List String := (s.toList.splitOn c).map String.ofList

/-- Joining two texts at the character joins their lists. -/
theorem split_append (c : Char) (s t : String) :
    split c (s ++ String.singleton c ++ t) = split c s ++ split c t := by
  have hlist : (s ++ String.singleton c ++ t).toList = s.toList ++ c :: t.toList := by simp
  rw [split, hlist, List.splitOn_append_cons_self, List.map_append, split, split]

/-- A text is made up of what stands between the characters. -/
theorem split_inj {c : Char} {s t : String} : split c s = split c t ↔ s = t := by
  constructor
  · intro h
    have hlists : s.toList.splitOn c = t.toList.splitOn c :=
      List.map_injective_iff.mpr (fun _ _ h ↦ String.ofList_injective h) h
    have hjoined := congrArg (List.intercalate [c]) hlists
    rwa [List.intercalate_splitOn, List.intercalate_splitOn, String.toList_inj] at hjoined
  · rintro rfl
    rfl

theorem split_of_not_mem {c : Char} {s : String} (h : c ∉ s.toList) : split c s = [s] := by
  rw [split, List.splitOn_eq_singleton h, List.map_singleton, String.ofList_toList]

/-- Between the characters, the character does not stand. -/
theorem not_mem_of_mem_split {c : Char} {s part : String} (h : part ∈ split c s) :
    c ∉ part.toList := by
  have hlist (l : List Char) : ∀ part ∈ l.splitOn c, c ∉ part := by
    induction l with
    | nil => simp
    | cons d l ih =>
      obtain ⟨first, rest, hsplit⟩ := List.exists_cons_of_ne_nil (List.splitOn_ne_nil c l)
      rw [hsplit, List.forall_mem_cons] at ih
      rw [List.splitOn_cons_eq_if_modifyHead, hsplit]
      by_cases hd : d = c
      · simpa [hd] using ih
      · simpa [hd, Ne.symm hd] using ih
  obtain ⟨chars, hchars, rfl⟩ := List.mem_map.mp h
  rw [String.toList_ofList]
  exact hlist s.toList chars hchars

/-- Texts in which the character does not stand are read back from their join. -/
theorem split_intercalate {c : Char} {l : List String} (hne : l ≠ [])
    (h : ∀ s ∈ l, c ∉ s.toList) : split c ((String.singleton c).intercalate l) = l := by
  have hchars : ∀ chars ∈ l.map String.toList, c ∉ chars := by
    simpa using h
  rw [split, String.toList_intercalate, String.toList_singleton,
    List.splitOn_intercalate c hchars (mt List.map_eq_nil_iff.mp hne), List.map_map]
  exact (List.map_congr_left fun s _ ↦ String.ofList_toList).trans (List.map_id l)

/-- `s.rsplit(c, 1)`: what stands before and after the last `c`, if there is one. -/
def rsplit (c : Char) (s : String) : Option (String × String) :=
  match s.toList.reverse.dropWhile fun d ↦ d ≠ c with
  | [] => none
  | _ :: front =>
    some (String.ofList front.reverse,
      String.ofList (s.toList.reverse.takeWhile fun d ↦ d ≠ c).reverse)

/-- A string is cut after what was put before the character, if none stands in what follows. -/
theorem rsplit_append {c : Char} {s t : String} (h : c ∉ t.toList) :
    rsplit c (s ++ String.singleton c ++ t) = some (s, t) := by
  have hrev : (s ++ String.singleton c ++ t).toList.reverse =
      t.toList.reverse ++ c :: s.toList.reverse := by simp
  have hpass : ∀ d ∈ t.toList.reverse, (decide (d ≠ c)) = true := by
    intro d hd
    refine decide_eq_true ?_
    rintro rfl
    exact h (List.mem_reverse.mp hd)
  have hdrop : (t.toList.reverse ++ c :: s.toList.reverse).dropWhile (fun d ↦ decide (d ≠ c)) =
      c :: s.toList.reverse := by
    rw [List.dropWhile_append_of_pos hpass, List.dropWhile_cons_of_neg (by simp)]
  have htake : (t.toList.reverse ++ c :: s.toList.reverse).takeWhile (fun d ↦ decide (d ≠ c)) =
      t.toList.reverse := by
    rw [List.takeWhile_append_of_pos hpass, List.takeWhile_cons_of_neg (by simp),
      List.append_nil]
  rw [rsplit, hrev, hdrop, htake]
  simp

/-- `text LIKE pattern` on lists of characters: `%` stands for any run of characters, `_` for one
character, and the letters of ASCII match in both cases. -/
def like : (pattern text : List Char) → Bool
  | [] => fun text ↦ text.isEmpty
  | c :: pattern => fun text ↦
    if c = '%' then text.tails.any (like pattern)
    else
      match text with
      | [] => false
      | d :: text => (c = '_' || c.toLower = d.toLower) && like pattern text

example : like "acme:%".toList "ACME:submit".toList = true := by decide +kernel

/-- `sorted` of texts. -/
def sortedTexts (l : List String) : List String := l.mergeSort fun a b ↦ a ≤ b

/-- Sorting leaves nothing out, so only nothing is sorted to nothing. -/
@[simp] theorem sortedTexts_eq_nil (l : List String) : sortedTexts l = [] ↔ l = [] := by
  rw [← List.length_eq_zero_iff, sortedTexts, List.length_mergeSort, List.length_eq_zero_iff]

end Text
