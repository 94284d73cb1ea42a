import ExoBrain.Lib.Text

/-!
# Paths of POSIX

A path begins somewhere and goes through names.  This is `PurePosixPath` of `pathlib`: a text is read
with empty names and `.` left out, and `..` is a name like any other.

* `parse` reads a text and `text` writes one, and `parse_text` says that what is written is read back.
* `join` is the operator `/`.
-/

set_option autoImplicit false

namespace ExoBrain

/-- Where a path begins. -/
inductive Anchor
  | relative
  | root
  /-- Two slashes.  POSIX leaves it open what they mean. -/
  | doubleRoot
deriving DecidableEq, Repr

namespace Anchor

/-- The anchor as it is written. -/
def text : Anchor → String
  | relative => ""
  | root => "/"
  | doubleRoot => "//"

/-- Where the path of a text begins: two slashes are not the same as one, or three. -/
def ofText (s : String) : Anchor :=
  match (s.toList.takeWhile fun c ↦ c = '/').length with
  | 0 => relative
  | 2 => doubleRoot
  | _ => root

/-- An anchor is read back from before what does not begin with a slash. -/
theorem ofText_text_append (anchor : Anchor) {s : String} (h : s.toList.head? ≠ some '/') :
    ofText (anchor.text ++ s) = anchor := by
  have hrest : s.toList.takeWhile (fun c ↦ c = '/') = [] := by
    rw [List.takeWhile_eq_nil_iff]
    intro hpos hslash
    rw [List.head?_eq_getElem?, List.getElem?_eq_getElem hpos] at h
    exact h (congrArg some (of_decide_eq_true hslash))
  have hslashes : ∀ c ∈ anchor.text.toList, decide (c = '/') = true := by
    cases anchor <;> decide
  rw [ofText, String.toList_append, List.takeWhile_append_of_pos hslashes, hrest, List.append_nil]
  cases anchor <;> rfl

end Anchor

/-- What stands in a path for a file or a directory. -/
structure IsName (s : String) : Prop where
  ne_empty : s ≠ ""
  ne_dot : s ≠ "."
  not_slash : '/' ∉ s.toList

theorem IsName.head?_ne {s : String} (h : IsName s) : s.toList.head? ≠ some '/' := fun hhead ↦
  h.not_slash (List.mem_of_mem_head? hhead)

/-- `PurePosixPath`. -/
structure PosixPath where
  anchor : Anchor
  parts : List String
  isName : ∀ part ∈ parts, IsName part

namespace PosixPath

@[ext] theorem ext {p q : PosixPath} (hanchor : p.anchor = q.anchor) (hparts : p.parts = q.parts) :
    p = q := by
  cases p
  cases q
  cases hanchor
  cases hparts
  rfl

/-- The names between the slashes of a text. -/
def namesOf (s : String) : List String := (Text.split '/' s).filter fun part ↦ part ≠ "" ∧ part ≠ "."

theorem isName_of_mem_namesOf {s part : String} (h : part ∈ namesOf s) : IsName part := by
  obtain ⟨hsplit, hname⟩ := List.mem_filter.mp h
  obtain ⟨hempty, hdot⟩ := of_decide_eq_true hname
  exact ⟨hempty, hdot, Text.not_mem_of_mem_split hsplit⟩

/-- `PurePosixPath(s)`. -/
def parse (s : String) : PosixPath where
  anchor := .ofText s
  parts := namesOf s
  isName _ h := isName_of_mem_namesOf h

/-- `str(p)`. -/
def text (p : PosixPath) : String :=
  if p.anchor = .relative ∧ p.parts = [] then "." else p.anchor.text ++ "/".intercalate p.parts

/-- The names below a path. -/
def below (p : PosixPath) (names : List String) (h : ∀ name ∈ names, IsName name) : PosixPath where
  anchor := p.anchor
  parts := p.parts ++ names
  isName part hpart := (List.mem_append.mp hpart).elim (p.isName part) (h part)

/-- `p / s`. -/
def join (p : PosixPath) (s : String) : PosixPath :=
  if (parse s).anchor = .relative then p.below (parse s).parts (parse s).isName else parse s

/-! ## Names -/

theorem namesOf_name {s : String} (h : IsName s) : namesOf s = [s] := by
  rw [namesOf, Text.split_of_not_mem h.not_slash]
  exact List.filter_cons_of_pos (decide_eq_true ⟨h.ne_empty, h.ne_dot⟩)

/-- A name is joined below. -/
theorem join_name (p : PosixPath) {s : String} (h : IsName s) :
    p.join s = p.below [s] (by simpa using h) := by
  have hanchor : (parse s).anchor = .relative := by
    have hread := Anchor.ofText_text_append .relative h.head?_ne
    rwa [show Anchor.relative.text = "" from rfl, String.empty_append] at hread
  rw [join, if_pos hanchor]
  exact ext rfl (congrArg (p.parts ++ ·) (namesOf_name h))

theorem below_below (p : PosixPath) {names names' : List String} (h : ∀ name ∈ names, IsName name)
    (h' : ∀ name ∈ names', IsName name) :
    (p.below names h).below names' h' =
      p.below (names ++ names') (List.forall_mem_append.mpr ⟨h, h'⟩) :=
  ext rfl (List.append_assoc ..)

/-! ## What is written is read back -/

/-- The names of a path with slashes between them. -/
theorem namesOf_intercalate {parts : List String} (h : ∀ part ∈ parts, IsName part) :
    namesOf ("/".intercalate parts) = parts := by
  cases parts with
  | nil => rfl
  | cons part parts =>
    have hsplit : Text.split '/' ("/".intercalate (part :: parts)) = part :: parts :=
      Text.split_intercalate (List.cons_ne_nil part parts) fun s hs ↦ (h s hs).not_slash
    rw [namesOf, hsplit, List.filter_eq_self]
    exact fun s hs ↦ decide_eq_true ⟨(h s hs).ne_empty, (h s hs).ne_dot⟩

theorem head?_intercalate {parts : List String} (h : ∀ part ∈ parts, IsName part) :
    ("/".intercalate parts).toList.head? ≠ some '/' := by
  cases parts with
  | nil =>
    rw [String.intercalate_nil]
    exact fun hnone ↦ by cases hnone
  | cons part parts =>
    have hpart := h part List.mem_cons_self
    have hne : part.toList ≠ [] := fun hnil ↦ hpart.ne_empty (String.toList_eq_nil_iff.mp hnil)
    have hfront : ∃ rest, ("/".intercalate (part :: parts)).toList = part.toList ++ rest := by
      cases parts with
      | nil => exact ⟨[], by rw [String.intercalate_singleton, List.append_nil]⟩
      | cons next parts =>
        rw [String.intercalate_cons_cons, String.toList_append, String.toList_append,
          List.append_assoc]
        exact ⟨_, rfl⟩
    obtain ⟨rest, hrest⟩ := hfront
    rw [hrest, List.head?_append_of_ne_nil _ hne]
    exact hpart.head?_ne

/-- A slash before the names does not matter to them. -/
theorem namesOf_slash_append (s : String) : namesOf ("/" ++ s) = namesOf s := by
  have hsplit : Text.split '/' ("/" ++ s) = "" :: Text.split '/' s := by
    have happend := Text.split_append '/' "" s
    rwa [String.empty_append] at happend
  rw [namesOf, hsplit, namesOf]
  exact List.filter_cons_of_neg (by simp)

/-- **What is written is read back.** -/
theorem parse_text (p : PosixPath) : parse p.text = p := by
  rw [text]
  split
  · rename_i hempty
    exact ext hempty.1.symm hempty.2.symm
  · refine ext (Anchor.ofText_text_append p.anchor (head?_intercalate p.isName)) ?_
    show namesOf (p.anchor.text ++ _) = p.parts
    cases p.anchor with
    | relative =>
      rw [show Anchor.relative.text = "" from rfl, String.empty_append]
      exact namesOf_intercalate p.isName
    | root => exact (namesOf_slash_append _).trans (namesOf_intercalate p.isName)
    | doubleRoot =>
      rw [show Anchor.doubleRoot.text = "/" ++ "/" from rfl, String.append_assoc,
        namesOf_slash_append]
      exact (namesOf_slash_append _).trans (namesOf_intercalate p.isName)

/-! ## The text of a path with names -/

theorem text_of_parts {p : PosixPath} (h : p.parts ≠ []) :
    p.text = p.anchor.text ++ "/".intercalate p.parts :=
  if_neg fun hempty ↦ h hempty.2

theorem text_ne_dot {p : PosixPath} (h : p.parts ≠ []) : p.text ≠ "." := by
  intro hdot
  have hparts : p.parts = (parse ".").parts := by rw [← hdot, p.parse_text]
  exact h (hparts.trans (by decide))

/-- It ends in a name. -/
theorem exists_text_eq {p : PosixPath} (h : p.parts ≠ []) :
    ∃ front name, IsName name ∧ p.text = front ++ name := by
  obtain ⟨parts, name, hparts⟩ := (List.eq_nil_or_concat' p.parts).resolve_left h
  refine ⟨p.anchor.text ++ if parts = [] then "" else "/".intercalate parts ++ "/", name,
    p.isName name (by simp [hparts]), ?_⟩
  rw [text_of_parts h, hparts]
  split
  · rename_i hnil
    simp [hnil]
  · rename_i hne
    rw [String.intercalate_append_of_ne_nil hne (List.cons_ne_nil _ _), String.intercalate_singleton,
      ← String.append_assoc, ← String.append_assoc]

theorem not_slash_text {p : PosixPath} (h : p.parts ≠ []) : p.text.toList.getLast? ≠ some '/' := by
  obtain ⟨front, name, hname, htext⟩ := exists_text_eq h
  have hne : name.toList ≠ [] := fun hnil ↦ hname.ne_empty (String.toList_eq_nil_iff.mp hnil)
  rw [htext, String.toList_append, List.getLast?_append_of_ne_nil _ hne]
  exact fun hslash ↦ hname.not_slash (List.mem_of_getLast? hslash)

/-- Another name comes after a slash. -/
theorem text_below_name {p : PosixPath} (h : p.parts ≠ []) {s : String} (hs : IsName s) :
    (p.below [s] (by simpa using hs)).text = p.text ++ "/" ++ s := by
  have hne : (p.below [s] (by simpa using hs)).parts ≠ [] := List.append_ne_nil_of_left_ne_nil h _
  rw [text_of_parts hne, text_of_parts h]
  show p.anchor.text ++ "/".intercalate (p.parts ++ [s]) = _
  rw [String.intercalate_append_of_ne_nil h (List.cons_ne_nil _ _), String.intercalate_singleton,
    ← String.append_assoc, ← String.append_assoc]

/-- The text of a path without names is its anchor, or a dot. -/
theorem text_of_no_parts {p : PosixPath} (h : p.parts = []) :
    p.text = if p.anchor = .relative then "." else p.anchor.text := by
  rw [text, h]
  simp

end PosixPath

end ExoBrain
