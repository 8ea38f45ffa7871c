/-
# Texts

A text is the list of its characters, so that every law about it is an induction.  Positions in a
text are counted in bytes of UTF-8: a character of `n` bytes moves the position by `n`.

Texts grow to millions of characters, so what runs over a whole text is either a fold or carries
what it has seen so far, last character first.

The main statements say that cutting a text loses nothing (`splitOffset_append`,
`splitFirst_eq_some`), and that joining with a separator undoes splitting at it
(`join_splitOn`) and the other way round (`splitOn_join`).
-/

namespace TemplateExpansion

/-- A text is the list of its characters. -/
abbrev Text := List Char

namespace Text

/-! ## 1. Sizes and offsets -/

/-- The length of a text in bytes of UTF-8. -/
def byteSize (t : Text) : Nat := t.foldl (fun size c => size + c.utf8Size) 0

theorem foldl_utf8Size (n : Nat) (t : Text) :
    t.foldl (fun size c => size + c.utf8Size) n = n + byteSize t := by
  induction t generalizing n with
  | nil => rfl
  | cons c t ih =>
    rw [byteSize, List.foldl_cons, List.foldl_cons, ih, ih (0 + c.utf8Size)]
    omega

@[simp] theorem byteSize_nil : byteSize [] = 0 := rfl

@[simp] theorem byteSize_cons (c : Char) (t : Text) : byteSize (c :: t) = c.utf8Size + byteSize t := by
  rw [byteSize, List.foldl_cons, foldl_utf8Size, Nat.zero_add]

@[simp] theorem byteSize_append (s t : Text) : byteSize (s ++ t) = byteSize s + byteSize t := by
  induction s with
  | nil => simp
  | cons c s ih => simp [ih, Nat.add_assoc]

@[simp] theorem byteSize_reverse (t : Text) : byteSize t.reverse = byteSize t := by
  induction t with
  | nil => rfl
  | cons c t ih => simp [ih, Nat.add_comm]

/-- The most bytes that a text can have: memory for more cannot be asked for at once. -/
def maxByteSize : Nat := 0x7FFFFFFFFFFFFFFF

/-- Cuts a text at a byte offset, given what lies before it (last character first).  The second part
starts at the first character whose own offset is at least the one asked for, so an offset inside a
character moves on to the next one and an offset beyond the end leaves nothing. -/
def splitOffsetFrom (passed : Text) : Nat → Text → Text × Text
  | 0, t => (passed.reverse, t)
  | _ + 1, [] => (passed.reverse, [])
  | n + 1, c :: rest => splitOffsetFrom (c :: passed) (n + 1 - c.utf8Size) rest

/-- Cuts a text at a byte offset. -/
def splitOffset (n : Nat) (t : Text) : Text × Text := splitOffsetFrom [] n t

theorem splitOffsetFrom_append (passed : Text) (n : Nat) (t : Text) :
    (splitOffsetFrom passed n t).1 ++ (splitOffsetFrom passed n t).2 = passed.reverse ++ t := by
  induction t generalizing passed n with
  | nil => cases n <;> simp [splitOffsetFrom]
  | cons c t ih =>
    cases n with
    | zero => simp [splitOffsetFrom]
    | succ n => simp [splitOffsetFrom, ih]

/-- **Cutting at an offset loses nothing.** -/
theorem splitOffset_append (n : Nat) (t : Text) :
    (splitOffset n t).1 ++ (splitOffset n t).2 = t := by
  simp [splitOffset, splitOffsetFrom_append]

/-- The last character of a text is `c`. -/
def endsWith (t : Text) (c : Char) : Bool := t.getLast? == some c

/-! ## 2. Separators -/

/-- Cuts a text at the first occurrence of a separator, which is dropped. -/
def splitFirst (separator : Char) (t : Text) : Option (Text × Text) :=
  match t.dropWhile (· != separator) with
  | [] => none
  | _ :: after => some (t.takeWhile (· != separator), after)

/-- **The two parts around the first separator make up the text**, and the first part has no
separator in it. -/
theorem splitFirst_eq_some {separator : Char} {t before after : Text} :
    splitFirst separator t = some (before, after) ↔
      t = before ++ separator :: after ∧ separator ∉ before := by
  induction t generalizing before with
  | nil => simp [splitFirst]
  | cons c t ih =>
    by_cases h : c = separator
    · cases before <;> simp_all [splitFirst]
    · cases before with
      | nil => simp [splitFirst, h]; grind
      | cons b before => simp_all [splitFirst]; grind

/-- There is no first separator exactly in a text without one. -/
theorem splitFirst_eq_none {separator : Char} {t : Text} :
    splitFirst separator t = none ↔ separator ∉ t := by
  have h : splitFirst separator t = none ↔ t.dropWhile (· != separator) = [] := by
    unfold splitFirst
    split <;> simp_all
  rw [h]
  induction t with
  | nil => simp
  | cons c t ih =>
    by_cases hc : c = separator
    · simp_all [splitFirst]
    · simp_all [splitFirst]; grind

/-- One more character in front of the pieces of a text: a separator starts a new piece. -/
def splitStep (separator c : Char) : List Text → List Text
  | [] => if c = separator then [[], []] else [[c]]
  | piece :: pieces => if c = separator then [] :: piece :: pieces else (c :: piece) :: pieces

/-- The pieces of a text between the occurrences of a separator: one more than there are
separators, so the empty text has one empty piece. -/
def splitOn (separator : Char) (t : Text) : List Text := t.foldr (splitStep separator) [[]]

/-- Pieces written one after the other with a separator between them. -/
def join (separator : Char) (pieces : List Text) : Text := [separator].intercalate pieces

@[simp] theorem splitOn_nil (separator : Char) : splitOn separator [] = [[]] := rfl

theorem splitOn_cons (separator c : Char) (t : Text) :
    splitOn separator (c :: t) = splitStep separator c (splitOn separator t) := rfl

/-- Splitting never yields an empty list of pieces. -/
theorem splitOn_ne_nil (separator : Char) (t : Text) : splitOn separator t ≠ [] := by
  cases t with
  | nil => simp
  | cons c t =>
    rw [splitOn_cons]
    cases splitOn separator t <;> simp only [splitStep] <;> split <;> simp

@[simp] theorem join_nil (separator : Char) : join separator [] = [] := rfl

@[simp] theorem join_singleton (separator : Char) (piece : Text) : join separator [piece] = piece := by
  simp [join, List.intercalate]

@[simp] theorem join_cons_cons (separator : Char) (piece next : Text) (pieces : List Text) :
    join separator (piece :: next :: pieces) =
      piece ++ separator :: join separator (next :: pieces) := by
  simp [join, List.intercalate]

/-- **Joining the pieces gives the text back.** -/
theorem join_splitOn (separator : Char) (t : Text) : join separator (splitOn separator t) = t := by
  induction t with
  | nil => simp
  | cons c t ih =>
    rw [splitOn_cons]
    cases hs : splitOn separator t with
    | nil => exact absurd hs (splitOn_ne_nil separator t)
    | cons piece pieces =>
      rw [hs] at ih
      by_cases h : c = separator
      · simp [splitStep, h, ih]
      · cases pieces with
        | nil => simpa [splitStep, h] using ih
        | cons next pieces => simpa [splitStep, h] using ih

/-- A text without the separator is its own only piece. -/
theorem splitOn_eq_singleton {separator : Char} {t : Text} (h : separator ∉ t) :
    splitOn separator t = [t] := by
  induction t with
  | nil => rfl
  | cons c t ih =>
    simp only [List.mem_cons, not_or] at h
    simp [splitOn_cons, splitStep, Ne.symm h.1, ih h.2]

/-- A text without the separator in front of one is the first piece. -/
theorem splitOn_append {separator : Char} {s : Text} (h : separator ∉ s) (t : Text) :
    splitOn separator (s ++ separator :: t) = s :: splitOn separator t := by
  induction s with
  | nil =>
    rw [List.nil_append, splitOn_cons]
    cases ht : splitOn separator t with
    | nil => exact absurd ht (splitOn_ne_nil separator t)
    | cons piece pieces => simp [splitStep]
  | cons c s ih =>
    simp only [List.mem_cons, not_or] at h
    simp [splitOn_cons, splitStep, Ne.symm h.1, ih h.2]

/-- **Splitting gives the pieces back** when none of them has the separator in it. -/
theorem splitOn_join {separator : Char} {pieces : List Text} (hne : pieces ≠ [])
    (h : ∀ piece ∈ pieces, separator ∉ piece) : splitOn separator (join separator pieces) = pieces := by
  induction pieces with
  | nil => exact absurd rfl hne
  | cons piece pieces ih =>
    have hpiece := h piece List.mem_cons_self
    cases pieces with
    | nil => rw [join_singleton, splitOn_eq_singleton hpiece]
    | cons next pieces =>
      rw [join_cons_cons, splitOn_append hpiece,
        ih (by simp) fun p hp => h p (List.mem_cons_of_mem _ hp)]

/-! ## 3. Case -/

/-- The letters A to Z in lower case; every other character stays. -/
def toLower (t : Text) : Text := t.map Char.toLower

end Text

end TemplateExpansion
