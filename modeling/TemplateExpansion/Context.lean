/-
# The context of a run

One run carries the caller's positional arguments, the values stored so far, and an ordered log of
diagnostics.  A rejected occurrence stays in the text and is looked at again in every later pass, so
the context also keeps count of rejections: a rejection is logged only when its pass holds more
identical ones than any earlier pass did.

The main statements say what each change does to what can be read: a stored value
(`Store.get?_set`), and the two counts of a rejection (`Ledger.find_record`, `Ledger.find_beginPass`).
Changes leave the arguments alone (`args_applyAll`) and only ever add to the log
(`errors_prefix_applyAll`).
-/
import TemplateExpansion.Text

namespace TemplateExpansion

/-! ## 1. Stored values -/

/-- Values under names, the latest first.  A name occurs at most once. -/
abbrev Store := List (Text × Text)

namespace Store

/-- The value stored under a name. -/
def get? (s : Store) (name : Text) : Option Text := s.lookup name

/-- Stores a value under a name, in place of the one before. -/
def set (s : Store) (name value : Text) : Store := (name, value) :: s.filter (·.1 != name)

theorem get?_cons (k v : Text) (s : Store) (name : Text) :
    get? ((k, v) :: s) name = if name = k then some v else get? s name := by
  by_cases h : name = k
  · simp [get?, h]
  · have hne : (name == k) = false := by simp [h]
    simp [get?, List.lookup_cons, hne, h]

theorem get?_filter_ne {s : Store} {name other : Text} (h : other ≠ name) :
    get? (s.filter (·.1 != name)) other = get? s other := by
  induction s with
  | nil => rfl
  | cons entry s ih =>
    obtain ⟨k, v⟩ := entry
    by_cases hk : k = name
    · subst hk
      simpa [get?_cons, h] using ih
    · simp [hk, get?_cons, ih]

/-- **A name reads what was last stored under it**, and storing leaves every other name alone. -/
theorem get?_set (s : Store) (name value other : Text) :
    (s.set name value).get? other = if other = name then some value else s.get? other := by
  by_cases h : other = name
  · simp [set, get?_cons, h]
  · simp [set, get?_cons, h, get?_filter_ne h]

end Store

/-! ## 2. Counting rejections -/

/-- What makes two rejections identical: the occurrence as it is written, and the message. -/
structure Rejection where
  source : Text
  message : Text
  deriving Repr, DecidableEq

/-- How often one rejection occurred: at most `earlier` times in any pass before this one, and
`current` times so far in this one. -/
structure Tally where
  rejection : Rejection
  earlier : Nat
  current : Nat
  deriving Repr, DecidableEq

namespace Tally

/-- One more occurrence in this pass. -/
def count (t : Tally) : Tally := { t with current := t.current + 1 }

/-- The end of this pass: what it counted is a count of an earlier pass from now on. -/
def close (t : Tally) : Tally := { t with earlier := max t.earlier t.current, current := 0 }

end Tally

/-- The tallies of all rejections met so far, the latest first.  A rejection occurs at most once. -/
abbrev Ledger := List Tally

namespace Ledger

/-- The tally of a rejection. -/
def find (l : Ledger) (r : Rejection) : Tally := (l.find? (·.rejection == r)).getD ⟨r, 0, 0⟩

/-- Closes the counts of a pass and opens those of the next. -/
def beginPass (l : Ledger) : Ledger := l.map Tally.close

/-- Counts one more rejection in this pass. -/
def record (l : Ledger) (r : Rejection) : Ledger :=
  (l.find r).count :: l.filter (·.rejection != r)

theorem find_cons (t : Tally) (l : Ledger) (r : Rejection) :
    find (t :: l) r = if t.rejection = r then t else find l r := by
  by_cases h : t.rejection = r <;> simp [find, h]

@[simp] theorem rejection_find (l : Ledger) (r : Rejection) : (l.find r).rejection = r := by
  induction l with
  | nil => rfl
  | cons t l ih =>
    rw [find_cons]
    split
    · assumption
    · exact ih

theorem find_filter_ne {l : Ledger} {r q : Rejection} (h : q ≠ r) :
    find (l.filter (·.rejection != r)) q = find l q := by
  induction l with
  | nil => rfl
  | cons t l ih =>
    by_cases ht : t.rejection = r
    · have hq : t.rejection ≠ q := fun hq => h (hq ▸ ht)
      simpa [ht, find_cons, hq, Ne.symm h] using ih
    · simp [ht, find_cons, ih]

/-- **Recording adds one to the count of this pass**, for this rejection alone. -/
theorem find_record (l : Ledger) (r q : Rejection) :
    (l.record r).find q = if q = r then (l.find r).count else l.find q := by
  have hr : (l.find r).count.rejection = r := rejection_find l r
  by_cases h : q = r
  · simp [record, find_cons, hr, h]
  · simp [record, find_cons, hr, h, Ne.symm h, find_filter_ne h]

/-- **A new pass keeps the largest count of any pass so far** and starts counting from nothing. -/
theorem find_beginPass (l : Ledger) (r : Rejection) : l.beginPass.find r = (l.find r).close := by
  induction l with
  | nil => rfl
  | cons t l ih =>
    have hc : t.close.rejection = t.rejection := rfl
    rw [beginPass, List.map_cons, find_cons, find_cons, hc]
    split
    · rfl
    · exact ih

end Ledger

/-! ## 3. The context -/

/-- What one run carries from occurrence to occurrence and from pass to pass. -/
structure Context where
  args : List Text
  values : Store
  errors : List Text
  rejections : Ledger
  deriving Repr, DecidableEq

namespace Context

/-- The context a run starts with: the caller's arguments and nothing else. -/
def fresh (args : List Text) : Context := ⟨args, [], [], []⟩

/-- The positional argument at an index. -/
def arg? (ctx : Context) (index : Nat) : Option Text := ctx.args[index]?

/-- The value stored under a name. -/
def get? (ctx : Context) (name : Text) : Option Text := ctx.values.get? name

/-- Stores a value under a name. -/
def set (ctx : Context) (name value : Text) : Context :=
  { ctx with values := ctx.values.set name value }

/-- A diagnostic as it is logged: the opcode, a colon and a space, the message. -/
def entry (opcode message : Text) : Text := opcode ++ ':' :: ' ' :: message

/-- Logs a diagnostic of an operation. -/
def report (ctx : Context) (opcode message : Text) : Context :=
  { ctx with errors := ctx.errors ++ [entry opcode message] }

/-- Counts a rejected occurrence, and logs it when this pass now holds more identical rejections than
any earlier pass did. -/
def reject (ctx : Context) (source opcode message : Text) : Context :=
  let rejection := ⟨source, message⟩
  let tally := ctx.rejections.find rejection
  let counted := { ctx with rejections := ctx.rejections.record rejection }
  if tally.earlier < tally.current + 1 then counted.report opcode message else counted

/-- Marks the start of a pass over the text. -/
def beginPass (ctx : Context) : Context := { ctx with rejections := ctx.rejections.beginPass }

end Context

/-! ## 4. Changes -/

/-- What may be done to the context on the way. -/
inductive Change where
  /-- Stores a value under a name. -/
  | set (name value : Text)
  /-- Logs a diagnostic of an operation. -/
  | report (opcode message : Text)
  /-- Counts a rejected occurrence, and logs it when it is new. -/
  | reject (source opcode message : Text)
  deriving Repr, DecidableEq

namespace Context

/-- Makes a change. -/
def apply (ctx : Context) : Change → Context
  | .set name value => ctx.set name value
  | .report opcode message => ctx.report opcode message
  | .reject source opcode message => ctx.reject source opcode message

/-- Makes changes one after the other. -/
def applyAll (ctx : Context) (changes : List Change) : Context := changes.foldl apply ctx

@[simp] theorem applyAll_nil (ctx : Context) : ctx.applyAll [] = ctx := rfl

@[simp] theorem applyAll_cons (ctx : Context) (change : Change) (changes : List Change) :
    ctx.applyAll (change :: changes) = (ctx.apply change).applyAll changes := rfl

theorem args_reject (ctx : Context) (source opcode message : Text) :
    (ctx.reject source opcode message).args = ctx.args := by
  simp only [reject]
  split <;> rfl

theorem values_reject (ctx : Context) (source opcode message : Text) :
    (ctx.reject source opcode message).values = ctx.values := by
  simp only [reject]
  split <;> rfl

theorem errors_prefix_reject (ctx : Context) (source opcode message : Text) :
    ctx.errors <+: (ctx.reject source opcode message).errors := by
  simp only [reject]
  split
  · exact List.prefix_append _ _
  · exact List.prefix_rfl

theorem args_apply (ctx : Context) (change : Change) : (ctx.apply change).args = ctx.args := by
  cases change with
  | set name value => rfl
  | report opcode message => rfl
  | reject source opcode message => exact args_reject ctx source opcode message

theorem errors_prefix_apply (ctx : Context) (change : Change) :
    ctx.errors <+: (ctx.apply change).errors := by
  cases change with
  | set name value => exact List.prefix_rfl
  | report opcode message => exact List.prefix_append _ _
  | reject source opcode message => exact errors_prefix_reject ctx source opcode message

/-- **No change touches the arguments.** -/
theorem args_applyAll (ctx : Context) (changes : List Change) :
    (ctx.applyAll changes).args = ctx.args := by
  induction changes generalizing ctx with
  | nil => rfl
  | cons change changes ih => rw [applyAll_cons, ih, args_apply]

/-- **Changes only ever add to the log.** -/
theorem errors_prefix_applyAll (ctx : Context) (changes : List Change) :
    ctx.errors <+: (ctx.applyAll changes).errors := by
  induction changes generalizing ctx with
  | nil => exact List.prefix_rfl
  | cons change changes ih => exact (errors_prefix_apply ctx change).trans (ih _)

end Context

end TemplateExpansion
