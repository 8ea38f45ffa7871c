/-
# The tracker and the search agree

Two walks decide about braces: `Cut.first?` looks for a pair to match, and `Text.pendingAfter` tells whether an
opening brace waits for its closing brace.  A pass has both go on from piece to piece, so the tracker sees its
text in parts, and of what lies before a part only whether it ends in a backslash (`tracked`).

* `tracked_append`: where the parts are cut makes no difference.
* `tracked_iff_findFrom`: a brace waits in a text exactly when one closing brace more would be matched, by a
  search that begins behind the last closing brace that the text has.
-/
import TemplateExpansion.Proofs.WorkingText

namespace TemplateExpansion

namespace Text

/-! ## 1. Tracking in pieces -/

/-- Whether an opening brace waits after `t`, which stands behind `before`; `pending` says whether one waits
already. -/
def tracked (pending : Bool) (before t : Text) : Bool := pendingAfter pending (before.endsWith '\\') t

theorem escapedAfter_endsWith (before t : Text) :
    escapedAfter (before.endsWith '\\') t = (before ++ t).endsWith '\\' := by
  rw [endsWith_backslash, endsWith_backslash, escapedAfter_append]

/-- **Where a text is cut makes no difference**, also between a backslash and its brace, and also if a part is
empty. -/
theorem tracked_append (pending : Bool) (before s t : Text) :
    tracked pending before (s ++ t) = tracked (tracked pending before s) (before ++ s) t := by
  rw [tracked, pendingAfter_append, escapedAfter_endsWith]
  rfl

/-! ## 2. Behind the last closing brace -/

/-- The text up to its last closing brace, which it ends with; nothing when there is none. -/
def upToLastClose (t : Text) : Text := (t.reverse.dropWhile (· != '}')).reverse

/-- What stands behind the last closing brace. -/
def behindLastClose (t : Text) : Text := (t.reverse.takeWhile (· != '}')).reverse

theorem upToLastClose_append_behindLastClose (t : Text) : t.upToLastClose ++ t.behindLastClose = t := by
  rw [upToLastClose, behindLastClose, ← List.reverse_append, List.takeWhile_append_dropWhile,
    List.reverse_reverse]

theorem closeBrace_not_mem_behindLastClose (t : Text) : '}' ∉ t.behindLastClose := by
  intro h
  have hall := List.all_eq_true.1 (List.all_takeWhile (p := (· != '}')) (l := t.reverse))
  simpa using hall '}' (List.mem_reverse.1 h)

theorem upToLastClose_cases (t : Text) : t.upToLastClose = [] ∨ ∃ s, t.upToLastClose = s ++ ['}'] := by
  rw [upToLastClose]
  cases h : t.reverse.dropWhile (· != '}') with
  | nil => exact .inl rfl
  | cons c r =>
    have hc := List.head?_dropWhile_not (· != '}') t.reverse
    rw [h, List.head?_cons] at hc
    simp only [bne_eq_false_iff_eq] at hc
    exact .inr ⟨r.reverse, by rw [hc, List.reverse_cons]⟩

/-- Nothing waits after the last closing brace, and the next character is not escaped there. -/
theorem pendingAfter_upToLastClose (t : Text) :
    pendingAfter false false t.upToLastClose = false ∧ escapedAfter false t.upToLastClose = false := by
  rcases upToLastClose_cases t with h | ⟨s, h⟩
  · rw [h]
    exact ⟨rfl, rfl⟩
  · rw [h, pendingAfter_append, escapedAfter_append]
    exact ⟨by simp [pendingAfter], rfl⟩

/-- So what waits is up to the text behind it. -/
theorem tracked_eq_pendingAfter_behindLastClose (t : Text) :
    tracked false [] t = pendingAfter false false t.behindLastClose := by
  obtain ⟨hpending, hescaped⟩ := pendingAfter_upToLastClose t
  calc tracked false [] t
      = pendingAfter false false (t.upToLastClose ++ t.behindLastClose) := by
        rw [upToLastClose_append_behindLastClose]
        rfl
    _ = pendingAfter false false t.behindLastClose := by
        rw [pendingAfter_append, hpending, hescaped]

/-! ## 3. One closing brace more -/

/-- A closing brace behind a text without one is matched exactly if a brace waits there. -/
theorem isSome_first?_append_close {t : Text} (h : '}' ∉ t) :
    (Cut.first? false (t ++ ['}'])).isSome = pendingAfter false false t := by
  obtain ⟨passed, candidate, hscan, -, hcandidate⟩ :=
    Cut.scan_append_of_none (Cut.scan_eq_none_of_not_mem h [] none false) ['}']
  have hpending : pendingAfter false false t = candidate.isSome := hcandidate.symm
  rw [Cut.first?, hscan, hpending]
  cases candidate <;> simp [Cut.scan]

/-- Then the match reaches to the end. -/
theorem after_eq_nil_of_first?_append_close {t : Text} (h : '}' ∉ t) {cut : Cut}
    (hcut : Cut.first? false (t ++ ['}']) = some cut) : cut.after = [] := by
  have hwhole : (cut.before ++ '{' :: cut.inner) ++ '}' :: cut.after = t ++ '}' :: [] := by
    simpa [Cut.whole] using Cut.first?_whole hcut
  rcases List.append_eq_append_iff.1 hwhole with ⟨m, rfl, hm⟩ | ⟨m, hm, hrest⟩
  · cases m with
    | nil => simpa using hm
    | cons c m => simp_all
  · cases m with
    | nil => simpa using hrest.symm
    | cons c m => simp_all

/-- **A brace waits in a text exactly when one closing brace more would be matched** by a search from behind the
last closing brace of the text. -/
theorem tracked_iff_findFrom (t : Text) :
    tracked false [] t = true ↔
      ∃ span, Span.findFrom (t ++ ['}']) t.upToLastClose.byteSize = some span ∧
        span.stop = (t ++ ['}']).byteSize := by
  have hclose := closeBrace_not_mem_behindLastClose t
  have hparts : t ++ ['}'] = t.upToLastClose ++ (t.behindLastClose ++ ['}']) := by
    rw [← List.append_assoc, upToLastClose_append_behindLastClose]
  have hfind : Span.findFrom (t ++ ['}']) t.upToLastClose.byteSize =
      (Cut.first? false (t.behindLastClose ++ ['}'])).map (Span.ofCut t.upToLastClose.byteSize) := by
    rw [hparts, findFrom_append, (pendingAfter_upToLastClose t).2]
  rw [tracked_eq_pendingAfter_behindLastClose, ← isSome_first?_append_close hclose, hfind]
  constructor
  · intro h
    obtain ⟨cut, hcut⟩ := Option.isSome_iff_exists.1 h
    refine ⟨Span.ofCut t.upToLastClose.byteSize cut, by rw [hcut]; rfl, ?_⟩
    have hafter := after_eq_nil_of_first?_append_close hclose hcut
    rw [hparts, ← Cut.first?_whole hcut, Cut.stop_ofCut, Cut.whole_eq, hafter]
    simp
  · rintro ⟨span, hspan, -⟩
    obtain ⟨cut, hcut, -⟩ := Option.map_eq_some_iff.1 hspan
    rw [hcut]
    rfl

end Text

/-! ## 4. Tracking in a pass -/

namespace Sweep

open Text

/-- **A pass tracks what it writes** behind what it has written. -/
theorem pending_write_eq_tracked (s : Sweep) (t : Text) :
    (s.write t).pending = tracked s.pending s.written.reverse t := by
  rw [tracked, endsWith_backslash, ← escapes_eq]
  rfl

/-- **The two walks agree.**  A brace waits in a text exactly when a closing brace put behind it would be matched
by a search from just behind the last closing brace of the text, or from its start when it has none, and that
match ends with the brace put there.  Tracking goes on from part to part wherever a text is cut.  A pass tracks
like this whatever it writes. -/
theorem tracking_agrees :
    (∀ t : Text, tracked false [] t = true ↔
      ∃ span, Span.findFrom (t ++ ['}']) t.upToLastClose.byteSize = some span ∧
        span.stop = (t ++ ['}']).byteSize) ∧
      (∀ (pending : Bool) (before s t : Text),
        tracked pending before (s ++ t) = tracked (tracked pending before s) (before ++ s) t) ∧
      ∀ (s : Sweep) (t : Text), (s.write t).pending = tracked s.pending s.written.reverse t :=
  ⟨tracked_iff_findFrom, tracked_append, pending_write_eq_tracked⟩

end Sweep

end TemplateExpansion
