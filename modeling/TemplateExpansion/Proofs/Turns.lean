/-
# A pass keeps within its text

`Sweep.run` keeps what it has not scanned as a text of its own, and counts bytes beside it.  This file takes the
walk apart into its turns and says where each of them stands in the text that the pass started with: a turn is a
search from `scanFrom`, and what it has not written starts at `cursor` (`StandsIn`).

* `Turn.inBounds`: at every turn the offsets are in order and in the text, and none lies inside a character.
* `scanFrom_lt_next`: every turn moves the search on, also one that passes over an escaped brace, so the turns
  start at different opening braces (`pairwise_start_turns`), and there are no more turns than opening braces that
  open (`length_turns_le`).
* `pairwise_visits`: the spans that are evaluated follow each other and do not overlap, so none is evaluated
  twice.
-/
import Mathlib.Data.Finset.Card
import Mathlib.Data.Finset.Range
import TemplateExpansion.Proofs.Search

namespace TemplateExpansion

open Text

namespace Sweep

/-! ## 1. Turns -/

/-- One turn of the walk: the state that it finds, and the first match in what is still to be scanned. -/
structure Turn where
  state : Sweep
  cut : Cut
  deriving Repr, DecidableEq

namespace Turn

/-- Where the match stands in the text that the pass started with. -/
def span (turn : Turn) : Span := .ofCut turn.state.scanFrom turn.cut

/-- The visit that the turn makes, unless it passes over an escaped brace. -/
def visit? (registry : Registry) (turn : Turn) : Option Visit :=
  if turn.state.skips turn.cut then none else some (turn.state.visitOf registry turn.cut)

/-- The state after the turn. -/
def next (registry : Registry) (turn : Turn) : Sweep :=
  match turn.visit? registry with
  | none => turn.state.skip
  | some v => turn.state.visit turn.cut v

/-- The pass ends with the turn. -/
def endsPass (registry : Registry) (turn : Turn) : Bool := (turn.visit? registry).any Visit.endsPass

theorem length_next_lt {s : Sweep} {cut : Cut} (h : Cut.first? false s.rest = some cut)
    (registry : Registry) : (next registry ⟨s, cut⟩).rest.length < s.rest.length := by
  rw [next]
  split
  · exact length_skip_lt h
  · exact length_visit_lt h _

end Turn

/-- The turns that a pass takes from here on, in order. -/
def turns (registry : Registry) (s : Sweep) : List Turn :=
  match h : Cut.first? false s.rest with
  | none => []
  | some cut =>
    let turn : Turn := ⟨s, cut⟩
    have := Turn.length_next_lt h registry
    turn :: if turn.endsPass registry then [] else turns registry (turn.next registry)
termination_by s.rest.length

variable {registry : Registry}

theorem run_of_some {s : Sweep} {cut : Cut} (h : Cut.first? false s.rest = some cut) :
    run registry s =
      if Turn.endsPass registry ⟨s, cut⟩ then Turn.next registry ⟨s, cut⟩
      else run registry (Turn.next registry ⟨s, cut⟩) := by
  rw [run]
  split
  · rename_i hnone
    exact absurd (h.symm.trans hnone) (by simp)
  · rename_i found hfound
    obtain rfl : cut = found := Option.some.inj (h.symm.trans hfound)
    by_cases hskip : s.skips cut = true
    · simp [Turn.endsPass, Turn.next, Turn.visit?, hskip]
    · simp [Turn.endsPass, Turn.next, Turn.visit?, hskip]

/-- **A run takes its turns**: something said of a state, the turns from there on and the state at the end holds
if it holds where nothing is found, at the last turn, and at every other turn if it holds after that. -/
theorem turns_induction {P : Sweep → List Turn → Sweep → Prop}
    (stop : ∀ s, Cut.first? false s.rest = none → P s [] s)
    (last : ∀ s cut, Cut.first? false s.rest = some cut →
      P s [⟨s, cut⟩] (Turn.next registry ⟨s, cut⟩))
    (more : ∀ s cut turns final, Cut.first? false s.rest = some cut →
      P (Turn.next registry ⟨s, cut⟩) turns final → P s (⟨s, cut⟩ :: turns) final)
    (s : Sweep) : P s (s.turns registry) (run registry s) := by
  fun_induction turns registry s with
  | case1 s h =>
    have hrun : run registry s = s := by
      rw [run]
      split
      · rfl
      · rename_i cut hcut
        exact absurd (h.symm.trans hcut) (by simp)
    rw [hrun]
    exact stop s h
  | case2 s cut h turn _ ih =>
    rw [run_of_some h]
    by_cases hends : turn.endsPass registry = true
    · simpa [turn, hends] using last s cut h
    · simpa [turn, hends] using more s cut _ _ h ih

/-- The last turn leaves the state in which the run ends. -/
theorem run_eq_next_getLast (s : Sweep) :
    run registry s = ((s.turns registry).getLast?.map (Turn.next registry)).getD s := by
  refine turns_induction (P := fun s turns final => final = (turns.getLast?.map (Turn.next registry)).getD s)
    ?_ ?_ ?_ s
  · intro s _
    rfl
  · intro s cut _
    rfl
  · intro s cut turns final _ ih
    rw [ih]
    cases turns with
    | nil => rfl
    | cons turn turns => simp [List.getLast?_cons]

/-- **The visits of a pass are those of its turns.** -/
theorem visits_run_eq (s : Sweep) :
    (run registry s).visits = ((s.turns registry).filterMap (Turn.visit? registry)).reverse ++ s.visits := by
  have hnext (turn : Turn) :
      (turn.next registry).visits = (turn.visit? registry).toList ++ turn.state.visits := by
    rw [Turn.next]
    cases turn.visit? registry <;> rfl
  refine turns_induction
    (P := fun s turns final =>
      final.visits = (turns.filterMap (Turn.visit? registry)).reverse ++ s.visits) ?_ ?_ ?_ s
  · intro s _
    rfl
  · intro s cut _
    rw [hnext]
    cases h : Turn.visit? registry ⟨s, cut⟩ <;> simp [h]
  · intro s cut turns final _ ih
    rw [ih, hnext]
    cases h : Turn.visit? registry ⟨s, cut⟩ <;> simp [h]

theorem visits_sweep_eq (registry : Registry) (ctx : Context) (source : Text) :
    (sweep registry ctx source).visits =
      ((start ctx.beginPass source).turns registry).filterMap (Turn.visit? registry) := by
  have hrun : (run registry (start ctx.beginPass source)).visits = _ := visits_run_eq _
  have hstart : (start ctx.beginPass source).visits = [] := rfl
  rw [sweep, hrun, hstart, List.append_nil, List.reverse_reverse]

/-! ## 2. The search moves on -/

theorem skips_iff {s : Sweep} {cut : Cut} :
    s.skips cut = true ↔ s.held = [] ∧ cut.before = [] ∧ s.escapes = true := by
  simp [skips, and_assoc]

namespace Turn

theorem scanFrom_le_start (turn : Turn) : turn.state.scanFrom ≤ turn.span.start := Nat.le_add_right _ _

theorem start_lt_stop (turn : Turn) : turn.span.start < turn.span.stop := by
  have hstop : turn.span.stop = turn.span.start + (turn.cut.inner.byteSize + 2) := rfl
  omega

theorem span_of_visit? {turn : Turn} {v : Visit} (h : turn.visit? registry = some v) : v.span = turn.span := by
  rw [visit?] at h
  split at h
  · cases h
  · cases h
    rfl

/-- After a visit the search goes on behind the span. -/
theorem scanFrom_next_of_visit? {turn : Turn} {v : Visit} (h : turn.visit? registry = some v) :
    (turn.next registry).scanFrom = turn.span.stop := by
  have hnext : turn.next registry = turn.state.visit turn.cut v := by rw [next, h]
  rw [hnext, ← span_of_visit? h]
  rfl

/-- **Every turn moves the search on** behind the opening brace that it found, also a turn that passes over
it. -/
theorem start_lt_scanFrom_next (turn : Turn) : turn.span.start < (turn.next registry).scanFrom := by
  cases h : turn.visit? registry with
  | some v =>
    rw [scanFrom_next_of_visit? h]
    exact turn.start_lt_stop
  | none =>
    have hskips : turn.state.skips turn.cut = true := by
      rw [visit?] at h
      simpa using h
    obtain ⟨hheld, hbefore, -⟩ := skips_iff.1 hskips
    have hnext : turn.next registry = turn.state.skip := by rw [next, h]
    have hstart : turn.span.start = turn.state.cursor + turn.state.held.byteSize + turn.cut.before.byteSize := rfl
    have hskip : turn.state.skip.scanFrom = turn.state.cursor + byteSize ['{'] := rfl
    rw [hnext, hskip, hstart, hheld, hbefore]
    simp

theorem scanFrom_lt_next (turn : Turn) : turn.state.scanFrom < (turn.next registry).scanFrom :=
  turn.scanFrom_le_start.trans_lt turn.start_lt_scanFrom_next

end Turn

/-- **The search never goes back**: each turn starts its search no earlier than where the turns before it left
off. -/
theorem pairwise_scanFrom_turns (s : Sweep) :
    (∀ turn ∈ s.turns registry, s.scanFrom ≤ turn.state.scanFrom) ∧
      (s.turns registry).Pairwise fun a b => (a.next registry).scanFrom ≤ b.state.scanFrom := by
  refine turns_induction
    (P := fun s turns _ => (∀ turn ∈ turns, s.scanFrom ≤ turn.state.scanFrom) ∧
      turns.Pairwise fun a b => (a.next registry).scanFrom ≤ b.state.scanFrom) ?_ ?_ ?_ s
  · intro s _
    simp
  · intro s cut _
    simp
  · rintro s cut turns _ _ ⟨hle, hpairwise⟩
    have hmoved : s.scanFrom ≤ (Turn.next registry ⟨s, cut⟩).scanFrom :=
      (Turn.scanFrom_lt_next ⟨s, cut⟩).le
    refine ⟨?_, List.pairwise_cons.2 ⟨hle, hpairwise⟩⟩
    intro turn hturn
    rcases List.mem_cons.1 hturn with rfl | hturn
    · exact le_rfl
    · exact hmoved.trans (hle turn hturn)

/-- So the turns find different opening braces, one after the other. -/
theorem pairwise_start_turns (s : Sweep) :
    (s.turns registry).Pairwise fun a b => a.span.start < b.span.start :=
  (pairwise_scanFrom_turns s).2.imp fun {a b} h =>
    (a.start_lt_scanFrom_next).trans_le (h.trans b.scanFrom_le_start)

/-- And the spans that are evaluated follow each other. -/
theorem pairwise_visits (s : Sweep) :
    ((s.turns registry).filterMap (Turn.visit? registry)).Pairwise fun v w => v.span.stop ≤ w.span.start := by
  rw [List.pairwise_filterMap]
  refine (pairwise_scanFrom_turns s).2.imp ?_
  intro a b h v hv w hw
  rw [Turn.span_of_visit? hv, Turn.span_of_visit? hw, ← Turn.scanFrom_next_of_visit? hv]
  exact h.trans b.scanFrom_le_start

/-- So **no span is evaluated twice**. -/
theorem nodup_spans (s : Sweep) :
    (((s.turns registry).filterMap (Turn.visit? registry)).map Visit.span).Nodup := by
  refine List.pairwise_map.2 (List.pairwise_filterMap.2 ((pairwise_start_turns s).imp ?_))
  intro a b h v hv w hw heq
  rw [Turn.span_of_visit? hv, Turn.span_of_visit? hw] at heq
  exact absurd (congrArg Span.start heq) (ne_of_lt h)

/-! ## 3. Where a state stands -/

/-- The state stands in a source: what it has not written is the source from the cursor on, and no backslash
stands right before what it has not scanned. -/
def StandsIn (source : Text) (s : Sweep) : Prop :=
  ∃ passed, source = passed ++ (s.held ++ s.rest) ∧ passed.byteSize = s.cursor ∧
    escapedAfter false (passed ++ s.held) = false

theorem scanFrom_eq {s : Sweep} {passed : Text} (h : passed.byteSize = s.cursor) :
    s.scanFrom = (passed ++ s.held).byteSize := by
  rw [scanFrom, byteSize_append, h]

theorem standsIn_start (ctx : Context) (source : Text) : StandsIn source (start ctx source) :=
  ⟨[], rfl, rfl, rfl⟩

theorem StandsIn.next {source : Text} {s : Sweep} (hs : StandsIn source s) {cut : Cut}
    (h : Cut.first? false s.rest = some cut) : StandsIn source (Turn.next registry ⟨s, cut⟩) := by
  obtain ⟨passed, hsource, hcursor, -⟩ := hs
  have hrest := Cut.first?_whole h
  cases hvisit : Turn.visit? registry ⟨s, cut⟩ with
  | none =>
    have hskips : s.skips cut = true := by
      rw [Turn.visit?] at hvisit
      simpa using hvisit
    obtain ⟨hheld, hbefore, -⟩ := skips_iff.1 hskips
    have hnext : Turn.next registry ⟨s, cut⟩ = s.skip := by rw [Turn.next, hvisit]
    rw [hnext]
    refine ⟨passed, ?_, hcursor, ?_⟩
    · rw [hsource, hheld, ← hrest, Cut.whole, hbefore]
      simp [skip, ← hrest, Cut.whole, hbefore]
    · rw [escapedAfter_append]
      rfl
  | some v =>
    have hnext : Turn.next registry ⟨s, cut⟩ = s.visit cut v := by rw [Turn.next, hvisit]
    have hspan : v.span = Span.ofCut (passed ++ s.held).byteSize cut := by
      rw [← scanFrom_eq hcursor]
      exact Turn.span_of_visit? hvisit
    rw [hnext]
    refine ⟨passed ++ s.held ++ cut.before ++ Cut.braced cut.inner, ?_, ?_, ?_⟩
    · rw [hsource, ← hrest, Cut.whole_eq]
      simp [visit]
    · rw [← Cut.stop_ofCut, ← hspan]
      rfl
    · -- A span ends with its closing brace.
      simp [visit, Cut.braced, escapedAfter_append]

/-- **Every turn stands in the source** and finds its match there, and so does the state at the end. -/
theorem StandsIn.turns {source : Text} {s : Sweep} (hs : StandsIn source s) :
    (∀ turn ∈ s.turns registry, StandsIn source turn.state ∧
      Cut.first? false turn.state.rest = some turn.cut) ∧ StandsIn source (run registry s) := by
  revert hs
  refine turns_induction
    (P := fun s turns final => StandsIn source s →
      (∀ turn ∈ turns, StandsIn source turn.state ∧ Cut.first? false turn.state.rest = some turn.cut) ∧
        StandsIn source final) ?_ ?_ ?_ s
  · intro s _ hs
    exact ⟨by simp, hs⟩
  · intro s cut h hs
    refine ⟨?_, hs.next h⟩
    intro turn hturn
    obtain rfl := List.mem_singleton.1 hturn
    exact ⟨hs, h⟩
  · intro s cut turns final h ih hs
    obtain ⟨hturns, hfinal⟩ := ih (hs.next h)
    refine ⟨?_, hfinal⟩
    intro turn hturn
    rcases List.mem_cons.1 hturn with rfl | hturn
    · exact ⟨hs, h⟩
    · exact hturns turn hturn

theorem StandsIn.startingAt_cursor {source : Text} {s : Sweep} (hs : StandsIn source s) :
    startingAt s.cursor source = s.held ++ s.rest := by
  obtain ⟨passed, rfl, hcursor, -⟩ := hs
  rw [← hcursor, startingAt_byteSize]

theorem StandsIn.isBoundary_cursor {source : Text} {s : Sweep} (hs : StandsIn source s) :
    source.IsBoundary s.cursor := by
  obtain ⟨passed, hsource, hcursor, -⟩ := hs
  exact ⟨passed, _, hsource, hcursor⟩

/-! ## 4. Bounds -/

/-- All offsets of a turn are in order and in the source, none of them lies inside a character, and the turn moves
the search on. -/
structure Turn.InBounds (registry : Registry) (source : Text) (turn : Turn) : Prop where
  found : Span.findFrom source turn.state.scanFrom = some turn.span
  unwritten : startingAt turn.state.cursor source = turn.state.held ++ turn.state.rest
  cursor_le_scanFrom : turn.state.cursor ≤ turn.state.scanFrom
  scanFrom_le_start : turn.state.scanFrom ≤ turn.span.start
  start_lt_stop : turn.span.start < turn.span.stop
  stop_le_byteSize : turn.span.stop ≤ source.byteSize
  cursor_isBoundary : source.IsBoundary turn.state.cursor
  start_isBoundary : source.IsBoundary turn.span.start
  stop_isBoundary : source.IsBoundary turn.span.stop
  scanFrom_lt_next : turn.state.scanFrom < (turn.next registry).scanFrom

section

variable {source : Text} {turn : Turn} (hs : StandsIn source turn.state)
  (h : Cut.first? false turn.state.rest = some turn.cut)

include hs h

/-- The match of a turn is a part of the source. -/
theorem Turn.exists_source_eq :
    ∃ s, source = s ++ turn.cut.whole ∧ s.byteSize = turn.state.scanFrom ∧ escapedAfter false s = false := by
  obtain ⟨passed, hsource, hcursor, hescaped⟩ := hs
  refine ⟨passed ++ turn.state.held, ?_, (scanFrom_eq hcursor).symm, hescaped⟩
  rw [hsource, Cut.first?_whole h, List.append_assoc]

theorem Turn.inBounds : turn.InBounds registry source := by
  obtain ⟨s, hsource, hsize, hescaped⟩ := Turn.exists_source_eq hs h
  have hspan : turn.span = Span.ofCut s.byteSize turn.cut := by rw [hsize]; rfl
  have hstop : source.IsBoundary turn.span.stop := hspan ▸ Span.isBoundary_stop hsource
  refine ⟨?_, hs.startingAt_cursor, Nat.le_add_right _ _, turn.scanFrom_le_start, turn.start_lt_stop, hstop.le,
    hs.isBoundary_cursor, hspan ▸ Span.isBoundary_start hsource, hstop, turn.scanFrom_lt_next⟩
  have hcut : Cut.first? false turn.cut.whole = some turn.cut := by rw [Cut.first?_whole h, h]
  rw [← hsize, hsource, findFrom_append, hescaped, hcut, hspan]
  rfl

/-- A turn finds an opening brace that opens. -/
theorem Turn.opensAt_start : Span.OpensAt (Utf8.encode source) turn.span.start := by
  obtain ⟨s, hsource, hsize, hescaped⟩ := Turn.exists_source_eq hs h
  obtain ⟨-, -, hopens, -⟩ := Cut.first?_eq_some_iff.1 h
  refine Span.opensAt_iff.2 ⟨s ++ turn.cut.before, turn.cut.inner ++ '}' :: turn.cut.after, ?_, ?_, ?_⟩
  · rw [hsource, Cut.whole, List.append_assoc]
  · rw [byteSize_append, hsize]
    rfl
  · rw [escapedAfter_append, hescaped, hopens]

end

instance (bytes : List UInt8) : DecidablePred (Span.OpensAt bytes) := fun _ =>
  inferInstanceAs (Decidable (_ ∧ ¬ (_ ∧ _)))

/-- The places of the opening braces that open, among the bytes of a text. -/
def openings (source : Text) : Finset Nat :=
  (Finset.range source.byteSize).filter (Span.OpensAt (Utf8.encode source))

/-- **There are no more turns than opening braces that open.** -/
theorem length_turns_le {source : Text} {s : Sweep} (hs : StandsIn source s) :
    (s.turns registry).length ≤ (openings source).card := by
  have hnodup : ((s.turns registry).map fun turn => turn.span.start).Nodup :=
    List.pairwise_map.2 ((pairwise_start_turns s).imp ne_of_lt)
  have hsubset : ((s.turns registry).map fun turn => turn.span.start).toFinset ⊆ openings source := by
    intro start hstart
    obtain ⟨turn, hturn, rfl⟩ := List.mem_map.1 (List.mem_toFinset.1 hstart)
    obtain ⟨hstands, hfound⟩ := hs.turns.1 turn hturn
    have hbounds : turn.InBounds registry source := Turn.inBounds hstands hfound
    refine Finset.mem_filter.2 ⟨Finset.mem_range.2 ?_, Turn.opensAt_start hstands hfound⟩
    exact hbounds.start_lt_stop.trans_le hbounds.stop_le_byteSize
  calc (s.turns registry).length
      = ((s.turns registry).map fun turn => turn.span.start).toFinset.card := by
        rw [List.toFinset_card_of_nodup hnodup, List.length_map]
    _ ≤ (openings source).card := Finset.card_le_card hsubset

/-! ## 5. A whole pass -/

/-- **A pass keeps within its text and comes to an end.**  For every registry, context and text, whatever the
evaluations yield:

* at every turn the pass searches the text from `scanFrom` on, its offsets are in order and in the text, none of them
  lies inside a character, and the search moves on;
* there are no more turns than opening braces that open in the text;
* the pass ends in the state after its last turn, and writes what stands behind the cursor then, which is no place
  inside a character either;
* the spans that are evaluated follow each other in the text, so none is evaluated twice. -/
theorem pass_in_bounds (registry : Registry) (ctx : Context) (source : Text) :
    let first := start ctx.beginPass source
    let turns := first.turns registry
    let final := ((turns.getLast?.map (Turn.next registry)).getD first)
    let swept := sweep registry ctx source
    (∀ turn ∈ turns, turn.InBounds registry source) ∧
      (turns.Pairwise fun a b => a.state.scanFrom < b.state.scanFrom) ∧
      turns.length ≤ (openings source).card ∧
      source.IsBoundary final.cursor ∧ swept.text = final.written.reverse ++ startingAt final.cursor source ∧
      swept.visits = turns.filterMap (Turn.visit? registry) ∧
      (swept.visits.Pairwise fun v w => v.span.stop ≤ w.span.start) ∧ (swept.visits.map Visit.span).Nodup := by
  intro first turns final swept
  have hstands : StandsIn source first := standsIn_start ctx.beginPass source
  have hfinal : final = run registry first := (run_eq_next_getLast first).symm
  have hturns : ∀ turn ∈ turns, StandsIn source turn.state ∧ Cut.first? false turn.state.rest = some turn.cut :=
    hstands.turns.1
  have hend : StandsIn source final := hfinal ▸ hstands.turns.2
  have hbounds : ∀ turn ∈ turns, turn.InBounds registry source := fun turn hturn =>
    Turn.inBounds (hturns turn hturn).1 (hturns turn hturn).2
  have hvisits : swept.visits = turns.filterMap (Turn.visit? registry) := visits_sweep_eq registry ctx source
  refine ⟨hbounds, ?_, length_turns_le hstands, hend.isBoundary_cursor, ?_, hvisits,
    hvisits ▸ pairwise_visits first, hvisits ▸ nodup_spans first⟩
  · exact (pairwise_scanFrom_turns first).2.imp fun {a b} h => a.scanFrom_lt_next.trans_le h
  · rw [hend.startingAt_cursor, hfinal, ← text_eq]
    rfl

end Sweep

end TemplateExpansion
