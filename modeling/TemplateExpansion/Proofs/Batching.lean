/-
# Batching: many substitutions in one pass

A pass replaces occurrence after occurrence, and when it ends it is started again from the beginning
of the text.  This file follows such runs step by step with a `Reduction`, which never looks back.  A
pass has two parts.

* Behind the beginning of the text stand the occurrences that the reduction has passed.  They are
  met again, they are not executed again, and since their rejections are known by now, nothing is
  logged (`Rechecks`).
* From there on every evaluation of the pass is a step of the reduction (`Shadows`).  Between the
  passed occurrences and the boundary lies a gap, which is flat: a search that begins before the gap
  finds what a search from the boundary finds.

The second part needs only that a pass ends when a brace waits.  So two policies that do end it there
lead to the same text, stored values, log and calls, since a reduction ends in one state only
(`builtins_run_eq_always`).

It also tells when a pass leaves something to do: if no call was made where the policy ends the pass, the
reduction is at its end (`Course.Tracks.next`), and a pass from there on changes nothing
(`Course.Tracks.converged_next`).
-/
import TemplateExpansion.Proofs.Reduction
import TemplateExpansion.Proofs.Convergence
import TemplateExpansion.Proofs.Replacements

namespace TemplateExpansion

open Text

/-! ## 1. Evaluations in contexts that agree -/

/-- Two evaluations of one expression that differ in no more than what was counted in earlier
passes. -/
structure Occurrence.Alike (o o' : Occurrence) : Prop where
  expression : o.expression = o'.expression
  text : o.evaluation.text = o'.evaluation.text
  outcome : o.evaluation.outcome = o'.evaluation.outcome
  context : o.evaluation.context.Agrees o'.evaluation.context
  caughtUp : o.evaluation.context.CaughtUp
  current : ∀ q, (o.evaluation.context.rejections.find q).current =
    (o'.evaluation.context.rejections.find q).current

namespace Occurrence

theorem alike_of {registry : Registry} (h : registry.Tame) {a b : Context} (hab : a.Agrees b)
    (hs : Store.All Inert b.values) (ha : a.CaughtUp) (hb : b.CaughtUp)
    (hq : ∀ q, (a.rejections.find q).current = (b.rejections.find q).current) {inner : Text}
    (hi : Inert inner) : (Occurrence.of registry a inner).Alike (Occurrence.of registry b inner) := by
  have he := Expression.inert_operands hi
  have hsa : Store.All Inert a.values := hab.values ▸ hs
  refine ⟨rfl, h.reads.text_eq _ hab.values, h.reads.outcome_eq _ a b,
    h.agrees_evaluate he hab hsa ha hb, fun q => ?_, fun q => ?_⟩
  · obtain ⟨h1, h2⟩ := h.find_evaluate he hsa q
    have hle := ha q
    rw [Occurrence.of, h1, h2]
    omega
  · have h2 := (h.find_evaluate he hsa q).2
    have h3 := (h.find_evaluate he hs q).2
    rw [Occurrence.of, Occurrence.of, h2, h3, hq q, h.reads.outcome_eq _ a b]

theorem Alike.isExecuted {o o' : Occurrence} (h : o.Alike o') : o.isExecuted = o'.isExecuted := by
  rw [Occurrence.isExecuted, h.outcome, Occurrence.isExecuted]

theorem Alike.call {o o' : Occurrence} (h : o.Alike o') : o.call = o'.call := by
  rw [Occurrence.call, h.expression, h.text, h.context.values, h.context.errors, Occurrence.call]

end Occurrence

/-! ## 2. Checking again -/

namespace WorkingText

/-- The boundary lies between passed occurrences that have been checked again and passed occurrences
that have not.  In earlier passes the rejections of all of them were counted, in this pass those of the
first ones. -/
structure Rechecks (w : WorkingText) (ctx : Context) (done todo : List Passed) (rest : Text) :
    Prop where
  text : w.text = Passed.textOf done ++ (Passed.textOf todo ++ rest)
  boundary : w.boundary = (Passed.textOf done).byteSize
  context : w.context.Agrees ctx
  earlier : ∀ q, (w.context.rejections.find q).earlier = (Passed.rejections (done ++ todo)).count q
  current : ∀ q, (w.context.rejections.find q).current = (Passed.rejections done).count q

section

variable {registry : Registry} (h : registry.Tame) {w : WorkingText} {ctx : Context}
  {done todo : List Passed} {rest : Text} (hs : Store.All Inert ctx.values)

include h hs

/-- One passed occurrence is checked again, and nothing comes of it. -/
theorem Rechecks.step {p : Passed} (hw : w.Rechecks ctx done (p :: todo) rest)
    (hp : p.Stuck registry) (ends : Text → Bool) :
    ∃ w', run ends registry w = run ends registry w' ∧
      w'.Rechecks ctx (done ++ [p]) todo rest ∧ calls w'.evaluated = calls w.evaluated ∧
        refused w'.evaluated = refused w.evaluated ∧
        w'.replacements ends registry <:+ w.replacements ends registry := by
  have hfirst : Cut.first? (escapedAfter false (Passed.textOf done))
      (Passed.textOf (p :: todo) ++ rest) = some ⟨p.before, p.inner, Passed.textOf todo ++ rest⟩ := by
    rw [Passed.escapedAfter_textOf, Passed.textOf_cons, List.append_assoc]
    exact hp.first?_append _
  have hx : (Occurrence.of registry w.context p.inner).isExecuted = false := by
    rw [Occurrence.not_isExecuted_of, hp.outcome]
    exact hp.not_executed
  have htext := Occurrence.text_of hx
  have he := Expression.inert_operands hp.inert
  have hsw : Store.All Inert w.context.values := hw.context.values ▸ hs
  have hfind := h.find_evaluate he hsw
  rw [hp.outcome, Expression.source_parse] at hfind
  -- The rejection is among those of `p :: todo`, so it was counted once more than it is by now.
  have hknown : ∀ q ∈ (evaluate registry (.parse p.inner) w.context).outcome.rejection?
      (Expression.parse p.inner).source,
      (w.context.rejections.find q).current < (w.context.rejections.find q).earlier := by
    intro q hq
    rw [hp.outcome, Expression.source_parse] at hq
    have hcount : (Passed.rejections (done ++ p :: todo)).count q =
        (Passed.rejections done).count q + (Passed.rejections (p :: todo)).count q := by
      rw [Passed.rejections, List.filterMap_append, List.count_append]
      rfl
    have hpos : 0 < (Passed.rejections (p :: todo)).count q :=
      List.count_pos_iff.2 (List.mem_filterMap.2 ⟨p, List.mem_cons_self, hq⟩)
    rw [hw.earlier, hw.current, hcount]
    omega
  refine ⟨_, (run_of_some hw.text hw.boundary hfirst rfl).trans
    (if_neg fun hc => hc.1 htext), ⟨?_, ?_, ?_, fun q => ?_, fun q => ?_⟩, ?_, ?_, ?_⟩
  · simp [spliced, htext, Passed.textOf_concat]
  · simp [spliced, htext, Passed.textOf_concat]
  · refine (agrees_evaluate_self ?_ hknown).trans hw.context
    rw [hp.outcome]
    exact hp.not_executed
  · refine ((hfind q).1.trans (hw.earlier q)).trans ?_
    rw [List.append_assoc, List.singleton_append]
  · refine (hfind q).2.trans ?_
    rw [hw.current, Passed.count_rejections_concat]
    rfl
  · rw [spliced, calls_append, calls_singleton_of_not hx, List.append_nil]
  · rw [spliced, refused_append, refused_singleton, Occurrence.refusal?_eq_none hknown]
    exact List.append_nil _
  · rw [replacements_of_some hw.text hw.boundary hfirst rfl, if_neg fun hc => hc.1 htext]
    exact List.suffix_cons _ _

/-- All passed occurrences are checked again. -/
theorem Rechecks.all (hw : w.Rechecks ctx done todo rest) (hp : ∀ p ∈ todo, p.Stuck registry)
    (ends : Text → Bool) :
    ∃ w', run ends registry w = run ends registry w' ∧
      w'.Rechecks ctx (done ++ todo) [] rest ∧ calls w'.evaluated = calls w.evaluated ∧
        refused w'.evaluated = refused w.evaluated ∧
        w'.replacements ends registry <:+ w.replacements ends registry := by
  induction todo generalizing w done with
  | nil => exact ⟨w, rfl, by simpa using hw, rfl, rfl, List.suffix_rfl⟩
  | cons p todo ih =>
    obtain ⟨w1, h1, h2, h3, h4, h5⟩ := hw.step h hs (hp p List.mem_cons_self) ends
    obtain ⟨w2, h1', h2', h3', h4', h5'⟩ := ih h2 fun q hq => hp q (List.mem_cons_of_mem _ hq)
    exact ⟨w2, h1.trans h1', by simpa using h2', h3'.trans h3, h4'.trans h4, h5'.trans h5⟩

end

end WorkingText

/-! ## 3. Keeping step -/

/-- A text, a context and evaluated occurrences as they are in a reduction.  The reduction counts and
logs rejections once and for all, passes count them over again. -/
structure Reduction.Matches (r : Reduction) (t : Text) (ctx : Context) (os : List Occurrence) : Prop where
  text : t = r.text
  context : ctx.Agrees r.context
  counts : ∀ q, max (ctx.rejections.find q).earlier (ctx.rejections.find q).current =
    (r.context.rejections.find q).current
  calls : TemplateExpansion.calls os = r.calls
  refused : TemplateExpansion.refused os = Passed.entries r.passed

namespace WorkingText

/-- The policy ends a pass wherever a brace waits. -/
def Heeds (ends : Text → Bool) : Prop := ∀ t, HasOpen t → ends t = true

theorem heeds_waits : Heeds waits := fun _ h => decide_eq_true h

theorem heeds_always : Heeds Course.always := fun _ _ => rfl

/-- The pass stands where the reduction does, but for a flat gap: the reduction searches from before
the gap, the pass from behind it.  `before` are the occurrences of earlier passes. -/
structure Shadows (w : WorkingText) (before : List Occurrence) (r : Reduction) (gap rest : Text) :
    Prop where
  text : w.text = (Passed.textOf r.passed ++ gap) ++ rest
  boundary : w.boundary = byteSize (Passed.textOf r.passed ++ gap)
  rest : r.rest = gap ++ rest
  flat : Flat false gap
  context : w.context.Agrees r.context
  caughtUp : w.context.CaughtUp
  current : ∀ q, (w.context.rejections.find q).current = (r.context.rejections.find q).current
  calls : calls (before ++ w.evaluated) = r.calls
  refused : refused (before ++ w.evaluated) = Passed.entries r.passed

namespace Shadows

variable {registry : Registry} {w : WorkingText} {before : List Occurrence} {r : Reduction}
  {gap rest : Text}

theorem toMatches (hw : w.Shadows before r gap rest) :
    r.Matches w.text w.context (before ++ w.evaluated) := by
  refine ⟨?_, hw.context, fun q => ?_, hw.calls, hw.refused⟩
  · rw [hw.text, Reduction.text, hw.rest, List.append_assoc]
  · rw [← hw.current q]
    exact Nat.max_eq_right (hw.caughtUp q)

/-- **The two searches find the same match**, since the gap is flat. -/
theorem first?_rest (hw : w.Shadows before r gap rest) :
    Cut.first? false r.rest =
      (Cut.first? (escapedAfter false (Passed.textOf r.passed ++ gap)) rest).map (Cut.push gap) := by
  rw [hw.rest, Cut.first?_append_of_flat hw.flat, escapedAfter_append, Passed.escapedAfter_textOf]

theorem alike (hw : w.Shadows before r gap rest) (h : registry.Tame) (hs : r.Sound registry)
    {inner : Text} (hi : Inert inner) :
    (Occurrence.of registry w.context inner).Alike (Occurrence.of registry r.context inner) :=
  Occurrence.alike_of h hw.context hs.values hw.caughtUp hs.caughtUp hw.current hi

variable {cut : Cut} {o o' : Occurrence}

/-- An occurrence that is not executed: both go on behind it, and if it is rejected its entry is
logged. -/
theorem pass (hw : w.Shadows before r gap rest) (ho : o.Alike o') (hx : o.isExecuted = false)
    (htext : o.evaluation.text = Cut.braced cut.inner)
    (hentry : o.refusal? = o.evaluation.outcome.entry? (Expression.parse cut.inner).opcode) :
    (w.spliced (Passed.textOf r.passed ++ gap) cut o).Shadows before (r.pass (cut.push gap) o') []
      cut.after := by
  have hpassed : Passed.textOf (r.pass (cut.push gap) o').passed =
      Passed.textOf r.passed ++ gap ++ cut.before ++ o.evaluation.text := by
    simp [Reduction.pass, Passed.textOf_concat, htext]
  refine ⟨?_, ?_, rfl, flat_nil _, ho.context, ho.caughtUp, ho.current, ?_, ?_⟩
  · rw [hpassed, List.append_nil]
    rfl
  · rw [hpassed, List.append_nil]
    rfl
  · rw [spliced, ← List.append_assoc, calls_append, calls_singleton_of_not hx, List.append_nil]
    exact hw.calls
  · rw [spliced, ← List.append_assoc, refused_append, refused_singleton, hw.refused, hentry,
      ho.outcome]
    simp only [Reduction.pass, Passed.entries_concat]
    rfl

/-- An occurrence that is executed: the same text takes its place. -/
theorem matches_execute (hw : w.Shadows before r gap rest) (ho : o.Alike o')
    (hx : o.isExecuted = true) :
    (r.execute (cut.push gap) o').Matches (w.spliced (Passed.textOf r.passed ++ gap) cut o).text
      (w.spliced (Passed.textOf r.passed ++ gap) cut o).context
      (before ++ (w.spliced (Passed.textOf r.passed ++ gap) cut o).evaluated) := by
  refine ⟨?_, ho.context, fun q => ?_, ?_, ?_⟩
  · simp [spliced, Reduction.execute, Reduction.text, ho.text]
  · exact (Nat.max_eq_right (ho.caughtUp q)).trans (ho.current q)
  · rw [spliced, ← List.append_assoc, calls_append, calls_singleton_of_executed hx, hw.calls, ho.call]
    rfl
  · rw [spliced, ← List.append_assoc, refused_append, refused_singleton,
      Occurrence.refusal?_of_executed hx, hw.refused]
    exact List.append_nil _

/-- Where no brace waits before the occurrence, the pass goes on behind the outcome: what lies between
the passed occurrences and the boundary is flat again. -/
theorem execute (hw : w.Shadows before r gap rest) (ho : o.Alike o') (hx : o.isExecuted = true)
    (hi : Inert o.evaluation.text) (hbefore : Cut.first? false (gap ++ cut.before) = none)
    (hopen : ¬ HasOpen (Passed.textOf r.passed ++ gap ++ cut.before)) :
    (w.spliced (Passed.textOf r.passed ++ gap) cut o).Shadows before (r.execute (cut.push gap) o')
      (gap ++ cut.before ++ o.evaluation.text) cut.after := by
  have hpending : pendingAfter false false (gap ++ cut.before) = false := by
    rw [← pendingAfter_eq_true_iff_hasOpen, Bool.not_eq_true, List.append_assoc,
      pendingAfter_append, Passed.pendingAfter_textOf, Passed.escapedAfter_textOf] at hopen
    exact hopen
  have hmatches : (r.execute (cut.push gap) o').Matches _ _ _ := hw.matches_execute ho hx
  refine ⟨?_, ?_, ?_, ?_, ho.context, ho.caughtUp, ho.current, hmatches.calls, hmatches.refused⟩
  · simp [spliced, Reduction.execute]
  · simp [spliced, Reduction.execute]
  · simp [Reduction.execute, ho.text]
  · exact flat_append.2 ⟨Cut.flat_of_first?_eq_none hbefore hpending, hi.1.escaped⟩

/-- **A pass is steps of the reduction**, wherever one stands where the other does, under any policy
that ends a pass where a brace waits.  If no call is made where the policy ends the pass, the reduction
is at its end. -/
theorem run (hw : w.Shadows before r gap rest) (h : registry.Tame) (hs : r.Sound registry)
    {ends : Text → Bool} (hends : Heeds ends) :
    ∃ r', Reduction.Reaches registry r r' ∧ r'.Sound registry ∧
      r'.Matches (w.run ends registry).text (w.run ends registry).context
        (before ++ (w.run ends registry).evaluated) ∧
      (r'.next? registry = none ∨
        ∃ x ∈ w.replacements ends registry, x.isCallWhere ends = true) := by
  induction hn : rest.length using Nat.strongRecOn generalizing w r gap rest with
  | ind n ih =>
    have hrest := hw.first?_rest
    cases hcut : Cut.first? (escapedAfter false (Passed.textOf r.passed ++ gap)) rest with
    | none =>
      rw [run_of_none hw.text hw.boundary hcut]
      refine ⟨r, .refl r, hs, hw.toMatches, .inl (Reduction.next?_eq_none.2 ?_)⟩
      rw [hrest, hcut, Option.map_none]
    | some cut =>
      rw [hcut, Option.map_some] at hrest
      have hlt : cut.after.length < n := hn ▸ Cut.length_after_lt hcut
      obtain ⟨-, hbefore, -, hi⟩ := Cut.first?_eq_some_iff.1 hrest
      have ho : (Occurrence.of registry w.context cut.inner).Alike
          (Occurrence.of registry r.context cut.inner) := hw.alike h hs hi
      rw [run_of_some hw.text hw.boundary hcut rfl]
      cases hx : (Occurrence.of registry w.context cut.inner).isExecuted with
      | false =>
        -- Nothing changed, so the pass goes on whatever the policy says.
        have htext := Occurrence.text_of hx
        have hx' := ho.isExecuted.symm.trans hx
        have hnext := Reduction.next?_of_not hrest hx'
        have hentry := Occurrence.refusal?_of_caughtUp registry hw.caughtUp cut.inner
        rw [if_neg fun hc => hc.1 htext, replacements_of_some hw.text hw.boundary hcut rfl,
          if_neg fun hc => hc.1 htext]
        obtain ⟨r', h1, h2, h3, h4⟩ :=
          ih _ hlt (hw.pass ho hx htext hentry) (hs.pass h hrest hx') rfl
        refine ⟨r', .head hnext h1, h2, h3, h4.imp_right ?_⟩
        rintro ⟨x, hx, hcall⟩
        exact ⟨x, List.mem_cons_of_mem _ hx, hcall⟩
      | true =>
        have hx' := ho.isExecuted.symm.trans hx
        have hs' := hs.execute h hrest hx'
        have hsw : Store.All Inert w.context.values := hw.context.values ▸ hs.values
        have hit := (Occurrence.keeps_of closesNothing_inert h.preserves hsw hi).text hx
        have hne : (Occurrence.of registry w.context cut.inner).evaluation.text ≠
            Cut.braced cut.inner := fun hc => hit.2 (by simp [hc, Cut.braced])
        have hnext := Reduction.next?_of_executed hrest hx'
        cases he : ends (Passed.textOf r.passed ++ gap ++ cut.before) with
        | true =>
          rw [if_pos ⟨hne, rfl⟩, replacements_of_some hw.text hw.boundary hcut rfl]
          refine ⟨_, .head hnext (.refl _), hs', hw.matches_execute ho hx,
            .inr ⟨_, List.mem_cons_self, ?_⟩⟩
          rw [Replacement.isCallWhere, hx, he]
          rfl
        | false =>
          have hopen : ¬ HasOpen (Passed.textOf r.passed ++ gap ++ cut.before) :=
            fun hopen => Bool.false_ne_true (he.symm.trans (hends _ hopen))
          rw [if_neg (by simp), replacements_of_some hw.text hw.boundary hcut rfl, he, if_neg (by simp)]
          obtain ⟨r', h1, h2, h3, h4⟩ := ih _ hlt (hw.execute ho hx hit hbefore hopen) hs' rfl
          refine ⟨r', .head hnext h1, h2, h3, h4.imp_right ?_⟩
          rintro ⟨x, hx, hcall⟩
          exact ⟨x, List.mem_cons_of_mem _ hx, hcall⟩

end Shadows

/-- Once all passed occurrences are checked again, the pass stands where the reduction does. -/
theorem Rechecks.shadows {registry : Registry} {w : WorkingText} {r : Reduction}
    (hw : w.Rechecks r.context r.passed [] r.rest) (hs : r.Sound registry) {before : List Occurrence}
    (hc : TemplateExpansion.calls (before ++ w.evaluated) = r.calls)
    (hr : TemplateExpansion.refused (before ++ w.evaluated) = Passed.entries r.passed) :
    w.Shadows before r [] r.rest := by
  refine ⟨?_, ?_, rfl, flat_nil _, hw.context, fun q => ?_, fun q => ?_, hc, hr⟩
  · simpa using hw.text
  · simpa using hw.boundary
  · exact Nat.le_of_eq (by rw [hw.earlier, hw.current, List.append_nil])
  · rw [hw.current, hs.current]

end WorkingText

/-! ## 4. Runs of passes -/

namespace Course

/-- A run of passes has come as far as a reduction, and if it is over, so is the reduction. -/
structure Tracks (registry : Registry) (c : Course) (r : Reduction) : Prop where
  matched : r.Matches c.working c.context c.evaluated
  sound : r.Sound registry
  ended : c.converged = true → r.next? registry = none

theorem tracks_start (registry : Registry) (args : List Text) {values : Store}
    (hv : Store.All Inert values) (input : Text) :
    (start (.storing args values) input).Tracks registry (.start (.storing args values) input) where
  matched := ⟨rfl, .refl _, fun _ => rfl, rfl, rfl⟩
  sound := Reduction.sound_start_storing args hv input
  ended := fun hc => absurd hc (by simp [start, Progress.start])

section

variable {registry : Registry} (h : registry.Tame) {c : Course} {r : Reduction}

include h

/-- Once a pass has checked again what the reduction has passed, it stands where the reduction does. -/
theorem Tracks.shadows (hc : c.Tracks registry r) (ends : Text → Bool) :
    ∃ w : WorkingText, c.passOf ends registry = w.run ends registry ∧ w.Shadows c.evaluated r [] r.rest ∧
      w.replacements ends registry <:+ c.replacementsOf ends registry := by
  obtain ⟨hm, hs, -⟩ := hc
  have hstart : (WorkingText.start c.context.beginPass c.working).Rechecks r.context [] r.passed
      r.rest := by
    refine ⟨hm.text, rfl, hm.context.beginPass, fun q => ?_, fun q => ?_⟩
    · rw [List.nil_append, ← hs.current, ← hm.counts]
      exact congrArg Tally.earlier (Ledger.find_beginPass _ q)
    · exact congrArg Tally.current (Ledger.find_beginPass _ q)
  obtain ⟨w, hrun, hw, hcalls, hrefused, hsuffix⟩ := hstart.all h hs.values hs.stuck ends
  have hnone : calls w.evaluated = [] := hcalls
  have hrnone : refused w.evaluated = [] := hrefused
  refine ⟨w, hrun, hw.shadows hs ?_ ?_, hsuffix⟩
  · rw [calls_append, hnone, List.append_nil, hm.calls]
  · rw [refused_append, hrnone, List.append_nil, hm.refused]

/-- **At the end of the reduction one pass is left**, which changes nothing. -/
theorem Tracks.converged_next (hc : c.Tracks registry r) (hend : r.next? registry = none)
    (ends : Text → Bool) : (c.next ends registry).converged = true := by
  obtain ⟨w, hrun, hw, -⟩ := hc.shadows h ends
  have hnone := hw.first?_rest
  rw [Reduction.next?_eq_none.1 hend, eq_comm, Option.map_eq_none_iff] at hnone
  have hpass : c.passOf ends registry = w := hrun.trans (WorkingText.run_of_none hw.text hw.boundary hnone)
  have htext : (c.passOf ends registry).text = c.working := by
    rw [hpass, hw.toMatches.text, hc.matched.text]
  exact beq_iff_eq.2 htext

variable {ends : Text → Bool} (hends : WorkingText.Heeds ends)

include hends

/-- A pass comes as far as a reduction.  Unless the policy ended it at a call, the reduction is at its
end. -/
theorem Tracks.next (hc : c.Tracks registry r) :
    ∃ r', Reduction.Reaches registry r r' ∧ (c.next ends registry).Tracks registry r' ∧
      (r'.next? registry = none ∨
        ∃ x ∈ c.replacementsOf ends registry, x.isCallWhere ends = true) := by
  obtain ⟨w, hrun, hw, hsuffix⟩ := hc.shadows h ends
  obtain ⟨r', h1, h2, h3, h4⟩ := hw.run h hc.sound hends
  rw [← hrun] at h3
  have hcall : r'.next? registry = none ∨
      ∃ x ∈ c.replacementsOf ends registry, x.isCallWhere ends = true := by
    rcases h4 with hend | ⟨x, hx, hcall⟩
    · exact .inl hend
    · exact .inr ⟨x, hsuffix.subset hx, hcall⟩
  refine ⟨r', h1, ⟨h3, h2, fun hconverged => hcall.resolve_right ?_⟩, hcall⟩
  rintro ⟨x, hx, hcall⟩
  have hsc : Store.All Inert c.context.values := hc.matched.context.values ▸ hc.sound.values
  have h0 := Accounted.executions_eq_zero_of_converged closesNothing_inert h.preserves hsc hconverged
  rw [evaluated_passOf] at h0
  exact List.countP_eq_zero.1 h0 x.occurrence (List.mem_map_of_mem hx) (Bool.and_eq_true_iff.1 hcall).1

theorem Tracks.run (hc : c.Tracks registry r) (limit : Nat) :
    ∃ r', Reduction.Reaches registry r r' ∧ (c.run ends registry limit).Tracks registry r' := by
  induction limit generalizing c r with
  | zero => exact ⟨r, .refl r, hc⟩
  | succ limit ih =>
    obtain ⟨r1, h1, hnext, -⟩ := hc.next h hends
    rw [run_succ]
    split
    · exact ⟨r1, h1, hnext⟩
    · obtain ⟨r2, h2, hrun⟩ := ih hnext
      exact ⟨r2, h1.trans h2, hrun⟩

/-- **A run of passes that has converged has come to the end of the reduction.** -/
theorem exists_end_of_converged (args : List Text) {values : Store} (hv : Store.All Inert values)
    (input : Text) {limit : Nat}
    (hc : (run ends registry limit (.start (.storing args values) input)).converged = true) :
    ∃ r, Reduction.Reaches registry (.start (.storing args values) input) r ∧
      r.next? registry = none ∧ r.Sound registry ∧
      r.Matches (run ends registry limit (.start (.storing args values) input)).working
        (run ends registry limit (.start (.storing args values) input)).context
        (run ends registry limit (.start (.storing args values) input)).evaluated := by
  obtain ⟨r, h1, htracks⟩ := (tracks_start registry args hv input).run h hends limit
  exact ⟨r, h1, htracks.ended hc, htracks.sound, htracks.matched⟩

/-- It does so if it is allowed one pass more than there are closing braces. -/
theorem exists_end (args : List Text) (input : Text) {limit : Nat} (hlimit : input.count '}' < limit) :
    ∃ r, Reduction.Reaches registry (.start (.fresh args) input) r ∧ r.next? registry = none ∧
      (run ends registry limit (.start (.fresh args) input)).converged = true ∧
      r.Matches (run ends registry limit (.start (.fresh args) input)).working
        (run ends registry limit (.start (.fresh args) input)).context
        (run ends registry limit (.start (.fresh args) input)).evaluated := by
  have haccount : Accounted Inert (input.count '}') input (.fresh args) [] :=
    Accounted.start Store.all_nil input
  have hconverged := (haccount.passes_run_le (c := .start (.fresh args) input) closesNothing_inert
    h.preserves ends limit).2 hlimit
  obtain ⟨r, h1, h2, -, h3⟩ := exists_end_of_converged h hends args Store.all_nil input hconverged
  exact ⟨r, h1, h2, hconverged, h3⟩

end

end Course

/-- The end of a run of passes that has converged, told of `Progress`. -/
theorem Progress.exists_end_of_converged {registry : Registry} (h : registry.Tame) (args : List Text)
    {values : Store} (hv : Store.All Inert values) (input : Text) {limit : Nat} {p : Progress}
    (hp : p = run registry limit (.start (.storing args values) input))
    (hconverged : p.converged = true) :
    ∃ r, Reduction.Reaches registry (.start (.storing args values) input) r ∧
      r.next? registry = none ∧ r.Sound registry ∧ p.working = r.text ∧
      p.context.Agrees r.context ∧
      refused (((start (.storing args values) input).visits registry limit).map Visit.occurrence) =
        Passed.entries r.passed := by
  have hrun := Course.toProgress_run registry limit (.start (.storing args values) input)
  have hvisits := Course.evaluated_run registry limit (.start (.storing args values) input)
  rw [hp] at hconverged ⊢
  obtain ⟨r, h1, h2, h3, h4⟩ := Course.exists_end_of_converged h WorkingText.heeds_waits args hv input
    (hrun ▸ hconverged)
  rw [hvisits, hrun] at h4
  exact ⟨r, h1, h2, h3, h4.text, h4.context, h4.refused⟩

/-! ## 5. Two policies -/

/-- **How a run is cut into passes makes no difference**, as long as a pass ends where a brace
waits: the runs end with the same text, stored values and log, after the same calls. -/
theorem Course.run_agree {registry : Registry} (h : registry.Tame) {ends ends' : Text → Bool}
    (hends : WorkingText.Heeds ends) (hends' : WorkingText.Heeds ends')
    (args : List Text) (input : Text) {limit limit' : Nat} (hlimit : input.count '}' < limit)
    (hlimit' : input.count '}' < limit') {c d : Course}
    (hc : c = run ends registry limit (.start (.fresh args) input))
    (hd : d = run ends' registry limit' (.start (.fresh args) input)) :
    c.converged = true ∧ d.converged = true ∧ c.working = d.working ∧ c.context.Agrees d.context ∧
      calls c.evaluated = calls d.evaluated := by
  obtain ⟨r, h1, h2, h3, h4⟩ := exists_end h hends args input hlimit
  obtain ⟨r', h1', h2', h3', h4'⟩ := exists_end h hends' args input hlimit'
  obtain rfl := Reduction.reaches_unique h1 h1' h2 h2'
  rw [← hc] at h3 h4
  rw [← hd] at h3' h4'
  exact ⟨h3, h3', h4.text.trans h4'.text.symm, h4.context.trans h4'.context.symm,
    h4.calls.trans h4'.calls.symm⟩

/-- Unless a fetched body holds a brace, the built-in operations keep to inert texts. -/
theorem Registry.builtins_tame (settings : Settings) {fetch? : Option Fetcher}
    (hbody : ∀ fetch ∈ fetch?, ∀ url body, fetch url = .ok body → '{' ∉ body ∧ '}' ∉ body) :
    (Registry.builtins settings fetch?).Tame where
  preserves := by
    refine builtins_preserves settings (fun t ht => ?_) (fun s t => Inert.append) ?_
    · exact inert_of_not_mem ht.brace_not_mem.1 ht.brace_not_mem.2
    · intro fetch hf url body hb
      obtain ⟨ho, hc⟩ := hbody fetch hf url body hb
      exact inert_of_not_mem ho hc
  reads := builtins_readsValues settings fetch?

/-- **Batching cannot be observed.**  Unless a fetched body holds a brace, the run whose passes make
many substitutions and the run that starts again after every single one both converge, with the same
text, the same stored values and the same log, after the same calls in the same order. -/
theorem builtins_run_eq_always (settings : Settings) (fetch? : Option Fetcher)
    (hbody : ∀ fetch ∈ fetch?, ∀ url body, fetch url = .ok body → '{' ∉ body ∧ '}' ∉ body)
    (args : List Text) (input : Text) (limit limit' : Nat) (hlimit : input.count '}' < limit)
    (hlimit' : input.count '}' < limit') :
    let batched := Progress.run (.builtins settings fetch?) limit (.start (.fresh args) input)
    let visits := (Progress.start (.fresh args) input).visits (.builtins settings fetch?) limit
    let single := Course.run Course.always (.builtins settings fetch?) limit'
      (.start (.fresh args) input)
    batched.converged = true ∧ single.converged = true ∧ batched.working = single.working ∧
      batched.context.values = single.context.values ∧
      batched.context.errors = single.context.errors ∧
      calls (visits.map Visit.occurrence) = calls single.evaluated ∧
      expand (.builtins settings fetch?) limit args input = .ok single.expanded := by
  intro batched visits single
  have htame := Registry.builtins_tame settings hbody
  obtain ⟨h1, h2, h3, h4, h5⟩ :=
    Course.run_agree htame WorkingText.heeds_waits WorkingText.heeds_always args input hlimit
      hlimit' rfl rfl
  have hrun : (Course.run WorkingText.waits (.builtins settings fetch?) limit
      (.start (.fresh args) input)).toProgress = batched :=
    Course.toProgress_run _ limit (.start (.fresh args) input)
  have hvisits : (Course.run WorkingText.waits (.builtins settings fetch?) limit
      (.start (.fresh args) input)).evaluated = [] ++ visits.map Visit.occurrence :=
    Course.evaluated_run _ limit (.start (.fresh args) input)
  rw [hvisits, List.nil_append] at h5
  rw [hrun] at h1 h3 h4
  refine ⟨h1, h2, h3, h4.values, h4.errors, h5, ?_⟩
  rw [expand_of_converged h1, Progress.expanded, Progress.expanded]
  exact congrArg Except.ok (congrArg₂ _ (congrArg unescape h3) h4.errors)

/-- An expression inside an operand, a rejected one and a stray brace, each driver with its own
limit: the same text and the same error after three passes and after four. -/
theorem builtins_run_eq_always_nested :
    let registry := Registry.builtins .standard (some fun _ => .ok ['b'])
    let input := "\x7bset:k|\x7btext:u\x7d\x7d\x7bset:k\x7d\x7bget:k\x7d\x7d".toList
    let single := Course.run Course.always registry 7 (.start (.fresh []) input)
    (∀ fetch ∈ (some fun _ => .ok ['b'] : Option Fetcher), ∀ url body, fetch url = .ok body →
        '{' ∉ body ∧ '}' ∉ body) ∧
      input.count '}' < 6 ∧
      expand registry 6 [] input = .ok single.expanded ∧
      single.expanded =
        ⟨"\x7bset:k\x7db\x7d".toList, ["set: both a key and a value are required".toList]⟩ ∧
      (Progress.run registry 6 (.start (.fresh []) input)).passes = 3 ∧ single.passes = 4 := by
  intro registry input single
  have hbody : ∀ fetch ∈ (some fun _ => .ok ['b'] : Option Fetcher), ∀ url body,
      fetch url = .ok body → '{' ∉ body ∧ '}' ∉ body :=
    Fetcher.forall_body (P := fun body => '{' ∉ body ∧ '}' ∉ body) (by decide)
  have hlimit : input.count '}' < 6 := by decide
  obtain ⟨-, -, -, -, -, -, h⟩ :=
    builtins_run_eq_always .standard _ hbody [] _ 6 7 hlimit (Nat.lt_succ_of_lt hlimit)
  exact ⟨hbody, hlimit, h, by decide +kernel, by decide +kernel, by decide +kernel⟩

end TemplateExpansion
