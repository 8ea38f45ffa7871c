/-
# One text after another

A reduction works at the front of its text.  So with more text behind, it takes the same steps
(`Reaches.append`), and when it has come to its end in a text in which no brace waits and which does not
escape what follows, it goes on with the text behind as if that stood alone: what was left of the first
text is a flat gap in front of the first match of the second (`Trails`).

The second text finds the values that the first one stored, and its rejections are counted on top of
those of the first, each of them logged.  Hence templates compose (`builtins_run_append`).
-/
import TemplateExpansion.Proofs.Batching

namespace TemplateExpansion

open Text

/-! ## 1. A log in front

Operations neither read the log nor do anything to it but add to its end. -/

namespace Context

/-- The context with a log in front of its own. -/
def behind (log : List Text) (ctx : Context) : Context := { ctx with errors := log ++ ctx.errors }

variable (log : List Text) (ctx : Context)

theorem behind_report (opcode message : Text) :
    (ctx.behind log).report opcode message = (ctx.report opcode message).behind log := by
  simp [behind, report]

theorem behind_reject (source opcode message : Text) :
    (ctx.behind log).reject source opcode message = (ctx.reject source opcode message).behind log := by
  have hcounts : (ctx.behind log).rejections = ctx.rejections := rfl
  simp only [reject, hcounts]
  split
  · exact behind_report log { ctx with rejections := ctx.rejections.record ⟨source, message⟩ } _ _
  · rfl

theorem behind_apply (change : Change) : (ctx.behind log).apply change = (ctx.apply change).behind log := by
  cases change with
  | set name value => rfl
  | report opcode message => exact behind_report log ctx opcode message
  | reject source opcode message => exact behind_reject log ctx source opcode message

theorem behind_applyAll (changes : List Change) :
    (ctx.behind log).applyAll changes = (ctx.applyAll changes).behind log := by
  induction changes generalizing ctx with
  | nil => rfl
  | cons change changes ih => rw [applyAll_cons, applyAll_cons, behind_apply, ih]

end Context

/-- **An evaluation goes the same way behind a log.** -/
theorem Registry.ReadsValues.evaluate_behind {registry : Registry} (h : registry.ReadsValues)
    (e : Expression) (log : List Text) (ctx : Context) :
    (evaluate registry e (ctx.behind log)).context = (evaluate registry e ctx).context.behind log := by
  unfold evaluate
  cases hop : registry.get? e.opcode with
  | none => rfl
  | some op =>
    have hmem := Registry.mem_of_get? hop
    simp only [h.firstFailure_eq hmem e (ctx.behind log) ctx]
    cases op.firstFailure e ctx with
    | some r => exact Context.behind_reject log ctx _ _ _
    | none =>
      simp only [Operation.run, (h op hmem).execute e (ctx.behind log) ctx rfl]
      exact Context.behind_applyAll log ctx _

namespace Reduction

variable {registry : Registry}

/-! ## 2. More text behind -/

/-- More text behind the rest. -/
def append (r : Reduction) (t : Text) : Reduction := { r with rest := r.rest ++ t }

theorem next?_append {r q : Reduction} (h : r.next? registry = some q) (t : Text) :
    (r.append t).next? registry = some (q.append t) := by
  obtain ⟨cut, hcut, ⟨hx, rfl⟩ | ⟨hx, rfl⟩⟩ := next?_eq_some h
  · have hcut' := Cut.first?_append_of_some hcut t
    rw [next?_of_executed (r := r.append t) hcut' hx]
    simp [execute, append]
  · have hcut' := Cut.first?_append_of_some hcut t
    rw [next?_of_not (r := r.append t) hcut' hx]
    rfl

/-- **Steps are taken as before** with more text behind. -/
theorem Reaches.append {r q : Reduction} (h : Reaches registry r q) (t : Text) :
    Reaches registry (r.append t) (q.append t) := by
  induction h with
  | refl => exact .refl _
  | tail _ hstep ih => exact ih.tail (next?_append hstep t)

/-! ## 3. Behind what was left -/

/-- The reduction `r` stands where `q` does, behind a text `front` that was left and a log.  What of the
text is not passed is a flat gap in front of the rest. -/
structure Trails (front : Text) (log : List Text) (r q : Reduction) (gap : Text) : Prop where
  text : Passed.textOf r.passed ++ gap = front ++ Passed.textOf q.passed
  rest : r.rest = gap ++ q.rest
  flat : Flat false gap
  opens : escapedAfter false gap = false
  context : r.context.Agrees (q.context.behind log)

section

variable {front : Text} {log : List Text} {r q : Reduction} {gap : Text}
  (ht : Trails front log r q gap)

include ht

theorem Trails.first?_rest : Cut.first? false r.rest = (Cut.first? false q.rest).map (Cut.push gap) := by
  rw [ht.rest, Cut.first?_append_of_flat ht.flat, ht.opens]

theorem Trails.text_eq : r.text = front ++ q.text := by
  rw [Reduction.text, ht.rest, ← List.append_assoc, ht.text, List.append_assoc]
  rfl

/-- Both have come to their end, or neither. -/
theorem Trails.next?_eq_none (hq : q.next? registry = none) : r.next? registry = none := by
  rw [Reduction.next?_eq_none] at hq ⊢
  rw [ht.first?_rest, hq]
  rfl

variable (h : registry.Tame) (hr : r.Sound registry) (hq : q.Sound registry)

include h hr hq

/-- An occurrence fares the same on both sides. -/
theorem Trails.evaluate_eq {inner : Text} (hi : Inert inner) :
    (Occurrence.of registry r.context inner).evaluation.text =
        (Occurrence.of registry q.context inner).evaluation.text ∧
      (Occurrence.of registry r.context inner).evaluation.outcome =
        (Occurrence.of registry q.context inner).evaluation.outcome ∧
      (Occurrence.of registry r.context inner).evaluation.context.Agrees
        ((Occurrence.of registry q.context inner).evaluation.context.behind log) := by
  have he := Expression.inert_operands hi
  refine ⟨h.reads.text_eq _ ht.context.values, h.reads.outcome_eq _ _ _, ?_⟩
  have hagrees := h.agrees_evaluate he ht.context hr.values hr.caughtUp hq.caughtUp
  rw [h.reads.evaluate_behind] at hagrees
  exact hagrees

/-- **One step of the one is one step of the other.** -/
theorem Trails.next {q' : Reduction} (hq' : q.next? registry = some q') :
    ∃ r' gap', r.next? registry = some r' ∧ Trails front log r' q' gap' := by
  obtain ⟨cut, hcut, hcases⟩ := next?_eq_some hq'
  have hcut' : Cut.first? false r.rest = some (cut.push gap) := by rw [ht.first?_rest, hcut]; rfl
  obtain ⟨htext, hout, hcontext⟩ := ht.evaluate_eq h hr hq (Cut.first?_eq_some_iff.1 hcut).2.2.2
  have hexecuted : (Occurrence.of registry r.context cut.inner).isExecuted =
      (Occurrence.of registry q.context cut.inner).isExecuted := by
    rw [Occurrence.isExecuted, hout, Occurrence.isExecuted]
  rcases hcases with ⟨hx, rfl⟩ | ⟨hx, rfl⟩
  · refine ⟨_, gap, next?_of_executed hcut' (hexecuted.trans hx), ht.text, ?_, ht.flat, ht.opens,
      hcontext⟩
    simp [execute, htext]
  · -- The occurrence takes the gap with it.
    refine ⟨_, [], next?_of_not hcut' (hexecuted.trans hx), ?_, rfl, flat_nil _, rfl, hcontext⟩
    have hbraced : Passed.textOf r.passed ++ gap ++ (cut.before ++ Cut.braced cut.inner) =
        front ++ Passed.textOf q.passed ++ (cut.before ++ Cut.braced cut.inner) := by rw [ht.text]
    simp only [pass, Passed.textOf_concat, Cut.before_push, Cut.inner_push, List.append_nil]
    simpa using hbraced

omit hr hq in
/-- **All its steps are.** -/
theorem Trails.reaches (hr : r.Sound registry) (hq : q.Sound registry) {q' : Reduction}
    (hq' : Reaches registry q q') :
    ∃ r' gap', Reaches registry r r' ∧ r'.Sound registry ∧ q'.Sound registry ∧
      Trails front log r' q' gap' := by
  induction hq' with
  | refl => exact ⟨r, gap, .refl r, hr, hq, ht⟩
  | tail _ hstep ih =>
    obtain ⟨r1, gap1, h1, hr1, hq1, ht1⟩ := ih
    obtain ⟨r2, gap2, h2, ht2⟩ := ht1.next h hr1 hq1 hstep
    exact ⟨r2, gap2, h1.tail h2, hr1.next h h2, hq1.next h hstep, ht2⟩

end

/-- At its end a reduction trails a text behind it that has not begun, if what is left of its own text
neither holds a brace that waits nor ends in a backslash. -/
theorem trails_append {r : Reduction} (hend : r.next? registry = none)
    (hopen : ¬ HasOpen r.text) (hback : r.text.getLast? ≠ some '\\') (t : Text) :
    Trails r.text r.context.errors (r.append t)
      (start (.storing r.context.args r.context.values) t) r.rest := by
  have hpending : pendingAfter false false r.rest = false := by
    rw [← pendingAfter_eq_true_iff_hasOpen, Bool.not_eq_true, text, pendingAfter_append,
      Passed.pendingAfter_textOf, Passed.escapedAfter_textOf] at hopen
    exact hopen
  have hescaped : escapedAfter false r.rest = false := by
    rw [← escapedAfter_eq_false, text, escapedAfter_append, Passed.escapedAfter_textOf] at hback
    exact hback
  refine ⟨?_, rfl, Cut.flat_of_first?_eq_none (Reduction.next?_eq_none.1 hend) hpending, hescaped,
    rfl, rfl, ?_⟩
  · simp [append, text, start]
  · simp [append, start, Context.behind, Context.storing, Context.fresh]

/-- **A reduction of two texts** is the reduction of the first and then, from the values it stored, of the
second. -/
theorem reaches_append (h : registry.Tame) {args : List Text} {a b : Text} {ra rb : Reduction}
    (ha : Reaches registry (start (.fresh args) a) ra) (hsa : ra.Sound registry)
    (hea : ra.next? registry = none) (hopen : ¬ HasOpen ra.text)
    (hback : ra.text.getLast? ≠ some '\\')
    (hb : Reaches registry (start (.storing args ra.context.values) b) rb)
    (heb : rb.next? registry = none) :
    ∃ r, Reaches registry (start (.fresh args) (a ++ b)) r ∧ r.next? registry = none ∧
      r.text = ra.text ++ rb.text ∧ r.context.Agrees (rb.context.behind ra.context.errors) := by
  have hargs : ra.context.args = args := args_eq_of_reaches ha
  have ht := trails_append hea hopen hback b
  rw [hargs] at ht
  -- The text behind is not passed, so it plays no part in what is sound.
  have hsappend : (ra.append b).Sound registry := ⟨hsa.stuck, hsa.earlier, hsa.current, hsa.values⟩
  obtain ⟨r, gap, hr, -, -, ht'⟩ :=
    ht.reaches h hsappend (sound_start_storing args hsa.values b) hb
  exact ⟨r, (ha.append b).trans hr, ht'.next?_eq_none heb, ht'.text_eq, ht'.context⟩

end Reduction

/-! ## 4. Runs -/

/-- **Templates compose.**  Unless a fetched body holds a brace: where one text has come to rest, without
a backslash at its end and without a brace that waits, and another has been expanded with the values
that the first one stored, the two texts one after the other are expanded to the two outcomes one after
the other, with the values of the second run and the two logs one after the other.  One pass more than
there are closing braces is enough. -/
theorem builtins_run_append (settings : Settings) (fetch? : Option Fetcher)
    (hbody : ∀ fetch ∈ fetch?, ∀ url body, fetch url = .ok body → '{' ∉ body ∧ '}' ∉ body)
    (args : List Text) {a b : Text} {m n : Nat} {first second : Progress}
    (hfirst : first = Progress.run (.builtins settings fetch?) m (.start (.fresh args) a))
    (hsecond : second = Progress.run (.builtins settings fetch?) n
      (.start (.storing args first.context.values) b))
    (h1 : first.converged = true) (h2 : second.converged = true)
    (hback : first.working.getLast? ≠ some '\\') (hopen : ¬ HasOpen first.working) (limit : Nat) :
    let whole := Progress.run (.builtins settings fetch?) limit (.start (.fresh args) (a ++ b))
    ((a ++ b).count '}' < limit → whole.converged = true) ∧
      (whole.converged = true →
        whole.working = first.working ++ second.working ∧
          whole.context.values = second.context.values ∧
          whole.context.errors = first.context.errors ++ second.context.errors ∧
          expand (.builtins settings fetch?) limit args (a ++ b) =
            .ok ⟨first.working.unescape ++ second.working.unescape,
              first.context.errors ++ second.context.errors⟩) := by
  intro whole
  have h := Registry.builtins_tame settings hbody
  refine ⟨fun hlimit => ?_, fun hconverged => ?_⟩
  · obtain ⟨-, -, -, hc, -⟩ := Course.exists_end h WorkingText.heeds_waits args (a ++ b) hlimit
    have hrun := Course.toProgress_run (.builtins settings fetch?) limit
      (.start (.fresh args) (a ++ b))
    exact (congrArg Progress.converged hrun).symm.trans hc
  · obtain ⟨ra, ha, hea, hsa, htexta, hctxa, -⟩ :=
      Progress.exists_end_of_converged h args Store.all_nil a hfirst h1
    rw [hctxa.values] at hsecond
    obtain ⟨rb, hb, heb, -, htextb, hctxb, -⟩ :=
      Progress.exists_end_of_converged h args hsa.values b hsecond h2
    obtain ⟨r, hr, her, -, htext, hctx, -⟩ :=
      Progress.exists_end_of_converged h args Store.all_nil (a ++ b) (p := whole) rfl hconverged
    rw [htexta] at hback hopen
    obtain ⟨r', hr', her', htext', hctx'⟩ := Reduction.reaches_append h ha hsa hea hopen hback hb heb
    obtain rfl := Reduction.reaches_unique hr hr' her her'
    have hworking : whole.working = first.working ++ second.working := by
      rw [htext, htext', htexta, htextb]
    have hvalues : whole.context.values = second.context.values :=
      (hctx.values.trans hctx'.values).trans hctxb.values.symm
    have herrors : whole.context.errors = first.context.errors ++ second.context.errors := by
      rw [hctxa.errors, hctxb.errors]
      exact hctx.errors.trans hctx'.errors
    have hunescape := unescape_append (t := second.working) fun hlast => absurd hlast (htexta ▸ hback)
    refine ⟨hworking, hvalues, herrors, ?_⟩
    rw [expand_of_converged hconverged, Progress.expanded]
    exact congrArg Except.ok (congrArg₂ _ (hworking ▸ hunescape) herrors)

/-- A rejected occurrence on both sides of the seam: both rejections are logged, and the second text
reads the value that the first one stored. -/
theorem builtins_run_append_rejected :
    (∀ fetch ∈ (some fun _ => .ok ['b'] : Option Fetcher), ∀ url body, fetch url = .ok body →
        '{' ∉ body ∧ '}' ∉ body) ∧
      (Progress.run (.builtins .standard (some fun _ => .ok ['b'])) 4 (.start (.fresh [])
        "\x7bset:k|\x7btext:u\x7d\x7d\x7bset:k\x7d".toList)).working = "\x7bset:k\x7d".toList ∧
      expand (.builtins .standard (some fun _ => .ok ['b'])) 8 []
          ("\x7bset:k|\x7btext:u\x7d\x7d\x7bset:k\x7d".toList ++
            "\x7dget:k\x7d\x7bset:k\x7d\x7bget:k\x7d".toList) =
        .ok ⟨"\x7bset:k\x7d\x7dget:k\x7d\x7bset:k\x7db".toList,
          ["set: both a key and a value are required".toList,
            "set: both a key and a value are required".toList]⟩ := by
  have hbody : ∀ fetch ∈ (some fun _ => .ok ['b'] : Option Fetcher), ∀ url body,
      fetch url = .ok body → '{' ∉ body ∧ '}' ∉ body :=
    Fetcher.forall_body (P := fun body => '{' ∉ body ∧ '}' ∉ body) (by decide)
  obtain ⟨hlimit, h⟩ := builtins_run_append .standard _ hbody []
    (a := "\x7bset:k|\x7btext:u\x7d\x7d\x7bset:k\x7d".toList)
    (b := "\x7dget:k\x7d\x7bset:k\x7d\x7bget:k\x7d".toList) (m := 4) (n := 3) rfl rfl
    (by decide +kernel) (by decide +kernel) (by decide +kernel) (by decide +kernel) 8
  obtain ⟨-, -, -, hexpand⟩ := h (hlimit (by decide))
  exact ⟨hbody, by decide +kernel, hexpand.trans (congrArg Except.ok (by decide +kernel))⟩

end TemplateExpansion
