/-
# Text around a text

What stands around a text is inert if no brace in front of it opens, no backslash escapes its first brace,
and no brace behind it closes (`Frame`).  The first match of the framed text is then the first match of the
text itself, moved (`Frame.first?_append`), and the same braces wait before it (`Frame.waits_append`).

So a pass that stands behind the front takes the same steps with and without the frame
(`WorkingText.run_framed`), and a pass that begins in front of it takes the front along with its first step
(`WorkingText.run_start_framed`).  The frame takes no part in the comparison that ends a run, hence the two
runs are one (`Progress.run_framed`).  Nothing is asked of the operations, which may yield any text and
change the context as they like: they are given the same expressions and the same contexts.
-/
import TemplateExpansion.Builtin.Standard
import TemplateExpansion.Proofs.Course
import TemplateExpansion.Proofs.Limits

namespace TemplateExpansion

open Text

/-! ## 1. What stands in front and behind -/

/-- No brace waits in a flat text. -/
theorem Text.pendingAfter_of_flat {escaped : Bool} {t : Text} (h : Flat escaped t) :
    pendingAfter false escaped t = false := by
  induction t generalizing escaped with
  | nil => rfl
  | cons c t ih =>
    obtain ⟨hc, ht⟩ := h
    have hopens : ¬ (c = '{' ∧ escaped = false) := by
      rintro ⟨hbrace, hescaped⟩
      rw [hc hbrace] at hescaped
      exact Bool.noConfusion hescaped
    rw [pendingAfter, if_neg hopens, ite_self]
    exact ih ht

/-- Puts more text behind a cut. -/
def Cut.extend (t : Text) (cut : Cut) : Cut := { cut with after := cut.after ++ t }

namespace Cut

@[simp] theorem before_extend (t : Text) (cut : Cut) : (cut.extend t).before = cut.before := rfl

@[simp] theorem inner_extend (t : Text) (cut : Cut) : (cut.extend t).inner = cut.inner := rfl

@[simp] theorem after_extend (t : Text) (cut : Cut) : (cut.extend t).after = cut.after ++ t := rfl

/-- **Text that closes nothing** neither adds a match nor takes one away. -/
theorem first?_append_of_not_mem {back : Text} (h : '}' ∉ back) (escaped : Bool) (t : Text) :
    first? escaped (t ++ back) = (first? escaped t).map (extend back) := by
  cases hcut : first? escaped t with
  | none => exact first?_append_eq_none hcut h
  | some cut => exact first?_append_of_some hcut back

end Cut

/-- No brace of the front opens, the front escapes nothing, and no brace behind closes. -/
structure Frame (front back : Text) : Prop where
  flat : Flat false front
  opens : escapedAfter false front = false
  closes : '}' ∉ back

namespace Frame

variable {front back : Text}

/-- Text without opening braces in front, and text without closing ones behind. -/
theorem of_not_mem (hfront : '{' ∉ front) (hlast : front.getLast? ≠ some '\\') (hback : '}' ∉ back) :
    Frame front back :=
  ⟨flat_of_not_mem hfront, escapedAfter_eq_false.2 hlast, hback⟩

variable (hf : Frame front back)

include hf

theorem escapedAfter_append (s : Text) : escapedAfter false (front ++ s) = escapedAfter false s := by
  rw [Text.escapedAfter_append, hf.opens]

/-- The same braces wait. -/
theorem waits_append (s : Text) : WorkingText.waits (front ++ s) = WorkingText.waits s := by
  have hfront : pendingAfter false false front = false := pendingAfter_of_flat hf.flat
  rw [WorkingText.waits, WorkingText.waits, Bool.eq_iff_iff, decide_eq_true_iff, decide_eq_true_iff,
    ← pendingAfter_eq_true_iff_hasOpen, ← pendingAfter_eq_true_iff_hasOpen, pendingAfter_append, hfront,
    hf.opens]

/-- **The first match of a framed text** is that of the text, moved. -/
theorem first?_append (t : Text) :
    Cut.first? false (front ++ (t ++ back)) =
      (Cut.first? false t).map fun cut => (cut.extend back).push front := by
  rw [Cut.first?_append_of_flat hf.flat, hf.opens, Cut.first?_append_of_not_mem hf.closes, Option.map_map]
  rfl

end Frame

/-! ## 2. One pass -/

namespace WorkingText

/-- A working text in a frame; the boundary stays where it is in the text. -/
def framed (front back : Text) (w : WorkingText) : WorkingText where
  text := front ++ w.text ++ back
  boundary := front.byteSize + w.boundary
  context := w.context
  evaluated := w.evaluated

/-- A replacement in a framed text. -/
theorem framed_spliced (front back : Text) (w : WorkingText) (s : Text) (cut : Cut) (o : Occurrence) :
    (w.spliced s cut o).framed front back =
      (w.framed front back).spliced (front ++ s) (cut.extend back) o := by
  simp [framed, spliced]

/-- The first replacement of a pass that begins in front of the frame. -/
theorem framed_spliced_start (front back t : Text) (ctx : Context) (cut : Cut) (o : Occurrence) :
    ((start ctx t).spliced [] cut o).framed front back =
      (start ctx (front ++ t ++ back)).spliced [] ((cut.extend back).push front) o := by
  simp [framed, spliced, start]

variable {front back : Text} (hf : Frame front back) (registry : Registry)

include hf

/-- **Behind the front a pass takes the same steps** with and without the frame. -/
theorem run_framed {w : WorkingText} {s t : Text} (hw : w.text = s ++ t) (hb : w.boundary = s.byteSize) :
    run waits registry (w.framed front back) = (run waits registry w).framed front back := by
  induction hn : t.length using Nat.strongRecOn generalizing w s t with
  | ind n ih =>
    have hw' : (w.framed front back).text = (front ++ s) ++ (t ++ back) := by simp [framed, hw]
    have hb' : (w.framed front back).boundary = (front ++ s).byteSize := by simp [framed, hb]
    have hfirst : Cut.first? (escapedAfter false (front ++ s)) (t ++ back) =
        (Cut.first? (escapedAfter false s) t).map (Cut.extend back) := by
      rw [hf.escapedAfter_append, Cut.first?_append_of_not_mem hf.closes]
    cases hcut : Cut.first? (escapedAfter false s) t with
    | none =>
      rw [hcut] at hfirst
      rw [run_of_none hw hb hcut, run_of_none hw' hb' hfirst]
    | some cut =>
      rw [hcut] at hfirst
      obtain ⟨o, ho⟩ : ∃ o, o = Occurrence.of registry w.context cut.inner := ⟨_, rfl⟩
      have hrest : run waits registry ((w.spliced s cut o).framed front back) =
          (run waits registry (w.spliced s cut o)).framed front back :=
        ih cut.after.length (hn ▸ Cut.length_after_lt hcut) rfl rfl rfl
      have hends : (o.evaluation.text ≠ Cut.braced cut.inner ∧ waits (front ++ s ++ cut.before)) ↔
          (o.evaluation.text ≠ Cut.braced cut.inner ∧ waits (s ++ cut.before)) := by
        rw [List.append_assoc, hf.waits_append]
      rw [run_of_some hw hb hcut ho, run_of_some hw' hb' hfirst ho, ← framed_spliced, hrest,
        apply_ite (framed front back)]
      exact if_congr hends rfl rfl

/-- **A pass from the beginning of the front** finds the same first match, and what it leaves is in the
frame. -/
theorem run_start_framed (ctx : Context) (t : Text) :
    (run waits registry (start ctx (front ++ t ++ back))).text =
        front ++ (run waits registry (start ctx t)).text ++ back ∧
      (run waits registry (start ctx (front ++ t ++ back))).context =
        (run waits registry (start ctx t)).context ∧
      (run waits registry (start ctx (front ++ t ++ back))).evaluated =
        (run waits registry (start ctx t)).evaluated := by
  have hw' : (start ctx (front ++ t ++ back)).text = [] ++ (front ++ (t ++ back)) := by simp [start]
  have hfirst := hf.first?_append t
  cases hcut : Cut.first? false t with
  | none =>
    rw [hcut] at hfirst
    rw [run_of_none (w := start ctx t) (s := []) rfl rfl hcut, run_of_none hw' rfl hfirst]
    exact ⟨rfl, rfl, rfl⟩
  | some cut =>
    rw [hcut] at hfirst
    obtain ⟨o, ho⟩ : ∃ o, o = Occurrence.of registry ctx cut.inner := ⟨_, rfl⟩
    -- From here on the boundary lies behind the front.
    have hrest : run waits registry (((start ctx t).spliced [] cut o).framed front back) =
        (run waits registry ((start ctx t).spliced [] cut o)).framed front back :=
      run_framed hf registry rfl rfl
    have hends : (o.evaluation.text ≠ Cut.braced cut.inner ∧ waits (front ++ cut.before)) ↔
        (o.evaluation.text ≠ Cut.braced cut.inner ∧ waits cut.before) := by
      rw [hf.waits_append]
    have hrun : run waits registry (start ctx (front ++ t ++ back)) =
        (run waits registry (start ctx t)).framed front back := by
      rw [run_of_some (w := start ctx t) (s := []) rfl rfl hcut ho, run_of_some hw' rfl hfirst ho,
        ← framed_spliced_start, hrest, apply_ite (framed front back)]
      exact if_congr hends rfl rfl
    rw [hrun]
    exact ⟨rfl, rfl, rfl⟩

end WorkingText

/-- **A pass over a framed text** makes the same evaluations in the same order, leaves the same context,
and yields what it yields without the frame, framed. -/
theorem sweep_framed {front back : Text} (hf : Frame front back) (registry : Registry) (ctx : Context)
    (t : Text) :
    (sweep registry ctx (front ++ t ++ back)).text = front ++ (sweep registry ctx t).text ++ back ∧
      (sweep registry ctx (front ++ t ++ back)).context = (sweep registry ctx t).context ∧
      (sweep registry ctx (front ++ t ++ back)).visits.map Visit.occurrence =
        (sweep registry ctx t).visits.map Visit.occurrence := by
  simp only [text_sweep, context_sweep, visits_sweep]
  exact WorkingText.run_start_framed hf registry ctx.beginPass t

/-! ## 3. Passes in a row -/

namespace Progress

/-- A run whose working text stands in a frame. -/
def framed (front back : Text) (p : Progress) : Progress := { p with working := front ++ p.working ++ back }

variable {front back : Text} (hf : Frame front back) (registry : Registry)

include hf

/-- **One more pass keeps the frame.**  It leaves the framed text as it is if and only if it leaves the text
as it is. -/
theorem next_framed (p : Progress) :
    (p.framed front back).next registry = (p.next registry).framed front back := by
  obtain ⟨htext, hcontext, -⟩ := sweep_framed hf registry p.context p.working
  have hsame : (front ++ (sweep registry p.context p.working).text ++ back == front ++ p.working ++ back) =
      ((sweep registry p.context p.working).text == p.working) := by
    rw [Bool.eq_iff_iff, beq_iff_eq, beq_iff_eq, List.append_left_inj, List.append_right_inj]
  simp only [next, framed, htext, hcontext, hsame]

/-- So do a number of passes. -/
theorem after_framed (passes : Nat) (p : Progress) :
    (p.framed front back).after registry passes = (p.after registry passes).framed front back := by
  have hnext : Function.Semiconj (framed front back) (next registry) (next registry) :=
    fun p => (next_framed hf registry p).symm
  exact (hnext.iterate_right passes p).symm

/-- **So does a whole run.** -/
theorem run_framed (limit : Nat) (p : Progress) :
    run registry limit (p.framed front back) = (run registry limit p).framed front back := by
  induction limit generalizing p with
  | zero => rfl
  | succ limit ih =>
    rw [run, run, next_framed hf, ih, apply_ite (framed front back)]
    rfl

end Progress

/-! ## 4. The result -/

/-- A text without opening braces has no escapes to drop. -/
theorem Text.unescape_of_brace_not_mem {t : Text} (h : '{' ∉ t) : t.unescape = t := by
  refine unescape_eq_self ?_
  intro hsub
  exact h (hsub.subset (List.mem_cons_of_mem _ List.mem_cons_self))

section

variable {front back : Text} (hfront : '{' ∉ front) (hlast : front.getLast? ≠ some '\\')
  (hback : '{' ∉ back)

include hfront hlast hback

/-- Dropping the escapes of a framed text does not touch the frame, whatever the text begins or ends
with. -/
theorem Text.unescape_framed (t : Text) : (front ++ t ++ back).unescape = front ++ t.unescape ++ back := by
  have hhead : back.head? ≠ some '{' := fun h => hback (List.mem_of_mem_head? h)
  rw [unescape_append fun _ => hhead, unescape_append fun h => absurd h hlast,
    unescape_of_brace_not_mem hfront, unescape_of_brace_not_mem hback]

theorem Progress.expanded_framed (p : Progress) :
    (p.framed front back).expanded = ⟨front ++ p.expanded.text ++ back, p.expanded.errors⟩ :=
  congrArg (Expanded.mk · p.context.errors) (unescape_framed hfront hlast hback p.working)

end

/-- **Plain text around a text is inert.**  With text in front that has no opening brace and does not end in
a backslash, and text without braces behind, an expansion has a result exactly when it has one without them,
after as many passes and with the same log, and the text is the same but for what stands around it.  This
holds of the text that a limit cuts short too, and it holds pass by pass. -/
theorem expand_framed (registry : Registry) (limit : Nat) (args : List Text) (input : Text)
    {front back : Text} (hfront : '{' ∉ front) (hlast : front.getLast? ≠ some '\\')
    (hback : '{' ∉ back ∧ '}' ∉ back) :
    (∀ e, expand registry limit args input = .ok e →
        expand registry limit args (front ++ input ++ back) = .ok ⟨front ++ e.text ++ back, e.errors⟩) ∧
      (∀ iterations e, expand registry limit args input = .error (.nonConvergent iterations e) →
        expand registry limit args (front ++ input ++ back) =
          .error (.nonConvergent iterations ⟨front ++ e.text ++ back, e.errors⟩)) ∧
      ∀ passes,
        ((Progress.start (.fresh args) (front ++ input ++ back)).after registry passes).working =
            front ++ ((Progress.start (.fresh args) input).after registry passes).working ++ back ∧
          ((Progress.start (.fresh args) (front ++ input ++ back)).after registry passes).context =
            ((Progress.start (.fresh args) input).after registry passes).context := by
  have hf : Frame front back := Frame.of_not_mem hfront hlast hback.2
  have hstart : Progress.start (.fresh args) (front ++ input ++ back) =
      (Progress.start (.fresh args) input).framed front back := rfl
  obtain ⟨p, hp⟩ : ∃ p, p = Progress.run registry limit (.start (.fresh args) input) := ⟨_, rfl⟩
  have hinput : expand registry limit args input =
      if p.converged then .ok p.expanded else .error (.nonConvergent p.passes p.expanded) := by
    rw [hp, expand]
  have hframed : expand registry limit args (front ++ input ++ back) =
      if p.converged then .ok ⟨front ++ p.expanded.text ++ back, p.expanded.errors⟩
      else .error (.nonConvergent p.passes ⟨front ++ p.expanded.text ++ back, p.expanded.errors⟩) := by
    rw [← Progress.expanded_framed hfront hlast hback.1, expand, hstart, Progress.run_framed hf, ← hp]
    rfl
  rw [hinput, hframed]
  refine ⟨?_, ?_, ?_⟩
  · intro e he
    cases hc : p.converged with
    | true =>
      rw [hc] at he
      rw [← Except.ok.inj he]
      rfl
    | false => simp [hc] at he
  · intro iterations e he
    cases hc : p.converged with
    | true => simp [hc] at he
    | false =>
      rw [hc] at he
      obtain ⟨rfl, rfl⟩ := ExpansionError.nonConvergent.inj (Except.error.inj he)
      rfl
  · intro passes
    rw [hstart, Progress.after_framed hf]
    exact ⟨rfl, rfl⟩

/-- A stray closing brace, a rejected occurrence, and an outcome that would escape what follows. -/
theorem expand_framed_backslash :
    '{' ∉ "<\\>".toList ∧ "<\\>".toList.getLast? ≠ some '\\' ∧
      ('{' ∉ ">".toList ∧ '}' ∉ ">".toList) ∧
      expand (.builtins .standard none) 2 []
          ("<\\>".toList ++ "\x7d\x7bset:k|\\\x7d\x7bset:k\x7d\x7bget:k\x7d".toList ++ ">".toList) =
        .ok ⟨"<\\>\x7d\x7bset:k\x7d\\>".toList,
          ["set: both a key and a value are required".toList]⟩ := by
  have hfront : '{' ∉ "<\\>".toList := by decide
  have hlast : "<\\>".toList.getLast? ≠ some '\\' := by decide
  have hback : '{' ∉ ">".toList ∧ '}' ∉ ">".toList := by decide
  obtain ⟨hok, -⟩ := expand_framed (.builtins .standard none) 2 []
    "\x7d\x7bset:k|\\\x7d\x7bset:k\x7d\x7bget:k\x7d".toList hfront hlast hback
  have hexpand : expand (.builtins .standard none) 2 []
        "\x7d\x7bset:k|\\\x7d\x7bset:k\x7d\x7bget:k\x7d".toList =
      .ok ⟨"\x7d\x7bset:k\x7d\\".toList, ["set: both a key and a value are required".toList]⟩ :=
    (expand_of_converged (by decide +kernel)).trans (congrArg Except.ok (by decide +kernel))
  exact ⟨hfront, hlast, hback, hok _ hexpand⟩

end TemplateExpansion
