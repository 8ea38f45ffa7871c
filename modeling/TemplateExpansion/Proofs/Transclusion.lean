/-
# Including is pasting

`text` yields a body and changes nothing else.  So the first pass over `{text:url}` leaves the body, in a
context that is as fresh as before (`next_inclusion`), and what follows is the run of the body: the same
passes, one later (`run_delayed`).  What the body has in it does not matter.

Plain text around the expression is inert (`Frame`), hence the same holds of an expression between plain
texts: to include a body there is to paste it, and it costs one pass more (`expand_inclusion`).
-/
import TemplateExpansion.Proofs.OnePass

namespace TemplateExpansion

open Text

/-! ## 1. Runs that start later -/

namespace Progress

/-- A run that has made more passes. -/
def delayed (passes : Nat) (p : Progress) : Progress := { p with passes := p.passes + passes }

variable {registry : Registry}

theorem next_delayed (registry : Registry) (passes : Nat) (p : Progress) :
    (p.delayed passes).next registry = (p.next registry).delayed passes := by
  simp only [next, delayed, Nat.add_right_comm]

/-- **Passes made before do not count** for what a run comes to. -/
theorem run_delayed (registry : Registry) (limit passes : Nat) (p : Progress) :
    run registry limit (p.delayed passes) = (run registry limit p).delayed passes := by
  induction limit generalizing p with
  | zero => rfl
  | succ limit ih =>
    rw [run, run, next_delayed, ih]
    exact (apply_ite (delayed passes) _ _ _).symm

/-- A run that has not converged has made all passes that the limit allows. -/
theorem passes_run_of_not_converged {limit : Nat} {p : Progress}
    (h : (run registry limit p).converged = false) :
    (run registry limit p).passes = p.passes + limit := by
  induction limit generalizing p with
  | zero => rfl
  | succ limit ih =>
    rw [run] at h ⊢
    cases hc : (p.next registry).converged with
    | true => simp [hc] at h
    | false =>
      simp only [hc, Bool.false_eq_true, if_false] at h ⊢
      rw [ih h]
      exact Nat.add_right_comm p.passes 1 limit

end Progress

/-! ## 2. The expression -/

/-- The expression that includes the body behind a URL. -/
def Expression.inclusion (url : Text) : Expression := Builtin.text.applied [url]

/-- It is written with the name of the operation, a colon and the URL. -/
theorem Expression.source_inclusion (url : Text) :
    (inclusion url).source = Cut.braced ("text:".toList ++ url) := by
  rw [inclusion, Builtin.source_applied_one]
  rfl

variable {registry : Registry} {fetch : Fetcher} {url : Text}

/-- Without requirements it is always executed, and all it looks at is the URL. -/
theorem evaluate_inclusion (hget : registry.get? (Builtin.opcode .text) = some (.text fetch)) (url : Text)
    (ctx : Context) :
    evaluate registry (.inclusion url) ctx =
      match fetch url with
      | .ok body => ⟨body, ctx, .executed⟩
      | .error cause => ⟨[], ctx.report (Builtin.opcode .text) cause.message, .executed⟩ := by
  have hurl : (Expression.inclusion url).operand 0 = url := rfl
  rw [evaluate_of_firstFailure_eq_none hget rfl]
  simp only [Operation.run, Operation.text, hurl]
  cases fetch url <;> rfl

section

variable (hopen : '{' ∉ url) (hclose : '}' ∉ url) (hbar : '|' ∉ url)

include hopen hclose hbar

/-- A pass over it leaves what evaluating it yields. -/
theorem sweep_inclusion (registry : Registry) (ctx : Context) :
    (sweep registry ctx (Expression.inclusion url).source).text =
        (evaluate registry (.inclusion url) ctx.beginPass).text ∧
      (sweep registry ctx (Expression.inclusion url).source).context =
        (evaluate registry (.inclusion url) ctx.beginPass).context := by
  have hurl : ∀ operand ∈ [url], Inert operand ∧ '|' ∉ operand :=
    List.forall_mem_singleton.2 ⟨inert_of_not_mem hopen hclose, hbar⟩
  exact sweep_source (Builtin.written_applied _ (List.cons_ne_nil _ _) hurl) registry ctx

/-- **The first pass leaves the body**, and the context as it was. -/
theorem next_inclusion (hget : registry.get? (Builtin.opcode .text) = some (.text fetch)) {body : Text}
    (hbody : fetch url = .ok body) (hne : body ≠ (Expression.inclusion url).source) (args : List Text) :
    (Progress.start (.fresh args) (Expression.inclusion url).source).next registry =
      (Progress.start (.fresh args) body).delayed 1 := by
  obtain ⟨htext, hcontext⟩ := sweep_inclusion hopen hclose hbar registry (.fresh args)
  rw [evaluate_inclusion hget, hbody] at htext hcontext
  have hchanged : (body == (Expression.inclusion url).source) = false := beq_eq_false_iff_ne.2 hne
  simp only [Progress.next, Progress.start, htext, hcontext, hchanged]
  rfl

end

/-! ## 3. The result -/

/-- **Including is pasting.**  Let `text` be registered with a fetcher, and let the expression stand between
plain texts, of which the first does not end in a backslash.

* If the fetcher has a body for the URL, other than the expression itself, the result under a limit is that
  of the text with the body in the place of the expression under a limit that is smaller by one: either both
  converge, with the same text and the same log, or neither does, and what they have reached is the same.
* If it has none, two passes are enough; the expression is gone and the log has the cause. -/
theorem expand_inclusion {registry : Registry} {fetch : Fetcher}
    (hget : registry.get? (Builtin.opcode .text) = some (.text fetch)) {url front back : Text}
    (hurl : '{' ∉ url ∧ '}' ∉ url ∧ '|' ∉ url) (hfront : '{' ∉ front ∧ '}' ∉ front)
    (hlast : front.getLast? ≠ some '\\') (hback : '{' ∉ back ∧ '}' ∉ back) (args : List Text) :
    let including := front ++ Cut.braced ("text:".toList ++ url) ++ back
    (∀ body, fetch url = .ok body → body ≠ Cut.braced ("text:".toList ++ url) → ∀ limit,
        (∃ e, expand registry (limit + 1) args including = .ok e ∧
          expand registry limit args (front ++ body ++ back) = .ok e) ∨
        ∃ e, expand registry (limit + 1) args including = .error (.nonConvergent (limit + 1) e) ∧
          expand registry limit args (front ++ body ++ back) = .error (.nonConvergent limit e)) ∧
      ∀ cause, fetch url = .error cause → ∀ limit, 2 ≤ limit →
        expand registry limit args including =
          .ok ⟨front ++ back, ["text: ".toList ++ cause.message]⟩ := by
  intro including
  obtain ⟨hopen, hclose, hbar⟩ := hurl
  have hf : Frame front back := Frame.of_not_mem hfront.1 hlast hback.2
  have hsource : including = front ++ (Expression.inclusion url).source ++ back := by
    rw [Expression.source_inclusion]
  refine ⟨?_, ?_⟩
  · intro body hbody hne limit
    rw [← Expression.source_inclusion] at hne
    obtain ⟨p, hp⟩ : ∃ p, p = Progress.run registry limit
      (.start (.fresh args) (front ++ body ++ back)) := ⟨_, rfl⟩
    have hnext : (Progress.start (.fresh args) including).next registry =
        (Progress.start (.fresh args) (front ++ body ++ back)).delayed 1 := by
      have hframed : Progress.start (.fresh args) including =
          (Progress.start (.fresh args) (Expression.inclusion url).source).framed front back :=
        congrArg (Progress.start (.fresh args)) hsource
      rw [hframed, Progress.next_framed hf, next_inclusion hopen hclose hbar hget hbody hne]
      rfl
    have hrun : Progress.run registry (limit + 1) (.start (.fresh args) including) = p.delayed 1 := by
      rw [Progress.run, hnext, Progress.run_delayed, ← hp]
      rfl
    rw [expand, expand, hrun, ← hp]
    cases hc : p.converged with
    | true => exact .inl ⟨p.expanded, by simp [Progress.delayed, hc, Progress.expanded], by simp⟩
    | false =>
      have hpasses : p.passes = limit := by
        rw [hp] at hc ⊢
        rw [Progress.passes_run_of_not_converged hc]
        exact Nat.zero_add limit
      exact .inr ⟨p.expanded, by simp [Progress.delayed, hc, Progress.expanded, hpasses],
        by simp [hpasses]⟩
  · intro cause hcause limit hlimit
    obtain ⟨htext, hcontext⟩ := sweep_inclusion hopen hclose hbar registry (.fresh args)
    obtain ⟨hframed, hsame, -⟩ := sweep_framed hf registry (.fresh args) (Expression.inclusion url).source
    rw [evaluate_inclusion hget, hcause] at htext hcontext
    rw [htext, List.append_nil] at hframed
    have hplain : '{' ∉ front ++ back := fun h => (List.mem_append.1 h).elim hfront.1 hback.1
    have hflat : Flat false (sweep registry (.fresh args) including).text := by
      rw [hsource, hframed]
      exact flat_of_not_mem hplain
    rw [expand_of_flat_sweep hflat hlimit, hsource, hframed, hsame, hcontext,
      unescape_of_brace_not_mem hplain]
    rfl

/-- A body with an escaped brace, a stray one of each kind and a rejected expression, and a URL without a
body. -/
theorem expand_inclusion_unbalanced :
    let registry := Registry.builtins .standard (some fun url =>
      if url = ['u'] then .ok "\\\x7b\x7d\x7b\x7badd:x\x7d".toList else .error .missingUrl)
    expand registry 3 [] "<\x7btext:u\x7d>".toList =
        .ok ⟨"<\x7b\x7d\x7b\x7badd:x\x7d>".toList,
          ["add: not all input operands are valid numbers".toList]⟩ ∧
      expand registry 3 [] "<\x7btext:\x7d>".toList = .ok ⟨"<>".toList, ["text: no URL given".toList]⟩ := by
  intro registry
  have hget : registry.get? (Builtin.opcode .text) = some (.text fun url =>
    if url = ['u'] then .ok "\\\x7b\x7d\x7b\x7badd:x\x7d".toList else .error .missingUrl) := rfl
  have hfront : '{' ∉ ['<'] ∧ '}' ∉ ['<'] := by decide
  have hback : '{' ∉ ['>'] ∧ '}' ∉ ['>'] := by decide
  refine ⟨?_, ?_⟩
  · have hurl : '{' ∉ ['u'] ∧ '}' ∉ ['u'] ∧ '|' ∉ ['u'] := by decide
    have hpasted : expand registry 2 [] "<\\\x7b\x7d\x7b\x7badd:x\x7d>".toList =
        .ok ⟨"<\x7b\x7d\x7b\x7badd:x\x7d>".toList,
          ["add: not all input operands are valid numbers".toList]⟩ :=
      (expand_of_converged (by decide +kernel)).trans (congrArg Except.ok (by decide +kernel))
    obtain ⟨hbody, -⟩ := expand_inclusion hget hurl hfront (by decide) hback []
    obtain ⟨e, hincluded, he⟩ | ⟨e, -, he⟩ := hbody _ rfl (by decide) 2
    · exact hincluded.trans (he.symm.trans hpasted)
    · cases he.symm.trans hpasted
  · have hurl : '{' ∉ ([] : Text) ∧ '}' ∉ ([] : Text) ∧ '|' ∉ ([] : Text) := by decide
    obtain ⟨-, hcause⟩ := expand_inclusion hget hurl hfront (by decide) hback []
    exact hcause _ rfl 3 (by decide)

end TemplateExpansion
