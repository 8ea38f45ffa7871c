/-
# What a run leaves is stable

When a run has converged, its reduction has passed every span of the text that is left
(`Reduction.inners_all`), and no context executes what was passed (`Passed.Stuck`).  So the text is still
in a fresh context too, and a second run makes one pass over it, executes nothing and logs what is
rejected (`Progress.run_still`).  In the first run each of these rejections was logged once, at the time
it was passed, and nothing else was: what was rejected was never executed later.  Hence the second run
logs what the rejections of the first one added to the log (`builtins_run_stable`).

Dropping escapes gives the text itself unless a backslash before an opening brace is left in it.  None is
when the input has no backslash and no operation brings one in (`Progress.avoids_run`).
-/
import TemplateExpansion.Proofs.Batching
import TemplateExpansion.Proofs.Stillness
import TemplateExpansion.Proofs.Template

namespace TemplateExpansion

open Text

/-! ## 1. The spans that are left -/

namespace Passed

/-- The spans of passed occurrences and a rest without a match are the passed occurrences. -/
theorem inners_chain {registry : Registry} {ps : List Passed} (hps : ∀ p ∈ ps, p.Stuck registry)
    {rest : Text} (hrest : Cut.first? false rest = none) (offset : Nat) :
    (Span.chain offset false (textOf ps ++ rest)).map Span.inner = ps.map Passed.inner := by
  induction ps generalizing offset with
  | nil =>
    rw [textOf_nil, List.nil_append, Span.chain_of_none hrest]
    rfl
  | cons p ps ih =>
    obtain ⟨hp, htail⟩ := List.forall_mem_cons.1 hps
    have hcut := hp.first?_append (textOf ps ++ rest)
    rw [textOf_cons, List.append_assoc, Span.chain_of_some hcut, List.map_cons, ih htail]
    rfl

end Passed

namespace Reduction

variable {registry : Registry} {r : Reduction} (hs : r.Sound registry)

include hs

/-- **The spans of the text that a reduction leaves are the occurrences it has passed.** -/
theorem inners_all (hend : r.next? registry = none) :
    (Span.all r.text).map Span.inner = r.passed.map Passed.inner :=
  Passed.inners_chain hs.stuck (next?_eq_none.1 hend) 0

/-- No context executes any of them. -/
theorem still_of_end (hend : r.next? registry = none) (ctx : Context) :
    ∀ inner ∈ (Span.all r.text).map Span.inner, (Occurrence.of registry ctx inner).isExecuted = false := by
  intro inner hi
  rw [inners_all hs hend] at hi
  obtain ⟨p, hp, rfl⟩ := List.mem_map.1 hi
  rw [Occurrence.not_isExecuted_of, (hs.stuck p hp).outcome]
  exact (hs.stuck p hp).not_executed

/-- In any context those among them are rejected that were rejected when they were passed. -/
theorem entries_passed (hend : r.next? registry = none) (ctx : Context) :
    (Span.all r.text).filterMap (Span.entry? registry ctx) = Passed.entries r.passed := by
  have hentry : ∀ p ∈ r.passed, (evaluate registry (.parse p.inner) ctx).outcome.entry?
      (Expression.parse p.inner).opcode = p.entry? := fun p hp => by
    rw [(hs.stuck p hp).outcome, Passed.entry?]
  calc (Span.all r.text).filterMap (Span.entry? registry ctx)
      = ((Span.all r.text).map Span.inner).filterMap fun inner =>
          (evaluate registry (.parse inner) ctx).outcome.entry? (Expression.parse inner).opcode := by
        rw [List.filterMap_map]
        rfl
    _ = r.passed.filterMap fun p => (evaluate registry (.parse p.inner) ctx).outcome.entry?
          (Expression.parse p.inner).opcode := by
        rw [inners_all hs hend, List.filterMap_map]
        rfl
    _ = Passed.entries r.passed := List.filterMap_congr hentry

end Reduction

/-! ## 2. Characters that are not brought in -/

section

variable {cs : List Char} {registry : Registry} (h : registry.Preserves (Avoids cs))

include h

/-- An evaluation brings in no character that operations bring in to neither text nor stored values. -/
theorem Occurrence.avoids_of {ctx : Context} (hs : Store.All (Avoids cs) ctx.values) {inner : Text}
    (hi : inner.Avoids cs) (hb : (Cut.braced inner).Avoids cs) :
    (Occurrence.of registry ctx inner).evaluation.text.Avoids cs ∧
      Store.All (Avoids cs) (Occurrence.of registry ctx inner).evaluation.context.values := by
  have hparts (c : Char) (s t : Text) (hst : Avoids cs (s ++ c :: t)) : Avoids cs s ∧ Avoids cs t := by
    rw [avoids_append, avoids_cons] at hst
    exact ⟨hst.1, hst.2.2⟩
  have hoperands := Expression.property_operands (avoids_nil cs) (hparts ':') (hparts '|') hi
  obtain ⟨hexecuted, -, hvalues⟩ := h.evaluate hoperands hs
  refine ⟨?_, hvalues⟩
  cases hx : (Occurrence.of registry ctx inner).isExecuted with
  | true => exact hexecuted (isExecuted_of.1 hx)
  | false => rwa [text_of hx]

/-- **Neither does a run.** -/
theorem Progress.avoids_run (args : List Text) {input : Text} (ht : input.Avoids cs) (limit : Nat) :
    (run registry limit (.start (.fresh args) input)).working.Avoids cs := by
  have hrun : (run registry limit (.start (.fresh args) input)).working.Avoids cs ∧
      Store.All (Avoids cs) (run registry limit (.start (.fresh args) input)).context.values := by
    refine run_replacements (P := fun t ctx _ => t.Avoids cs ∧ Store.All (Avoids cs) ctx.values) ?_
      (fun hc => hc) limit ⟨ht, Store.all_nil⟩
    rintro s cut ctx os - ⟨ht, hs⟩
    rw [Cut.whole_eq, avoids_append, avoids_append, avoids_append] at ht
    obtain ⟨h1, ⟨h2, h3⟩, h4⟩ := ht
    have hinner : cut.inner.Avoids cs := by
      rw [Cut.braced, avoids_cons, avoids_append] at h3
      exact h3.2.1
    obtain ⟨ho, hvalues⟩ := Occurrence.avoids_of h hs hinner h3
    exact ⟨avoids_append.2 ⟨avoids_append.2 ⟨avoids_append.2 ⟨h1, h2⟩, ho⟩, h4⟩, hvalues⟩
  exact hrun.1

end

/-- The built-in operations without `text` bring in no backslash. -/
theorem Registry.builtins_preserves_avoids (settings : Settings) :
    (Registry.builtins settings none).Preserves (Avoids ['\\']) := by
  refine builtins_preserves settings (fun t ht c hc hm => ?_)
    (fun s t hs ht => avoids_append.2 ⟨hs, ht⟩) (by simp)
  obtain rfl := List.mem_singleton.1 hm
  exact absurd (ht _ hc) (by decide)

/-! ## 3. The second run -/

/-- **What a run leaves is stable, and its diagnostics are the expressions left in it.**  Unless a fetched
body holds a brace: from any arguments, a second run over what a converged run has left makes one pass,
changes nothing, visits every span and executes none.  Its log is what the rejections of the first run
added to the log, and that is one entry for every rejected span that is left, from left to right.  So if
no backslash is left before an opening brace, a second expansion gives the same text; none is left when
the input has no backslash and `text` is left out. -/
theorem builtins_run_stable (settings : Settings) (fetch? : Option Fetcher)
    (hbody : ∀ fetch ∈ fetch?, ∀ url body, fetch url = .ok body → '{' ∉ body ∧ '}' ∉ body)
    (args : List Text) (input : Text) (limit : Nat) {first : Progress}
    (hfirst : first = Progress.run (.builtins settings fetch?) limit (.start (.fresh args) input))
    (hconverged : first.converged = true) (args' : List Text) {again : Nat} (hagain : 0 < again) :
    let logged := refusals []
      (((Progress.start (.fresh args) input).visits (.builtins settings fetch?) limit).map
        Visit.occurrence)
    let second := Progress.run (.builtins settings fetch?) again (.start (.fresh args') first.working)
    let visits := (Progress.start (.fresh args') first.working).visits (.builtins settings fetch?) again
    second.converged = true ∧ second.passes = 1 ∧ second.working = first.working ∧
      visits.map Visit.span = Span.all first.working ∧ (∀ v ∈ visits, v.isExecuted = false) ∧
      second.context.errors = logged ∧
      logged = (Span.all first.working).filterMap
        (Span.entry? (.builtins settings fetch?) (.fresh args')) ∧
      expand (.builtins settings fetch?) limit args input = .ok first.expanded ∧
      (¬ ['\\', '{'] <:+: first.working →
        expand (.builtins settings fetch?) again args' first.expanded.text =
          .ok ⟨first.expanded.text, logged⟩) ∧
      (fetch? = none → '\\' ∉ input → ¬ ['\\', '{'] <:+: first.working) := by
  intro logged second visits
  have h := Registry.builtins_tame settings hbody
  obtain ⟨r, -, hend, hs, htext, -, hrefused⟩ :=
    Progress.exists_end_of_converged h args Store.all_nil input hfirst hconverged
  have hstill := r.still_of_end hs hend (.fresh args')
  have hentries := r.entries_passed hs hend (.fresh args')
  rw [← htext] at hstill hentries
  have hlogged : logged =
      (Span.all first.working).filterMap (Span.entry? (.builtins settings fetch?) (.fresh args')) :=
    (refusals_run (.builtins settings fetch?) limit (.fresh args) input).trans
      (hrefused.trans hentries.symm)
  obtain ⟨h1, h2, h3, h4, h5, -, -, h6⟩ :=
    Progress.run_still h.reads.checksValues args' hstill hagain
  have herrors : second.context.errors = logged := h6.trans hlogged.symm
  refine ⟨h1, h2, h3, h4, h5, herrors, hlogged, ?_, fun hnone => ?_, fun hfetch hinput hescaped => ?_⟩
  · rw [hfirst] at hconverged ⊢
    exact expand_of_converged hconverged
  · have hsame : first.expanded.text = first.working := unescape_eq_self hnone
    rw [hsame, expand_of_converged h1, Progress.expanded]
    exact congrArg Except.ok (congrArg₂ _ ((congrArg unescape h3).trans hsame) herrors)
  · subst hfetch
    have hinput' : input.Avoids ['\\'] := fun c hc hm => hinput (List.mem_singleton.1 hm ▸ hc)
    have havoids := Progress.avoids_run (Registry.builtins_preserves_avoids settings) args hinput' limit
    rw [← hfirst] at havoids
    exact havoids.not_mem List.mem_cons_self (hescaped.subset List.mem_cons_self)

/-- Two identical rejections around a stray closing brace: the second run logs both again. -/
theorem builtins_run_stable_rejected :
    (∀ fetch ∈ (some fun _ => .ok ['b'] : Option Fetcher), ∀ url body, fetch url = .ok body →
        '{' ∉ body ∧ '}' ∉ body) ∧
      (Progress.run (.builtins .standard (some fun _ => .ok ['b'])) 4 (.start (.fresh [])
        "\x7bset:k|\x7btext:u\x7d\x7d\x7bset:k\x7d\x7bget:k\x7d\x7d\x7bset:k\x7d".toList)).converged = true ∧
      0 < 1 ∧
      expand (.builtins .standard (some fun _ => .ok ['b'])) 4 []
          "\x7bset:k|\x7btext:u\x7d\x7d\x7bset:k\x7d\x7bget:k\x7d\x7d\x7bset:k\x7d".toList =
        .ok ⟨"\x7bset:k\x7db\x7d\x7bset:k\x7d".toList,
          ["set: both a key and a value are required".toList,
            "set: both a key and a value are required".toList]⟩ ∧
      expand (.builtins .standard (some fun _ => .ok ['b'])) 1 [['a']]
          "\x7bset:k\x7db\x7d\x7bset:k\x7d".toList =
        .ok ⟨"\x7bset:k\x7db\x7d\x7bset:k\x7d".toList,
          ["set: both a key and a value are required".toList,
            "set: both a key and a value are required".toList]⟩ := by
  have hbody : ∀ fetch ∈ (some fun _ => .ok ['b'] : Option Fetcher), ∀ url body,
      fetch url = .ok body → '{' ∉ body ∧ '}' ∉ body :=
    Fetcher.forall_body (P := fun body => '{' ∉ body ∧ '}' ∉ body) (by decide)
  have hconverged : (Progress.run (.builtins .standard (some fun _ => .ok ['b'])) 4 (.start (.fresh [])
      "\x7bset:k|\x7btext:u\x7d\x7d\x7bset:k\x7d\x7bget:k\x7d\x7d\x7bset:k\x7d".toList)).converged = true := by
    decide +kernel
  obtain ⟨-, -, -, -, -, -, hlogged, hfirst, hsecond, -⟩ :=
    builtins_run_stable .standard _ hbody [] _ 4 rfl hconverged [['a']] Nat.one_pos
  have htext : (Progress.run (.builtins .standard (some fun _ => .ok ['b'])) 4 (.start (.fresh [])
      "\x7bset:k|\x7btext:u\x7d\x7d\x7bset:k\x7d\x7bget:k\x7d\x7d\x7bset:k\x7d".toList)).expanded.text =
        "\x7bset:k\x7db\x7d\x7bset:k\x7d".toList := by decide +kernel
  have hnone : ¬ ['\\', '{'] <:+: (Progress.run (.builtins .standard (some fun _ => .ok ['b'])) 4
      (.start (.fresh []) "\x7bset:k|\x7btext:u\x7d\x7d\x7bset:k\x7d\x7bget:k\x7d\x7d\x7bset:k\x7d".toList)).working := by
    decide +kernel
  have hagain := hsecond hnone
  rw [hlogged, htext] at hagain
  refine ⟨hbody, hconverged, Nat.one_pos, hfirst.trans (congrArg Except.ok (by decide +kernel)), ?_⟩
  exact hagain.trans (congrArg Except.ok (by decide +kernel))

end TemplateExpansion
