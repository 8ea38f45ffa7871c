/-
# Call by value

Passes over a written template compute what its interpretation yields.

A reduction of the text is followed from left to right (`Reduction.Stands`).  What is written so far
ends in a gap, in which no match is complete, and the rest of the template lies ahead as it is written.
One item later its interpretation has been written in its place (`Item.leads`).  An item that is not
stuck passes nothing, so the opening brace in front of it still waits; behind a stuck item no opening
brace is left in the gap, so the closing brace of an enclosing expression meets none
(`Reduction.Advances`).

With `Course.exists_end` this gives `expand_render`: the expansion of a written template is its
interpretation.
-/
import TemplateExpansion.Proofs.Batching
import TemplateExpansion.Proofs.Template

namespace TemplateExpansion

open Text

/-! ## 1. One operation -/

/-- **In contexts that agree, an occurrence fares as its expression does.** -/
theorem Expression.perform_eq {registry : Registry} (h : registry.Tame) {e : Expression} {inner : Text}
    (hp : .parse inner = e) (he : ∀ t ∈ e.operands, Inert t) {a b : Context} (hab : a.Agrees b)
    (hs : Store.All Inert a.values) (ha : a.CaughtUp) :
    (Occurrence.of registry a inner).evaluation.text = (e.perform registry b).text ∧
      (Occurrence.of registry a inner).isExecuted = !(e.perform registry b).stuck ∧
      (Occurrence.of registry a inner).evaluation.context.Agrees (e.perform registry b).context := by
  rw [Occurrence.isExecuted, Occurrence.of, hp]
  unfold evaluate perform
  cases hop : registry.get? e.opcode with
  | none => exact ⟨rfl, rfl, hab⟩
  | some op =>
    have hmem := Registry.mem_of_get? hop
    simp only [h.reads.firstFailure_eq hmem e a b]
    cases op.firstFailure e b with
    | some r => exact ⟨rfl, rfl, (Context.reject_agrees_report (ha _)).trans (hab.report _ _)⟩
    | none =>
      simp only [Operation.run, ← (h.reads op hmem).execute e a b hab.values]
      exact ⟨trivial, rfl, hab.applyAll (h.preserves op hmem e a he hs).2⟩

theorem Text.Avoids.inert {t : Text} (h : Avoids marks t) : Inert t :=
  inert_of_not_mem (h.not_mem (by decide)) (h.not_mem (by decide))

theorem Text.Clean.inert {t : Text} (h : t.Clean) : Inert t :=
  (h.mono marks_subset_operandMarks).inert

/-! ## 2. Where a reduction stands -/

namespace Reduction

/-- The reduction has written the text, of which the gap is not passed, and the text ahead comes
next. -/
structure Stands (registry : Registry) (r : Reduction) (written gap ahead : Text) (ctx : Context) :
    Prop where
  text : Passed.textOf r.passed ++ gap = written
  rest : r.rest = gap ++ ahead
  quiet : Cut.first? false gap = none
  backslash : '\\' ∉ written
  context : r.context.Agrees ctx
  values : Store.All Clean ctx.values
  sound : r.Sound registry

/-- Steps lead from one gap to another.  Unless an expression got stuck they pass nothing, and if one
did they leave no opening brace. -/
structure Advances (registry : Registry) (r : Reduction) (gap : Text) (stuck : Bool) (r' : Reduction)
    (gap' : Text) : Prop where
  reaches : Reaches registry r r'
  passed : stuck = false → r'.passed = r.passed
  closed : stuck = true ∨ '{' ∉ gap → '{' ∉ gap'

/-- From where it stands, the reduction writes what was read. -/
def Leads (registry : Registry) (r : Reduction) (written gap ahead : Text) (out : Reading) : Prop :=
  ∃ r' gap', r.Advances registry gap out.stuck r' gap' ∧
    r'.Stands registry (written ++ out.text) gap' ahead out.context

variable {registry : Registry} {r r' r'' : Reduction} {written gap gap' gap'' ahead t : Text}
  {ctx : Context} {stuck stuck' : Bool}

theorem Advances.trans (h : r.Advances registry gap stuck r' gap')
    (h' : r'.Advances registry gap' stuck' r'' gap'') :
    r.Advances registry gap (stuck || stuck') r'' gap'' := by
  refine ⟨h.reaches.trans h'.reaches, fun hs => ?_, fun hs => h'.closed ?_⟩
  · obtain ⟨h1, h2⟩ := Bool.or_eq_false_iff.1 hs
    exact (h'.passed h2).trans (h.passed h1)
  · cases stuck' with
    | true => exact .inl rfl
    | false => exact .inr (h.closed (by simpa using hs))

theorem Advances.refl (r : Reduction) (gap : Text) : r.Advances registry gap false r gap :=
  ⟨.refl r, fun _ => rfl, fun h => h.resolve_left (by simp)⟩

/-- Text without an opening brace joins the gap. -/
theorem Advances.write (registry : Registry) (r : Reduction) (gap : Text) (ht : '{' ∉ t) :
    r.Advances registry gap false r (gap ++ t) := by
  refine ⟨.refl r, fun _ => rfl, fun h hm => ?_⟩
  exact (List.mem_append.1 hm).elim (h.resolve_left (by simp)) ht

/-- Text without a closing brace completes no match. -/
theorem Stands.write (h : r.Stands registry written gap (t ++ ahead) ctx) (hc : '}' ∉ t)
    (hb : '\\' ∉ t) : r.Stands registry (written ++ t) (gap ++ t) ahead ctx := by
  refine ⟨?_, ?_, Cut.first?_append_eq_none h.quiet hc, ?_, h.context, h.values, h.sound⟩
  · rw [← List.append_assoc, h.text]
  · rw [h.rest, List.append_assoc]
  · exact fun hm => (List.mem_append.1 hm).elim h.backslash hb

/-- A closing brace meets no opening one. -/
theorem Stands.close (h : r.Stands registry written gap ('}' :: ahead) ctx) (ho : '{' ∉ gap) :
    r.Stands registry (written ++ ['}']) (gap ++ ['}']) ahead ctx := by
  refine ⟨?_, ?_, ?_, ?_, h.context, h.values, h.sound⟩
  · rw [← List.append_assoc, h.text]
  · rw [h.rest, List.append_assoc, List.singleton_append]
  · exact Cut.first?_of_flat (flat_of_not_mem (by simpa using ho))
  · simpa using h.backslash

/-- If nothing was passed, all that was written lies in the gap. -/
theorem Stands.gap_eq {ahead' : Text} {ctx' : Context}
    (h : r.Stands registry written gap ahead ctx)
    (h' : r'.Stands registry (written ++ t) gap' ahead' ctx') (hp : r'.passed = r.passed) :
    gap' = gap ++ t := by
  have htext := h'.text
  rw [hp, ← h.text, List.append_assoc] at htext
  exact List.append_cancel_left htext

/-! ## 3. One expression -/

/-- What lies behind the text written last. -/
theorem Stands.before (h : r.Stands registry (written ++ t) (gap ++ t) ahead ctx) :
    Passed.textOf r.passed ++ gap = written ∧ '\\' ∉ written := by
  refine ⟨?_, fun hm => h.backslash (List.mem_append_left _ hm)⟩
  have htext := h.text
  rw [← List.append_assoc] at htext
  exact List.append_cancel_right htext

/-- Where contexts agree, an occurrence fares as its expression does. -/
theorem Stands.perform_eq (hs : r.Stands registry written gap ahead ctx) (h : registry.Tame)
    {e : Expression} (hp : .parse e.inner = e) (hclean : ∀ t ∈ e.operands, t.Clean) :
    (Occurrence.of registry r.context e.inner).evaluation.text = (e.perform registry ctx).text ∧
      (Occurrence.of registry r.context e.inner).isExecuted = !(e.perform registry ctx).stuck ∧
      (Occurrence.of registry r.context e.inner).evaluation.context.Agrees
        (e.perform registry ctx).context :=
  Expression.perform_eq h hp (fun t ht => (hclean t ht).inert) hs.context hs.sound.values
    hs.sound.caughtUp

section

variable {e : Expression}
  (hs : r.Stands registry (written ++ '{' :: e.inner) (gap ++ '{' :: e.inner) ('}' :: ahead) ctx)
  (hquiet : Cut.first? false gap = none) (hi : Inert e.inner)

include hs hquiet hi

/-- With its closing brace the expression is the first match of the rest. -/
theorem Stands.first?_rest : Cut.first? false r.rest = some ⟨gap, e.inner, ahead⟩ := by
  obtain ⟨htext, hnone⟩ := hs.before
  have hescaped : escapedAfter false gap = false :=
    escapedAfter_of_not_mem fun hm => hnone (htext ▸ List.mem_append_right _ hm)
  exact Cut.first?_eq_some_iff.2 ⟨by simp [hs.rest, Cut.whole], hquiet, hescaped, hi⟩

variable (h : registry.Tame) (hp : .parse e.inner = e) (hclean : ∀ t ∈ e.operands, t.Clean)

include h hp hclean

/-- If the operation runs, its outcome joins the gap. -/
theorem Stands.perform_executed (hr : registry.Preserves Clean)
    (hstuck : (e.perform registry ctx).stuck = false) :
    r.Leads registry written gap ahead (e.perform registry ctx) := by
  obtain ⟨htext, hnone⟩ := hs.before
  have hcut := hs.first?_rest hquiet hi
  obtain ⟨h1, h2, h3⟩ := hs.perform_eq h hp hclean
  obtain ⟨h4, h5⟩ := Expression.perform_clean hr hclean hs.values
  have hc := h5 hstuck
  have hx : (Occurrence.of registry r.context e.inner).isExecuted = true := by rw [h2, hstuck]; rfl
  have hwrite := Advances.write registry r gap (hc.not_mem (by decide))
  refine ⟨_, gap ++ (e.perform registry ctx).text, ⟨.head (next?_of_executed hcut hx) (.refl _),
    fun _ => rfl, hstuck ▸ hwrite.closed⟩, ⟨?_, ?_, ?_, ?_, h3, h4, hs.sound.execute h hcut hx⟩⟩
  · rw [← List.append_assoc]
    exact congrArg (· ++ _) htext
  · rw [execute, h1]
  · exact Cut.first?_append_eq_none hquiet (hc.not_mem (by decide))
  · exact fun hm => (List.mem_append.1 hm).elim hnone (hc.not_mem (by decide))

/-- If not, the expression is passed, and nothing is left of the gap. -/
theorem Stands.perform_stuck (hr : registry.Preserves Clean)
    (hstuck : (e.perform registry ctx).stuck = true) :
    r.Leads registry written gap ahead (e.perform registry ctx) := by
  obtain ⟨htext, hnone⟩ := hs.before
  have hcut := hs.first?_rest hquiet hi
  obtain ⟨h1, h2, h3⟩ := hs.perform_eq h hp hclean
  have h4 := (Expression.perform_clean hr hclean hs.values).1
  have hx : (Occurrence.of registry r.context e.inner).isExecuted = false := by rw [h2, hstuck]; rfl
  have hsource : (e.perform registry ctx).text = Cut.braced e.inner := h1.symm.trans (Occurrence.text_of hx)
  refine ⟨_, [], ⟨.head (next?_of_not hcut hx) (.refl _), fun hc => absurd hc (by simp [hstuck]),
    fun _ => List.not_mem_nil⟩, ⟨?_, rfl, rfl, ?_, h3, h4, hs.sound.pass h hcut hx⟩⟩
  · rw [pass, Passed.textOf_concat, List.append_nil, ← List.append_assoc, htext, hsource]
  · have hb := hs.backslash
    rw [hsource, Cut.braced]
    simpa using hb

/-- **An expression whose operands are written is performed.** -/
theorem Stands.perform (hr : registry.Preserves Clean) :
    r.Leads registry written gap ahead (e.perform registry ctx) := by
  cases hstuck : (e.perform registry ctx).stuck with
  | false => exact hs.perform_executed hquiet hi h hp hclean hr hstuck
  | true => exact hs.perform_stuck hquiet hi h hp hclean hr hstuck

end

end Reduction

/-! ## 4. Whole templates -/

/-- What was read of operands, each after its separator. -/
def Readings.led (separator : Char) (read : Readings) : Reading :=
  ⟨Text.led separator read.texts, read.stuck, read.context⟩

/-- A closing brace behind operands that were read.  If one of them is stuck no opening brace is left,
and if none is the expression has just become the first match. -/
theorem Reduction.Leads.close {registry : Registry} (h : registry.Tame)
    (hr : registry.Preserves Clean) {opcode : Text} (ho : opcode.Avoids opcodeMarks) {read : Readings}
    (hclean : read.stuck = false → ∀ t ∈ read.texts, t.Clean) {r : Reduction}
    {written gap ahead t : Text} {ctx : Context} (hs : r.Stands registry written gap t ctx)
    (hlead : r.Leads registry (written ++ '{' :: opcode) (gap ++ '{' :: opcode) ('}' :: ahead)
      (read.led ':')) :
    r.Leads registry written gap ahead
      (if read.stuck then ⟨(Expression.ofOperands opcode read.texts).source, true, read.context⟩
        else (Expression.ofOperands opcode read.texts).perform registry read.context) := by
  obtain ⟨r', gap', h1, h2⟩ := hlead
  have hinner := Expression.inner_ofOperands opcode read.texts
  cases hstuck : read.stuck with
  | true =>
    have hclosed := h1.closed (.inl hstuck)
    rw [if_pos rfl]
    refine ⟨r', gap' ++ ['}'], ⟨h1.reaches, by simp, fun _ => by simpa using hclosed⟩, ?_⟩
    have hclose := h2.close hclosed
    simpa [Readings.led, Expression.source, hinner] using hclose
  | false =>
    have hc := hclean hstuck
    have hi := (Expression.inner_avoids ho hc).inert
    have hp := Expression.parse_ofOperands (ho.not_mem (by decide))
      fun t ht => (hc t ht).not_mem (by decide)
    have hwritten : written ++ '{' :: opcode ++ (read.led ':').text =
        written ++ '{' :: (Expression.ofOperands opcode read.texts).inner := by
      simp [Readings.led, hinner]
    rw [hwritten] at h2
    -- Nothing was passed since the opening brace, so it still waits where the gap ended then.
    have hgap := hs.gap_eq h2 (h1.passed hstuck)
    rw [hgap] at h2
    obtain ⟨r2, gap2, h3, h4⟩ := h2.perform hs.quiet hi h hp (Expression.clean_ofOperands hc) hr
    exact ⟨r2, gap2, ⟨h1.reaches.trans h3.reaches, fun hx => (h3.passed hx).trans (h1.passed hstuck),
      h3.closed⟩, h4⟩

mutual

/-- **A reduction that stands before an item as it is written leads to its interpretation.** -/
theorem Item.leads {registry : Registry} (h : registry.Tame) (hr : registry.Preserves Clean)
    {cs : List Char} (hm : marks ⊆ cs) {i : Item}
    (hi : i.isWellFormed cs = true) {r : Reduction} {written gap ahead : Text} {ctx : Context}
    (hs : r.Stands registry written gap (i.render ++ ahead) ctx) :
    r.Leads registry written gap ahead (i.interpret registry ctx) := by
  cases i with
  | literal t =>
    have ht : t.Avoids marks := (by simpa [Item.isWellFormed] using hi : t.Avoids cs).mono hm
    exact ⟨r, gap ++ t, .write registry r gap (ht.not_mem (by decide)),
      hs.write (ht.not_mem (by decide)) (ht.not_mem (by decide))⟩
  | node opcode operands =>
    simp only [Item.isWellFormed, Bool.and_eq_true, decide_eq_true_eq] at hi
    obtain ⟨ho, hall⟩ := hi
    have hrender : (Item.node opcode operands).render ++ ahead =
        '{' :: opcode ++ (Text.led ':' (Template.renderAll operands) ++ '}' :: ahead) := by
      simp [Item.render, Expression.source, Expression.inner_ofOperands]
    rw [hrender] at hs
    have hopen := hs.write (by simpa using ho.not_mem (by decide))
      (by simpa using ho.not_mem (by decide))
    have hlead := Template.leadsAll h hr hall (by decide) hopen
    exact hlead.close h hr ho (Template.interpretAll_clean hr hall hs.values).2 hs

/-- So does one before a template. -/
theorem Template.leads {registry : Registry} (h : registry.Tame) (hr : registry.Preserves Clean)
    {cs : List Char} (hm : marks ⊆ cs) {t : Template}
    (ht : Template.isWellFormed cs t = true) {r : Reduction} {written gap ahead : Text}
    {ctx : Context} (hs : r.Stands registry written gap (Template.render t ++ ahead) ctx) :
    r.Leads registry written gap ahead (Template.interpret registry t ctx) := by
  cases t with
  | nil =>
    exact ⟨r, gap, .refl r gap, by simpa [Template.render, Template.interpret] using hs⟩
  | cons i t =>
    simp only [Template.isWellFormed, Bool.and_eq_true] at ht
    rw [Template.render, List.append_assoc] at hs
    obtain ⟨r1, gap1, h1, h2⟩ := Item.leads h hr hm ht.1 hs
    obtain ⟨r2, gap2, h3, h4⟩ := Template.leads h hr hm ht.2 h2
    rw [List.append_assoc] at h4
    exact ⟨r2, gap2, h1.trans h3, h4⟩

/-- So does one before operands, each after its separator. -/
theorem Template.leadsAll {registry : Registry} (h : registry.Tame) (hr : registry.Preserves Clean)
    {ts : List Template} (ht : Template.allWellFormed ts = true) {separator : Char}
    (hsep : separator ∉ marks) {r : Reduction} {written gap ahead : Text} {ctx : Context}
    (hs : r.Stands registry written gap (Text.led separator (Template.renderAll ts) ++ ahead) ctx) :
    r.Leads registry written gap ahead ((Template.interpretAll registry ts ctx).led separator) := by
  cases ts with
  | nil =>
    refine ⟨r, gap, .refl r gap, ?_⟩
    simpa [Template.renderAll, Text.led, Template.interpretAll, Readings.led] using hs
  | cons t ts =>
    simp only [Template.allWellFormed, Bool.and_eq_true] at ht
    have hrender : Text.led separator (Template.renderAll (t :: ts)) ++ ahead =
        [separator] ++ (Template.render t ++ (Text.led '|' (Template.renderAll ts) ++ ahead)) := by
      simp [Template.renderAll, Text.led]
    simp only [marks, List.mem_cons, List.not_mem_nil, or_false, not_or] at hsep
    rw [hrender] at hs
    have hwrite := Reduction.Advances.write registry r gap (t := [separator])
      (by simpa using Ne.symm hsep.1)
    obtain ⟨r1, gap1, h1, h2⟩ := Template.leads h hr marks_subset_operandMarks ht.1
      (hs.write (by simpa using Ne.symm hsep.2.1) (by simpa using Ne.symm hsep.2.2))
    obtain ⟨r2, gap2, h3, h4⟩ := Template.leadsAll h hr ht.2 (by decide) h2
    refine ⟨r2, gap2, ?_, ?_⟩
    · have hadvances := hwrite.trans (h1.trans h3)
      rwa [Bool.false_or] at hadvances
    · simpa [Template.interpretAll, Readings.led, Text.led] using h4

end

/-! ## 5. Whole runs -/

/-- Before its first step a reduction has written nothing. -/
theorem Reduction.stands_start (registry : Registry) (args : List Text) (input : Text) :
    (start (.fresh args) input).Stands registry [] [] input (.fresh args) :=
  ⟨rfl, rfl, rfl, List.not_mem_nil, .refl _, Store.all_nil, sound_start args input⟩

/-- **A run over a written template ends with its interpretation.** -/
theorem Template.run_render {registry : Registry} (h : registry.Tame) (hr : registry.Preserves Clean)
    {t : Template} (ht : isWellFormed marks t = true) (args : List Text) {limit : Nat}
    (hlimit : nodes t < limit) {p : Progress}
    (hp : p = Progress.run registry limit (.start (.fresh args) (render t))) :
    p.converged = true ∧ p.working = (interpret registry t (.fresh args)).text ∧
      '\\' ∉ p.working ∧ p.context.Agrees (interpret registry t (.fresh args)).context := by
  have hcount : (render t).count '}' < limit := by rwa [count_render (by decide) ht]
  obtain ⟨r, h1, h2, hconverged, hmatched⟩ :=
    Course.exists_end h WorkingText.heeds_waits args (render t) hcount
  -- The reduction that reads the template ends too, so the two end in one state.
  have hstart := Reduction.stands_start registry args (render t)
  rw [← List.append_nil (render t)] at hstart
  obtain ⟨r', gap, h3, h4⟩ := Template.leads h hr (fun _ h => h) ht hstart
  rw [List.append_nil] at h3
  have hend : r'.next? registry = none := by
    rw [Reduction.next?_eq_none, h4.rest, List.append_nil]
    exact h4.quiet
  obtain rfl := Reduction.reaches_unique h1 h3.reaches h2 hend
  have hrun := Course.toProgress_run registry limit (.start (.fresh args) (render t))
  have hworking : p.working = (interpret registry t (.fresh args)).text := by
    have htext := hmatched.text
    rw [hrun, Reduction.text, h4.rest, List.append_nil, h4.text, List.nil_append] at htext
    rw [hp]
    exact htext
  have hcontext := hmatched.context.trans h4.context
  rw [hrun] at hconverged hcontext
  refine ⟨?_, hworking, ?_, ?_⟩
  · rw [hp]
    exact hconverged
  · rw [hworking]
    exact h4.backslash
  · rw [hp]
    exact hcontext

/-- Without backslashes there is nothing to drop. -/
theorem Text.unescape_of_not_mem {t : Text} (h : '\\' ∉ t) : t.unescape = t :=
  unescape_eq_self fun hsub => h (hsub.subset List.mem_cons_self)

theorem Text.IsNumeral.clean {t : Text} (h : IsNumeral t) : t.Clean := by
  intro c hc hm
  have hchar := h c hc
  simp only [operandMarks, marks, List.mem_cons, List.not_mem_nil, or_false] at hm
  rcases hm with rfl | rfl | rfl | rfl <;> exact absurd hchar (by decide)

/-- **Nested templates are evaluated by value.**  Whatever template is written, its expansion by the
built-in operations without `text` is its interpretation, with the same text and the same log, if the
limit is above the number of expressions. -/
theorem expand_render (settings : Settings) (args : List Text) {t : Template}
    (ht : Template.isWellFormed marks t = true) {limit : Nat} (hlimit : Template.nodes t < limit) :
    expand (.builtins settings none) limit args (Template.render t) =
      .ok ⟨(Template.interpret (.builtins settings none) t (.fresh args)).text,
        (Template.interpret (.builtins settings none) t (.fresh args)).context.errors⟩ := by
  have htame : (Registry.builtins settings none).Tame := Registry.builtins_tame settings (by simp)
  have hclean : (Registry.builtins settings none).Preserves Clean :=
    Registry.builtins_preserves settings (fun t ht => ht.clean)
      (fun s t hs ht => avoids_append.2 ⟨hs, ht⟩) (by simp)
  obtain ⟨hconverged, hworking, hnone, hcontext⟩ := Template.run_render htame hclean ht args hlimit rfl
  rw [expand_of_converged hconverged, Progress.expanded, unescape_of_not_mem hnone, hworking,
    hcontext.errors]

/-- An expression within an operand, and one that gets stuck within another. -/
def Template.nested : Template :=
  [.literal ['|'],
    .node "set".toList [[.literal ['k']], [.node "get".toList [[.literal ['n']]], .literal ['v']]],
    .node "add".toList [[.node "get".toList [[.literal ['k']]]], [.node "set".toList []]]]

/-- The inner `set` is checked and logged; the `add` around it is neither. -/
theorem expand_render_nested :
    Template.isWellFormed marks Template.nested = true ∧ Template.nodes Template.nested < 6 ∧
      expand (.builtins .standard none) 6 []
          "|\x7bset:k|\x7bget:n\x7dv\x7d\x7badd:\x7bget:k\x7d|\x7bset\x7d\x7d".toList =
        .ok ⟨"|\x7badd:v|\x7bset\x7d\x7d".toList,
          ["set: both a key and a value are required".toList]⟩ :=
  ⟨by decide, by decide, expand_render .standard [] (t := Template.nested) (by decide) (by decide)⟩

end TemplateExpansion
