/-
# What a history leaves in the log

Two kinds of thing happen to the context of a run: a pass starts, or a change is made.  A history is a list
of such events in any order, and it falls into passes (`Passes.of`): what comes before the first start of
a pass counts as one.

`Context.reject` decides about the log from two counters that it carries along.  This file tells from the
history alone what they hold: how often a rejection occurred in the pass that is going on, and how often at
most in one of the earlier passes (`Context.find_replay`).  From this follows `history_log`: of a rejection
the log holds as many entries as its fullest pass has occurrences.
-/
import Mathlib.Data.List.Induction
import TemplateExpansion.Context

namespace TemplateExpansion

/-! ## 1. Events -/

/-- One thing that happens to a context. -/
inductive Event where
  /-- A pass starts. -/
  | pass
  /-- A change is made. -/
  | change (change : Change)
  deriving Repr, DecidableEq

namespace Change

/-- The change rejects an occurrence with this source and this message. -/
def rejects (key : Rejection) : Change → Bool
  | .reject source _ message => (⟨source, message⟩ : Rejection) == key
  | _ => false

theorem eq_reject_of_rejects {key : Rejection} {c : Change} (h : c.rejects key = true) :
    ∃ opcode, c = .reject key.source opcode key.message := by
  cases c with
  | set name value => cases h
  | report opcode message => cases h
  | reject source opcode message => exact ⟨opcode, eq_of_beq h ▸ rfl⟩

end Change

namespace Event

/-- The event rejects an occurrence with this source and this message. -/
def rejects (key : Rejection) : Event → Bool
  | .pass => false
  | .change c => c.rejects key

/-- The event starts a pass or rejects an occurrence with this source and this message. -/
def concerns (key : Rejection) (e : Event) : Bool := e == .pass || e.rejects key

end Event

namespace Context

/-- The context after an event. -/
def step (ctx : Context) : Event → Context
  | .pass => ctx.beginPass
  | .change c => ctx.apply c

/-- The context after a history. -/
def replay (ctx : Context) (history : List Event) : Context := history.foldl step ctx

/-- The entries that an event adds to the log. -/
def added (ctx : Context) (e : Event) : List Text := (ctx.step e).errors.drop ctx.errors.length

end Context

/-- An event of a history, with the entries that it added to the log. -/
structure Addition where
  event : Event
  entries : List Text
  deriving Repr, DecidableEq

/-- The events of a history, with the entries that each of them adds to the log. -/
def Context.additions (ctx : Context) : List Event → List Addition
  | [] => []
  | e :: history => ⟨e, ctx.added e⟩ :: (ctx.step e).additions history

/-! ## 2. Passes -/

/-- The passes of a history: those that are over, and the one that is going on. -/
structure Passes where
  earlier : List (List Change)
  current : List Change
  deriving Repr, DecidableEq

namespace Passes

/-- The start of a pass ends the one before, and a change belongs to the pass that is going on. -/
def add (p : Passes) : Event → Passes
  | .pass => ⟨p.earlier ++ [p.current], []⟩
  | .change c => ⟨p.earlier, p.current ++ [c]⟩

/-- The passes of a history. -/
def of (history : List Event) : Passes := history.foldl add ⟨[], []⟩

/-- All passes, in order. -/
def all (p : Passes) : List (List Change) := p.earlier ++ [p.current]

theorem of_concat (history : List Event) (e : Event) : of (history ++ [e]) = (of history).add e := by
  simp [of]

/-- The history that falls into the passes. -/
def events (p : Passes) : List Event :=
  p.earlier.flatMap (fun pass => pass.map .change ++ [.pass]) ++ p.current.map .change

/-- **A history is its passes**, with a start between each and the next. -/
theorem events_of (history : List Event) : (of history).events = history := by
  induction history using List.reverseRecOn with
  | nil => rfl
  | append_singleton history e ih =>
    have hadd : ∀ p : Passes, (p.add e).events = p.events ++ [e] := fun p => by
      cases e <;> simp [add, events]
    rw [of_concat, hadd, ih]

end Passes

/-- How often a pass rejects an occurrence with this source and this message. -/
def occurrences (key : Rejection) (pass : List Change) : Nat := pass.countP (Change.rejects key)

/-- How often at most one of the passes does. -/
def peak (key : Rejection) (passes : List (List Change)) : Nat :=
  (passes.map (occurrences key)).foldl max 0

theorem peak_concat (key : Rejection) (passes : List (List Change)) (pass : List Change) :
    peak key (passes ++ [pass]) = max (peak key passes) (occurrences key pass) := by
  simp [peak]

theorem occurrences_concat (key : Rejection) (pass : List Change) (c : Change) :
    occurrences key (pass ++ [c]) = occurrences key pass + if c.rejects key then 1 else 0 := by
  rw [occurrences, List.countP_append, List.countP_singleton]
  rfl

/-- **The peak is the maximum**: it is below a positive number exactly when every pass is. -/
theorem peak_lt_iff {key : Rejection} {passes : List (List Change)} {n : Nat} (hn : 0 < n) :
    peak key passes < n ↔ ∀ pass ∈ passes, occurrences key pass < n := by
  induction passes using List.reverseRecOn with
  | nil => simpa [peak] using hn
  | append_singleton passes pass ih =>
    rw [peak_concat, Nat.max_lt, ih]
    simp [or_imp, forall_and]

/-! ## 3. What the counters hold -/

namespace Context

theorem replay_concat (ctx : Context) (history : List Event) (e : Event) :
    ctx.replay (history ++ [e]) = (ctx.replay history).step e := by
  simp [replay]

theorem rejections_reject_eq (ctx : Context) (source opcode message : Text) :
    (ctx.reject source opcode message).rejections = ctx.rejections.record ⟨source, message⟩ := by
  rw [reject]
  split <;> rfl

/-- **One change, one count**: a change counts for the rejection that it is, and for no other. -/
theorem find_apply (ctx : Context) (c : Change) (key : Rejection) :
    (ctx.apply c).rejections.find key =
      if c.rejects key then (ctx.rejections.find key).count else ctx.rejections.find key := by
  cases c with
  | set name value => rfl
  | report opcode message => rfl
  | reject source opcode message =>
    rw [apply, rejections_reject_eq, Ledger.find_record]
    by_cases hkey : key = ⟨source, message⟩
    · subst hkey
      simp [Change.rejects]
    · have hne : ((⟨source, message⟩ : Rejection) == key) = false := by simpa using Ne.symm hkey
      simp [Change.rejects, hkey, hne]

/-- **The counters of a rejection** after a history hold how often it occurred at most in one of the
earlier passes, and how often in the one that is going on. -/
theorem find_replay (args : List Text) (history : List Event) (key : Rejection) :
    ((fresh args).replay history).rejections.find key =
      ⟨key, peak key (Passes.of history).earlier, occurrences key (Passes.of history).current⟩ := by
  induction history using List.reverseRecOn with
  | nil => rfl
  | append_singleton history e ih =>
    rw [replay_concat, Passes.of_concat]
    cases e with
    | pass => rw [step, beginPass, Ledger.find_beginPass, ih, Passes.add, peak_concat]; rfl
    | change c =>
      rw [step, find_apply, ih, Passes.add, occurrences_concat]
      cases c.rejects key <;> rfl

/-! ## 4. What is logged -/

theorem errors_prefix_step (ctx : Context) (e : Event) : ctx.errors <+: (ctx.step e).errors := by
  cases e with
  | pass => exact List.prefix_rfl
  | change c => exact errors_prefix_apply ctx c

theorem errors_step (ctx : Context) (e : Event) : (ctx.step e).errors = ctx.errors ++ ctx.added e :=
  (List.prefix_iff_eq_append.1 (errors_prefix_step ctx e)).symm

theorem added_report (ctx : Context) (opcode message : Text) :
    ctx.added (.change (.report opcode message)) = [entry opcode message] := by
  simp [added, step, apply, report]

/-- A rejection is logged when its pass by now has more of them than any earlier one. -/
theorem added_reject (ctx : Context) (key : Rejection) (opcode : Text) :
    ctx.added (.change (.reject key.source opcode key.message)) =
      if (ctx.rejections.find key).earlier < (ctx.rejections.find key).current + 1
      then [entry opcode key.message] else [] := by
  rw [added, step, apply, reject]
  by_cases h : (ctx.rejections.find key).earlier < (ctx.rejections.find key).current + 1 <;>
    simp [h, report]

theorem additions_concat (ctx : Context) (history : List Event) (e : Event) :
    ctx.additions (history ++ [e]) = ctx.additions history ++ [⟨e, (ctx.replay history).added e⟩] := by
  induction history generalizing ctx with
  | nil => rfl
  | cons f history ih => exact congrArg (_ :: ·) (ih (ctx.step f))

/-- **Nothing else is logged** than what the events add, one after the other. -/
theorem errors_replay (ctx : Context) (history : List Event) :
    (ctx.replay history).errors = ctx.errors ++ (ctx.additions history).flatMap Addition.entries := by
  induction history using List.reverseRecOn with
  | nil => exact (List.append_nil _).symm
  | append_singleton history e ih =>
    rw [replay_concat, errors_step, ih, additions_concat]
    simp

/-- The rejections of a history with this source and this message, each with what it adds to the log. -/
def additionsOf (ctx : Context) (key : Rejection) (history : List Event) : List Addition :=
  (ctx.additions history).filter fun a => a.event.rejects key

/-- The entries that they add, in order. -/
def logged (ctx : Context) (key : Rejection) (history : List Event) : List Text :=
  (ctx.additionsOf key history).flatMap Addition.entries

theorem logged_concat (ctx : Context) (key : Rejection) (history : List Event) (e : Event) :
    ctx.logged key (history ++ [e]) =
      ctx.logged key history ++ if e.rejects key then (ctx.replay history).added e else [] := by
  rw [logged, additionsOf, additions_concat, List.filter_append, List.flatMap_append]
  cases h : e.rejects key <;> simp [h, logged, additionsOf]

/-- A rejection is logged when its ordinal in its pass is above its count in every earlier pass. -/
theorem added_rejection (args : List Text) (history : List Event) (key : Rejection) (opcode : Text) :
    ((fresh args).replay history).added (.change (.reject key.source opcode key.message)) =
      if ∀ pass ∈ (Passes.of history).earlier,
          occurrences key pass < occurrences key (Passes.of history).current + 1
      then [entry opcode key.message] else [] := by
  rw [added_reject, find_replay]
  exact if_congr (peak_lt_iff (Nat.succ_pos _)) rfl rfl

/-- **As many entries as the fullest pass has occurrences.** -/
theorem length_logged (args : List Text) (history : List Event) (key : Rejection) :
    ((fresh args).logged key history).length = peak key (Passes.of history).all := by
  rw [Passes.all, peak_concat]
  induction history using List.reverseRecOn with
  | nil => rfl
  | append_singleton history e ih =>
    rw [logged_concat, List.length_append, ih, Passes.of_concat]
    cases e with
    | pass =>
      rw [Passes.add, peak_concat]
      exact (Nat.max_zero _).symm
    | change c =>
      rw [Passes.add, occurrences_concat]
      cases hc : c.rejects key with
      | false => simp [Event.rejects, hc]
      | true =>
        -- The counter rises, and the maximum with it, unless an earlier pass came as far.
        obtain ⟨opcode, rfl⟩ := Change.eq_reject_of_rejects hc
        rw [Event.rejects, if_pos hc, if_pos rfl, added_reject, find_replay]
        split <;> simp only [List.length_singleton, List.length_nil] at * <;> omega

theorem additionsOf_cons (ctx : Context) (key : Rejection) (e : Event) (history : List Event) :
    ctx.additionsOf key (e :: history) =
      (if e.rejects key then [⟨e, ctx.added e⟩] else []) ++ (ctx.step e).additionsOf key history := by
  rw [additionsOf, additions, List.filter_cons]
  cases h : e.rejects key <;> rfl

/-- **Rejections with another source or message play no part**, and neither do stored values and
reports: without them the same rejections add the same. -/
theorem additionsOf_filter {ctx other : Context} {key : Rejection}
    (h : ctx.rejections.find key = other.rejections.find key) (history : List Event) :
    ctx.additionsOf key history = other.additionsOf key (history.filter (Event.concerns key)) := by
  induction history generalizing ctx other with
  | nil => rfl
  | cons e history ih =>
    rw [additionsOf_cons]
    cases e with
    | pass =>
      have hnext : (ctx.step .pass).rejections.find key = (other.step .pass).rejections.find key := by
        rw [step, step, beginPass, beginPass, Ledger.find_beginPass, Ledger.find_beginPass, h]
      rw [ih hnext, List.filter_cons_of_pos rfl, additionsOf_cons]
      rfl
    | change c =>
      cases hc : c.rejects key with
      | false =>
        have hnext : (ctx.step (.change c)).rejections.find key = other.rejections.find key := by
          rw [step, find_apply, hc, ← h]
          rfl
        rw [ih hnext, List.filter_cons_of_neg (by simp [Event.concerns, Event.rejects, hc]),
          Event.rejects, hc]
        rfl
      | true =>
        have hnext : (ctx.step (.change c)).rejections.find key =
            (other.step (.change c)).rejections.find key := by
          rw [step, step, find_apply, find_apply, h]
        have hadded : ctx.added (.change c) = other.added (.change c) := by
          obtain ⟨opcode, rfl⟩ := Change.eq_reject_of_rejects hc
          rw [added_reject, added_reject, h]
        rw [ih hnext, List.filter_cons_of_pos (by simp [Event.concerns, Event.rejects, hc]),
          additionsOf_cons, hadded]

end Context

/-! ## 5. The law of the log -/

/-- **Rejections are logged by the maximum over passes.**  A history is its passes with a start between each
and the next, and after any history from a fresh context:

* the rejections with one source and one message have added as many entries to the log as there are of them
  in the pass that has most of them;
* one more of them is logged exactly when its ordinal in the pass that is going on is above the number in
  every earlier pass;
* one more report is logged, whatever was rejected;
* the log holds what the events have added to it and nothing else;
* without all other rejections, the reports and the stored values the same rejections add the same. -/
theorem history_log (args : List Text) (key : Rejection) (history : List Event) :
    let start := Context.fresh args
    let passes := Passes.of history
    passes.events = history ∧
      (start.logged key history).length = peak key passes.all ∧
      (∀ opcode, (start.replay history).added (.change (.reject key.source opcode key.message)) =
        if ∀ pass ∈ passes.earlier, occurrences key pass < occurrences key passes.current + 1
        then [Context.entry opcode key.message] else []) ∧
      (∀ opcode message, (start.replay history).added (.change (.report opcode message)) =
        [Context.entry opcode message]) ∧
      (start.replay history).errors = (start.additions history).flatMap Addition.entries ∧
      start.additionsOf key history = start.additionsOf key (history.filter (Event.concerns key)) := by
  intro start passes
  exact ⟨Passes.events_of history, Context.length_logged args history key,
    Context.added_rejection args history key, Context.added_report _,
    Context.errors_replay start history, Context.additionsOf_filter rfl history⟩

/-- Three passes reject the same occurrence once, twice and once; it is logged twice. -/
example :
    let reject := Event.change (.reject "\x7bset:k\x7d".toList "set".toList "no value".toList)
    ((Context.fresh []).replay [.pass, reject, .pass, reject, reject, .pass, reject]).errors =
      ["set: no value".toList, "set: no value".toList] := by decide

end TemplateExpansion
