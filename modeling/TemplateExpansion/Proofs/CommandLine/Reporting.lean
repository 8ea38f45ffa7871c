/-
# The command line shows what an expansion comes to

Settings and a template are found where the options say (`Configures`, `Supplies`), or the run fails before anything
is expanded.  The program finds exactly these (`loadSettings_eq_ok_iff`, `loadTemplate_eq_ok_iff`).  Then it shows
what the expansion comes to and nothing else (`Reports`), wherever the template came from.  Only an expansion that
is aborted comes to nothing, and then there is no report.  A failure is one line, since neither the settings nor a
template tell of themselves on more than one.
-/
import TemplateExpansion.CommandLine.Report
import TemplateExpansion.Proofs.Acceptance
import TemplateExpansion.Proofs.CommandLine.Reading
import TemplateExpansion.Proofs.Limits
import TemplateExpansion.Proofs.Repetition
import TemplateExpansion.Proofs.Settings.Diagnostics

namespace TemplateExpansion
namespace CommandLine

/-! ## 1. What the program finds -/

/-- The options ask for an expansion and for nothing beside it. -/
def Options.Plain (o : Options) : Prop := o.list = false ∧ o.verbose = false

namespace Surroundings

/-- The settings under a path are these; without a path they are the standard ones. -/
def Configures (around : Surroundings) : Option Text → Settings → Prop
  | none, settings => settings = .standard
  | some path, settings =>
    ∃ document, around.file path = .bytes document ∧ Settings.read document = .ok settings

/-- The template is this text: the argument, else what a file holds, else what the input holds. -/
def Supplies (around : Surroundings) : Option Text → Option Text → Text → Prop
  | some argument, _, t => argument = t
  | none, some path, t => around.file path = .bytes (Utf8.encode t)
  | none, none, t => around.input = .bytes (Utf8.encode t)

end Surroundings

/-- The system says on one line why there are no bytes to read. -/
def Content.Terse (content : Content) : Prop :=
  ∀ reason, content = .closed reason ∨ content = .unreadable reason → '\n' ∉ reason

/-- The system says on one line why it does not hand over a file or the input. -/
def Surroundings.Terse (around : Surroundings) : Prop :=
  (∀ path, (around.file path).Terse) ∧ around.input.Terse

theorem loadSettings_eq_ok_iff {around : Surroundings} {path : Option Text} {settings : Settings} :
    loadSettings around path = .ok settings ↔ around.Configures path settings := by
  cases path with
  | none => simp [loadSettings, Surroundings.Configures, eq_comm]
  | some path =>
    simp only [loadSettings, Surroundings.Configures]
    split <;> simp_all

theorem readTemplate_eq_ok_iff {origin : String} {content : Content} {t : Text} :
    readTemplate origin content = .ok t ↔ content = .bytes (Utf8.encode t) := by
  cases content with
  | closed reason => simp [readTemplate]
  | unreadable reason => simp [readTemplate]
  | bytes b =>
    rw [Content.bytes.injEq, ← Utf8.decode?_eq_some_iff, readTemplate]
    split <;> simp_all

theorem loadTemplate_eq_ok_iff {around : Surroundings} {o : Options} {t : Text} :
    loadTemplate around o = .ok t ↔ around.Supplies o.template o.file t := by
  obtain ⟨template, file, args, config, list, verbose⟩ := o
  cases template with
  | some argument => simp [loadTemplate, Surroundings.Supplies]
  | none =>
    cases file with
    | none => exact readTemplate_eq_ok_iff
    | some path => exact readTemplate_eq_ok_iff

/-! ## 2. Failures on one line -/

theorem newline_not_mem_internal {message : Text} (h : '\n' ∉ message) :
    '\n' ∉ (Failure.internal message).message := by
  have hmessage : '\n' ∉ "Internal error: ".toList ++ message := by simp [h]
  exact hmessage

theorem newline_not_mem_settings {cause : Settings.Error} (h : '\n' ∉ cause.message) :
    '\n' ∉ (Failure.settings cause).message := by
  have hmessage : '\n' ∉ "Config error: ".toList ++ cause.message := by simp [h]
  exact hmessage

theorem newline_not_mem_of_loadSettings {around : Surroundings} (hterse : around.Terse) {path : Option Text}
    {cause : Settings.Error} (h : loadSettings around path = .error cause) : '\n' ∉ cause.message := by
  cases path with
  | none => cases h
  | some path =>
    simp only [loadSettings] at h
    split at h
    · exact Settings.newline_not_mem_message_of_read h
    · rename_i reason hfile
      cases h
      have hmessage : '\n' ∉ "Failed to open config file: ".toList ++ reason := by
        simp [hterse.1 path reason (.inl hfile)]
      exact hmessage
    · rename_i reason hfile
      cases h
      have hmessage : '\n' ∉ "Failed to parse config: ".toList ++ reason := by
        simp [hterse.1 path reason (.inr hfile)]
      exact hmessage

theorem newline_not_mem_unreadableTemplate {origin : String} (horigin : '\n' ∉ origin.toList) {reason : Text}
    (h : '\n' ∉ reason) : '\n' ∉ (unreadableTemplate origin reason).message :=
  newline_not_mem_internal (by simp [horigin, h])

theorem newline_not_mem_of_readTemplate {origin : String} (horigin : '\n' ∉ origin.toList) {content : Content}
    (hterse : content.Terse) {failure : Failure} (h : readTemplate origin content = .error failure) :
    '\n' ∉ failure.message := by
  cases content with
  | closed reason =>
    cases h
    exact newline_not_mem_unreadableTemplate horigin (hterse reason (.inl rfl))
  | unreadable reason =>
    cases h
    exact newline_not_mem_unreadableTemplate horigin (hterse reason (.inr rfl))
  | bytes b =>
    simp only [readTemplate] at h
    split at h
    · cases h
    · cases h
      exact newline_not_mem_unreadableTemplate horigin (by decide)

theorem newline_not_mem_of_loadTemplate {around : Surroundings} (hterse : around.Terse) {o : Options}
    {failure : Failure} (h : loadTemplate around o = .error failure) : '\n' ∉ failure.message := by
  unfold loadTemplate at h
  split at h
  · cases h
  · exact newline_not_mem_of_readTemplate (by decide) (hterse.1 _) h
  · exact newline_not_mem_of_readTemplate (by decide) hterse.2 h

/-- Nothing is shown but a failure. -/
theorem failed_eq (failure : Failure) :
    failed failure = ⟨1, [], "Error: ".toList ++ failure.message ++ ['\n']⟩ := by
  simp [failed, failureLine, lines]

/-! ## 3. Expansions -/

/-- The report shows what an expansion under a limit came to.  The output is the text, with a line break if none
ends it; the diagnostics are the errors, each on a line of its own, and then that the text did not settle, if it
did not. -/
structure Reports (limit : Nat) (r : Except ExpansionError Expanded) (report : Report) : Prop where
  output : report.output = (Expanded.ofResult r).text ++
    if (Expanded.ofResult r).text.getLast? = some '\n' then [] else ['\n']
  ok : ∀ e, r = .ok e → report.code = 0 ∧ report.diagnostics = (e.errors.map (· ++ ['\n'])).flatten
  error : ∀ n e, r = .error (.nonConvergent n e) → report.code = 1 ∧
    report.diagnostics = (e.errors.map (· ++ ['\n'])).flatten ++
      ("Error: Parse error: input did not converge after ".toList ++ Nat.toDigits 10 limit ++
        " passes\n".toList)

theorem withLineEnd_eq (t : Text) :
    withLineEnd t = t ++ if t.getLast? = some '\n' then [] else ['\n'] := by
  unfold withLineEnd Text.endsWith
  split <;> simp_all

theorem lines_eq (ts : List Text) : lines ts = (ts.map (· ++ ['\n'])).flatten :=
  List.flatMap_def ..

/-- The limit is the number of passes of an expansion that did not settle. -/
theorem iterations_eq_of_expand {registry : Registry} {limit n : Nat} {args : List Text} {t : Text} {e : Expanded}
    (h : expand registry limit args t = .error (.nonConvergent n e)) : n = limit := by
  have hlimit := expand_of_changes (expand_eq_error_iff.1 ⟨_, h⟩)
  rw [h] at hlimit
  cases hlimit
  rfl

/-- The last line about a text that did not settle. -/
theorem failureLine_nonConvergent (n : Nat) (e : Expanded) :
    failureLine (.expansion (.nonConvergent n e)) = "Error: Parse error: input did not converge after ".toList ++
      Nat.toDigits 10 n ++ " passes\n".toList := by
  have hmessage : (Failure.expansion (.nonConvergent n e)).message = "Parse error: ".toList ++
      ("input did not converge after ".toList ++ Nat.toDigits 10 n ++ " passes".toList) := rfl
  rw [failureLine, lines_eq, hmessage]
  simp

/-- **An expansion is reported** as it ended. -/
theorem reports_reportExpansion (registry : Registry) (limit : Nat) (args : List Text) (t : Text) :
    Reports limit (expand registry limit args t) (reportExpansion (expand registry limit args t)) := by
  cases hr : expand registry limit args t with
  | ok e =>
    refine ⟨withLineEnd_eq e.text, ?_, ?_⟩
    · rintro _ ⟨⟩
      exact ⟨rfl, lines_eq e.errors⟩
    · rintro n reached ⟨⟩
  | error cause =>
    obtain ⟨n, e⟩ := cause
    obtain rfl := iterations_eq_of_expand hr
    refine ⟨withLineEnd_eq e.text, ?_, ?_⟩
    · rintro reached ⟨⟩
    · rintro _ _ ⟨⟩
      refine ⟨rfl, ?_⟩
      rw [← lines_eq, ← failureLine_nonConvergent]
      rfl

/-! ## 4. Runs -/

variable {around : Surroundings} {o : Options} {settings : Settings} {t : Text}

/-- With settings and a template a run is an expansion and its report. -/
theorem execute_of_loaded (hplain : o.Plain) (hsettings : around.Configures o.config settings)
    (htemplate : around.Supplies o.template o.file t) :
    execute around (.expand o) = (expand? (.standard settings (Http.fetch settings around.transport))
      settings.maxIterations o.args t).map reportExpansion := by
  simp [execute, run, loadSettings_eq_ok_iff.2 hsettings, hplain.1, loadTemplate_eq_ok_iff.2 htemplate]

/-- Without settings or without a template a run shows a failure. -/
theorem execute_of_not_loaded (hplain : o.Plain) (h : (∀ settings, ¬ around.Configures o.config settings) ∨
    ∀ t, ¬ around.Supplies o.template o.file t) :
    ∃ failure, execute around (.expand o) = some (failed failure) ∧
      (around.Terse → '\n' ∉ failure.message) := by
  cases hsettings : loadSettings around o.config with
  | error cause =>
    refine ⟨.settings cause, by simp [execute, run, hsettings], fun hterse => ?_⟩
    exact newline_not_mem_settings (newline_not_mem_of_loadSettings hterse hsettings)
  | ok settings =>
    cases htemplate : loadTemplate around o with
    | error failure =>
      refine ⟨failure, by simp [execute, run, hsettings, hplain.1, htemplate], fun hterse => ?_⟩
      exact newline_not_mem_of_loadTemplate hterse htemplate
    | ok t =>
      rcases h with h | h
      · exact absurd (loadSettings_eq_ok_iff.1 hsettings) (h settings)
      · exact absurd (loadTemplate_eq_ok_iff.1 htemplate) (h t)

/-- **The command line shows what the library makes of a template.**  Whatever arguments are accepted, without
`--list` and `--verbose`, they say one thing only, and the options hold it: the template or the file, the values of
`--arg` in their order, and the path of the settings.

* With settings and a template there is a report exactly if the expansion of this template, under these settings and
  with these values, has a result, as it always has if the settings do not let `repeat` go beyond the size of a
  text.  The report shows this result, and the number of passes it names is the limit in the settings.
* It is the same report for all options with these values, in all surroundings that answer requests alike, as long
  as the same settings and the same template are found: as an argument, in a file or as the input.
* Without settings or without a template there is no output and one line about the failure, provided that the system
  gives its reasons on one line. -/
theorem execute_reports_expansion {arguments : List Text} {o : Options}
    (hread : read arguments = .ok (.expand o)) (hplain : o.Plain) :
    (∃ given, Spelled arguments given ∧ (∀ other, Spelled arguments other → other = given) ∧ o = .ofGiven given) ∧
      (∀ around settings t, around.Configures o.config settings → around.Supplies o.template o.file t →
        let r? := expand? (.standard settings (Http.fetch settings around.transport)) settings.maxIterations
          o.args t
        (∀ r ∈ r?, ∃ report, execute around (.expand o) = some report ∧ Reports settings.maxIterations r report) ∧
          (r? = none → execute around (.expand o) = none) ∧
          (settings.maxRepeatBytes ≤ Text.maxByteSize → ∃ r, r ∈ r?)) ∧
      (∀ around around' o' settings t, o'.Plain → o'.args = o.args → around'.transport = around.transport →
        around.Configures o.config settings → around'.Configures o'.config settings →
        around.Supplies o.template o.file t → around'.Supplies o'.template o'.file t →
        execute around' (.expand o') = execute around (.expand o)) ∧
      ∀ around, (∀ settings, ¬ around.Configures o.config settings) ∨
          (∀ t, ¬ around.Supplies o.template o.file t) →
        ∃ message, execute around (.expand o) = some ⟨1, [], "Error: ".toList ++ message ++ ['\n']⟩ ∧
          (around.Terse → '\n' ∉ message) := by
  refine ⟨?_, ?_, ?_, ?_⟩
  · obtain ⟨given, hspelled, ho⟩ := exists_spelled_of_read hread
    exact ⟨given, hspelled, fun _ hother => hspelled.unique hother, ho⟩
  · intro around settings t hsettings htemplate r?
    have hexecute : execute around (.expand o) = r?.map reportExpansion :=
      execute_of_loaded hplain hsettings htemplate
    refine ⟨fun r hr => ?_, fun hnone => ?_, fun hbytes => ?_⟩
    · obtain rfl := expand?_eq_some hr
      exact ⟨_, hexecute.trans (congrArg (Option.map reportExpansion) hr), reports_reportExpansion ..⟩
    · exact hexecute.trans (congrArg (Option.map reportExpansion) hnone)
    · have hsome := expand?_builtins hbytes (some (Http.fetch settings around.transport)) settings.maxIterations
        o.args t
      rw [Registry.builtins_some] at hsome
      exact ⟨_, hsome⟩
  · intro around around' o' settings t hplain' hargs htransport hsettings hsettings' htemplate htemplate'
    rw [execute_of_loaded hplain hsettings htemplate, execute_of_loaded hplain' hsettings' htemplate', hargs,
      htransport]
  · intro around h
    obtain ⟨failure, hexecute, hline⟩ := execute_of_not_loaded hplain h
    exact ⟨failure.message, hexecute.trans (congrArg some (failed_eq failure)), hline⟩

/-- The circle constant does not settle in one pass: only a second one would find nothing to change. -/
theorem expand_pi_once (settings : Settings) (fetch : Fetcher) (args : List Text) :
    expand (.standard settings fetch) 1 args "\x7bpi\x7d".toList =
      .error (.nonConvergent 1 ⟨"3.141592653589793".toList, []⟩) := by
  have he : (Expression.parse "pi".toList).Written := ⟨by decide, Text.inert_of_not_mem (by decide) (by decide)⟩
  have hop : (Registry.standard settings fetch).get? (Expression.parse "pi".toList).opcode = some .circleConstant :=
    Registry.get?_builtins settings (some fetch) fetch (b := .pi) (by decide)
  have hplain : Binary64.circle.plain = "3.141592653589793".toList := by decide
  obtain ⟨htext, hcontext⟩ := sweep_source he (.standard settings fetch) (.fresh args)
  rw [Expression.source_parse, evaluate_of_firstFailure_eq_none hop rfl] at htext hcontext
  have htext' : (sweep (.standard settings fetch) (.fresh args) "\x7bpi\x7d".toList).text =
      "3.141592653589793".toList := htext.trans hplain
  have hchanges : (Progress.start (.fresh args) "\x7bpi\x7d".toList).Changes (.standard settings fetch) 1 := by
    intro i hi
    obtain rfl := Nat.lt_one_iff.1 hi
    have hne : "3.141592653589793".toList ≠ "\x7bpi\x7d".toList := by decide
    exact fun heq => hne (htext'.symm.trans heq)
  have hreached : ((Progress.start (.fresh args) "\x7bpi\x7d".toList).after (.standard settings fetch) 1).expanded =
      ⟨"3.141592653589793".toList, []⟩ :=
    congrArg₂ Expanded.mk (congrArg Text.unescape htext') (congrArg Context.errors hcontext)
  rw [expand_of_changes hchanges, hreached]

/-- One pass is allowed and the text still changes in it.  The template is the input, or an argument; and the input
cannot be read. -/
theorem execute_reports_expansion_limited :
    let around : Surroundings :=
      ⟨fun _ => .bytes (Utf8.encode "[1]".toList), .bytes (Utf8.encode "\x7bpi\x7d".toList), .unreachable⟩
    let o : Options := ⟨none, none, ["x".toList], some "s".toList, false, false⟩
    let report? := execute around (.expand o)
    read ["-cs".toList, "--arg=x".toList] = .ok (.expand o) ∧ o.Plain ∧
      report? = some ⟨1, "3.141592653589793\n".toList,
        "Error: Parse error: input did not converge after 1 passes\n".toList⟩ ∧
      execute around (.expand { o with template := some "\x7bpi\x7d".toList }) = report? ∧
      execute { around with input := .unreadable "Is a directory (os error 21)".toList } (.expand o) =
        some ⟨1, [], "Error: Internal error: Failed to read stdin: Is a directory (os error 21)\n".toList⟩ := by
  intro around o report?
  have hread : read ["-cs".toList, "--arg=x".toList] = .ok (.expand o) := rfl
  have hsettings : around.Configures o.config { Settings.standard with maxIterations := 1 } :=
    ⟨Utf8.encode "[1]".toList, rfl, rfl⟩
  have htemplate : around.Supplies o.template o.file "\x7bpi\x7d".toList := rfl
  obtain ⟨-, hreports, hsame, -⟩ := execute_reports_expansion hread ⟨rfl, rfl⟩
  obtain ⟨hresult, -, hsome⟩ := hreports around _ _ hsettings htemplate
  obtain ⟨r, hr⟩ := hsome (by decide)
  obtain ⟨⟨code, output, diagnostics⟩, hexecute, hreport⟩ := hresult r hr
  obtain rfl := (expand?_eq_some hr).trans (expand_pi_once ..)
  obtain ⟨rfl, rfl⟩ : code = 1 ∧ diagnostics = _ := hreport.error 1 _ rfl
  obtain rfl : output = _ := hreport.output
  have hagain := hsame around around _ _ _ ⟨rfl, rfl⟩ rfl rfl hsettings hsettings htemplate rfl
  exact ⟨hread, ⟨rfl, rfl⟩, hexecute, hagain, by decide +kernel⟩

end CommandLine
end TemplateExpansion
