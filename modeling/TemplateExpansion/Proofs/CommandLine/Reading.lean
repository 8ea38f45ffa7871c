/-
# What a command line says

Arguments say what the template is, what the value of an option is, or that a switch is on.  How these are spelled
is told here apart from the reader, which takes them in on its way: in a row of letters (`Row`), in one argument
(`Argument`) and in all of them (`Spelled`).  So is what they ask for together (`Options.ofGiven`): the first
template and the first file there are, and the values of `--arg` in their order.

No row of arguments says two different things (`Spelled.unique`).  A command line that is accepted is spelled like
this, and the options hold what it says (`exists_spelled_of_read`).
-/
import TemplateExpansion.CommandLine.Options

namespace TemplateExpansion
namespace CommandLine

/-! ## 1. What is said -/

/-- One thing that a command line says. -/
inductive Given where
  | template (t : Text)
  | value (option : Valued) (v : Text)
  | switch (s : Switch)
  deriving Repr, DecidableEq

namespace Given

/-- The template, where one is given. -/
def template? : Given → Option Text
  | .template t => some t
  | _ => none

/-- The value of an option, where one is given. -/
def value? (option : Valued) : Given → Option Text
  | .value other v => if other = option then some v else none
  | _ => none

end Given

/-- What has been given altogether. -/
def Options.ofGiven (given : List Given) : Options where
  template := given.findSome? Given.template?
  file := given.findSome? (Given.value? .file)
  args := given.filterMap (Given.value? .arg)
  config := given.findSome? (Given.value? .config)
  list := given.contains (.switch .list)
  verbose := given.contains (.switch .verbose)

/-! ## 2. How it is spelled -/

/-- What a row of letters says, and the option at its end whose value is still to come. -/
inductive Row : Text → List Given → Option Valued → Prop
  | nil : Row [] [] none
  | switch {c : Char} {s : Switch} {letters : Text} {given : List Given} {awaited : Option Valued}
      (hc : Key.ofLetter? c = some (.switch s)) (hrow : Row letters given awaited) :
      Row (c :: letters) (.switch s :: given) awaited
  | awaits {c : Char} {option : Valued} (hc : Key.ofLetter? c = some (.valued option)) :
      Row [c] [] (some option)
  | equals {c : Char} {option : Valued} (hc : Key.ofLetter? c = some (.valued option)) (v : Text) :
      Row (c :: '=' :: v) [.value option v] none
  | value {c : Char} {option : Valued} (hc : Key.ofLetter? c = some (.valued option)) {v : Text}
      (hne : v ≠ []) (hv : v.head? ≠ some '=') : Row (c :: v) [.value option v] none

/-- What an argument says, and the option whose value the next one is. -/
inductive Argument : Text → List Given → Option Valued → Prop
  | template {t : Text} (ht : isOption t = false) : Argument t [.template t] none
  | row {c : Char} {letters : Text} {given : List Given} {awaited : Option Valued} (hc : c ≠ '-')
      (hrow : Row (c :: letters) given awaited) : Argument ('-' :: c :: letters) given awaited
  | switch {word : Text} {s : Switch} (hword : '=' ∉ word) (hkey : Key.ofWord? word = some (.switch s)) :
      Argument ('-' :: '-' :: word) [.switch s] none
  | awaits {word : Text} {option : Valued} (hword : '=' ∉ word)
      (hkey : Key.ofWord? word = some (.valued option)) : Argument ('-' :: '-' :: word) [] (some option)
  | equals {word : Text} {option : Valued} (hword : '=' ∉ word)
      (hkey : Key.ofWord? word = some (.valued option)) (v : Text) :
      Argument ('-' :: '-' :: (word ++ '=' :: v)) [.value option v] none

/-- What a row of arguments says.  After two dashes alone there are only templates. -/
inductive Spelled : List Text → List Given → Prop
  | nil : Spelled [] []
  | templates (ts : List Text) : Spelled (['-', '-'] :: ts) (ts.map .template)
  | argument {argument : Text} {given more : List Given} {rest : List Text}
      (hargument : Argument argument given none) (hrest : Spelled rest more) :
      Spelled (argument :: rest) (given ++ more)
  | awaited {argument v : Text} {option : Valued} {given more : List Given} {rest : List Text}
      (hargument : Argument argument given (some option)) (hv : isOption v = false)
      (hrest : Spelled rest more) :
      Spelled (argument :: v :: rest) (given ++ .value option v :: more)

/-! ## 3. One thing only -/

theorem Row.unique {letters : Text} {given given' : List Given} {awaited awaited' : Option Valued}
    (h : Row letters given awaited) (h' : Row letters given' awaited') : given' = given ∧ awaited' = awaited := by
  induction h generalizing given' awaited' with
  | nil =>
    cases h'
    exact ⟨rfl, rfl⟩
  | switch hc _ ih =>
    cases h' with
    | switch hc' hrow' =>
      obtain ⟨rfl, rfl⟩ := ih hrow'
      cases hc.symm.trans hc'
      exact ⟨rfl, rfl⟩
    | awaits hc' => cases hc.symm.trans hc'
    | equals hc' => cases hc.symm.trans hc'
    | value hc' => cases hc.symm.trans hc'
  | awaits hc =>
    cases h' with
    | switch hc' => cases hc.symm.trans hc'
    | awaits hc' =>
      cases hc.symm.trans hc'
      exact ⟨rfl, rfl⟩
    | value hc' hne => exact absurd rfl hne
  | equals hc v =>
    cases h' with
    | switch hc' => cases hc.symm.trans hc'
    | equals hc' =>
      cases hc.symm.trans hc'
      exact ⟨rfl, rfl⟩
    | value hc' _ hv => exact absurd rfl hv
  | value hc hne hv =>
    cases h' with
    | switch hc' => cases hc.symm.trans hc'
    | awaits => exact absurd rfl hne
    | equals => exact absurd rfl hv
    | value hc' =>
      cases hc.symm.trans hc'
      exact ⟨rfl, rfl⟩

/-- A word and the value behind it are cut apart in one way only. -/
theorem word_unique {word word' v v' : Text} (hword : '=' ∉ word) (hword' : '=' ∉ word')
    (h : word ++ '=' :: v = word' ++ '=' :: v') : word' = word ∧ v' = v := by
  have hsplit := Text.splitFirst_eq_some.2 ⟨h, hword'⟩
  rw [Text.splitFirst_eq_some.2 ⟨rfl, hword⟩] at hsplit
  cases hsplit
  exact ⟨rfl, rfl⟩

theorem Argument.unique {argument : Text} {given given' : List Given} {awaited awaited' : Option Valued}
    (h : Argument argument given awaited) (h' : Argument argument given' awaited') :
    given' = given ∧ awaited' = awaited := by
  cases h with
  | template ht =>
    cases h' with
    | template => exact ⟨rfl, rfl⟩
    | row => cases ht
    | switch => cases ht
    | awaits => cases ht
    | equals => cases ht
  | row hc hrow =>
    cases h' with
    | template ht => cases ht
    | row _ hrow' => exact hrow.unique hrow'
    | switch => exact absurd rfl hc
    | awaits => exact absurd rfl hc
    | equals => exact absurd rfl hc
  | switch hword hkey =>
    cases h' with
    | template ht => cases ht
    | row hc => exact absurd rfl hc
    | switch _ hkey' =>
      cases hkey.symm.trans hkey'
      exact ⟨rfl, rfl⟩
    | awaits _ hkey' => cases hkey.symm.trans hkey'
    | equals => simp at hword
  | awaits hword hkey =>
    cases h' with
    | template ht => cases ht
    | row hc => exact absurd rfl hc
    | switch _ hkey' => cases hkey.symm.trans hkey'
    | awaits _ hkey' =>
      cases hkey.symm.trans hkey'
      exact ⟨rfl, rfl⟩
    | equals => simp at hword
  | @equals word option hword hkey v =>
    -- Two ways to cut one argument at an equals sign: an equation between texts decides, not their shape.
    generalize hargument : '-' :: '-' :: (word ++ '=' :: v) = argument at h'
    cases h' with
    | template ht =>
      subst hargument
      cases ht
    | row hc =>
      cases hargument
      exact absurd rfl hc
    | switch hword' =>
      cases hargument
      simp at hword'
    | awaits hword' =>
      cases hargument
      simp at hword'
    | equals hword' hkey' =>
      simp only [List.cons.injEq, true_and] at hargument
      obtain ⟨rfl, rfl⟩ := word_unique hword hword' hargument
      cases hkey.symm.trans hkey'
      exact ⟨rfl, rfl⟩

/-- No argument but two dashes alone tells that templates follow. -/
theorem Argument.ne_dashes {argument : Text} {given : List Given} {awaited : Option Valued}
    (h : Argument argument given awaited) : argument ≠ ['-', '-'] := by
  have hempty : Key.ofWord? [] = none := by decide
  intro hdashes
  cases h with
  | template ht =>
    subst hdashes
    cases ht
  | row hc =>
    cases hdashes
    exact hc rfl
  | switch _ hkey =>
    cases hdashes
    cases hempty.symm.trans hkey
  | awaits _ hkey =>
    cases hdashes
    cases hempty.symm.trans hkey
  | equals => simp at hdashes

/-- **A row of arguments says one thing only.** -/
theorem Spelled.unique {arguments : List Text} {given given' : List Given} (h : Spelled arguments given)
    (h' : Spelled arguments given') : given' = given := by
  induction h generalizing given' with
  | nil =>
    cases h'
    rfl
  | templates ts =>
    cases h' with
    | templates => rfl
    | argument hargument => exact absurd rfl hargument.ne_dashes
    | awaited hargument => exact absurd rfl hargument.ne_dashes
  | argument hargument _ ih =>
    cases h' with
    | templates => exact absurd rfl hargument.ne_dashes
    | argument hargument' hrest' =>
      obtain ⟨rfl, -⟩ := hargument.unique hargument'
      rw [ih hrest']
    | awaited hargument' => cases (hargument.unique hargument').2
  | awaited hargument _ _ ih =>
    cases h' with
    | templates => exact absurd rfl hargument.ne_dashes
    | argument hargument' => cases (hargument.unique hargument').2
    | awaited hargument' _ hrest' =>
      obtain ⟨rfl, hoption⟩ := hargument.unique hargument'
      cases hoption
      rw [ih hrest']

/-! ## 4. Taking it in -/

namespace Options

variable {given : List Given} {o : Options}

/-- A second template would not be heard. -/
theorem ofGiven_concat_template (t : Text) : ofGiven (given ++ [.template t]) =
    { ofGiven given with template := (ofGiven given).template.or (some t) } := by
  simp [ofGiven, List.findSome?_append, Given.template?, Given.value?]

theorem ofGiven_concat_file (v : Text) : ofGiven (given ++ [.value .file v]) =
    { ofGiven given with file := (ofGiven given).file.or (some v) } := by
  simp [ofGiven, List.findSome?_append, Given.template?, Given.value?]

theorem ofGiven_concat_arg (v : Text) : ofGiven (given ++ [.value .arg v]) =
    { ofGiven given with args := (ofGiven given).args ++ [v] } := by
  simp [ofGiven, List.findSome?_append, Given.template?, Given.value?]

theorem ofGiven_concat_config (v : Text) : ofGiven (given ++ [.value .config v]) =
    { ofGiven given with config := (ofGiven given).config.or (some v) } := by
  simp [ofGiven, List.findSome?_append, Given.template?, Given.value?]

theorem eq_ofGiven_of_putTemplate {t : Text} (h : (ofGiven given).putTemplate t = .ok o) :
    o = ofGiven (given ++ [.template t]) := by
  unfold putTemplate at h
  split at h
  · cases h
  · rename_i hnone
    cases h
    rw [ofGiven_concat_template, Option.not_isSome_iff_eq_none.1 hnone, Option.none_or]

theorem eq_ofGiven_of_putValue {option : Valued} {v : Text} (h : (ofGiven given).putValue option v = .ok o) :
    o = ofGiven (given ++ [.value option v]) := by
  cases option with
  | arg =>
    cases h
    rw [ofGiven_concat_arg]
  | file =>
    simp only [putValue] at h
    split at h
    · cases h
    · split at h
      · cases h
      · rename_i hnone
        cases h
        rw [ofGiven_concat_file, Option.not_isSome_iff_eq_none.1 hnone, Option.none_or]
  | config =>
    simp only [putValue] at h
    split at h
    · cases h
    · split at h
      · cases h
      · rename_i hnone
        cases h
        rw [ofGiven_concat_config, Option.not_isSome_iff_eq_none.1 hnone, Option.none_or]

end Options

/-- A switch is taken in, or it ends the reading without anything to expand. -/
theorem putSwitch_ofGiven {given : List Given} {s : Switch} {reading : Reading}
    (h : putSwitch (.ofGiven given) s = .ok reading) :
    reading = .next (.ofGiven (given ++ [.switch s])) ∨
      ∃ command, reading = .finished command ∧ ∀ o, command ≠ .expand o := by
  cases s with
  | help =>
    cases h
    exact .inr ⟨_, rfl, fun o => Command.noConfusion⟩
  | version =>
    cases h
    exact .inr ⟨_, rfl, fun o => Command.noConfusion⟩
  | list | verbose =>
    simp only [putSwitch] at h
    split at h
    · cases h
    · cases h
      refine .inl ?_
      simp [Options.ofGiven, List.findSome?_append, Given.template?, Given.value?]

/-- Reading has gone on from what was given with something that is spelled as it should be, or it has ended without
anything to expand. -/
def Reading.Extends (given : List Given) (spelled : List Given → Option Valued → Prop) : Reading → Prop
  | .next o => ∃ more, spelled more none ∧ o = .ofGiven (given ++ more)
  | .awaits o option => ∃ more, spelled more (some option) ∧ o = .ofGiven (given ++ more)
  | .finished command => ∀ o, command ≠ .expand o

namespace Reading

variable {given : List Given} {spelled : List Given → Option Valued → Prop} {reading : Reading}

/-- What goes on from more goes on from less. -/
theorem Extends.of_concat {g : Given} {after : List Given → Option Valued → Prop}
    (h : reading.Extends (given ++ [g]) after)
    (hspelled : ∀ more awaited, after more awaited → spelled (g :: more) awaited) :
    reading.Extends given spelled := by
  cases reading with
  | next o =>
    obtain ⟨more, hmore, ho⟩ := h
    exact ⟨g :: more, hspelled more none hmore, by rw [ho, ← List.append_cons]⟩
  | awaits o option =>
    obtain ⟨more, hmore, ho⟩ := h
    exact ⟨g :: more, hspelled more (some option) hmore, by rw [ho, ← List.append_cons]⟩
  | finished command => exact h

theorem Extends.imp {whole : List Given → Option Valued → Prop} (h : reading.Extends given spelled)
    (hwhole : ∀ more awaited, spelled more awaited → whole more awaited) : reading.Extends given whole := by
  cases reading with
  | next o =>
    obtain ⟨more, hmore, ho⟩ := h
    exact ⟨more, hwhole more none hmore, ho⟩
  | awaits o option =>
    obtain ⟨more, hmore, ho⟩ := h
    exact ⟨more, hwhole more (some option) hmore, ho⟩
  | finished command => exact h

theorem extends_awaits {option : Valued} (h : spelled [] (some option)) :
    (Reading.awaits (.ofGiven given) option).Extends given spelled :=
  ⟨[], h, by rw [List.append_nil]⟩

/-- Options that take in one thing and go on. -/
theorem extends_of_map {taken : Except UsageError Options} {g : Given} (h : spelled [g] none)
    (htaken : ∀ o, taken = .ok o → o = .ofGiven (given ++ [g])) (hreading : taken.map .next = .ok reading) :
    reading.Extends given spelled := by
  cases taken with
  | error cause => cases hreading
  | ok o =>
    cases hreading
    exact ⟨[g], h, htaken o rfl⟩

theorem extends_of_putSwitch {s : Switch} (h : spelled [.switch s] none)
    (hput : putSwitch (.ofGiven given) s = .ok reading) : reading.Extends given spelled := by
  rcases putSwitch_ofGiven hput with rfl | ⟨command, rfl, hcommand⟩
  · exact ⟨_, h, rfl⟩
  · exact hcommand

end Reading

/-- **A row of letters is taken in** as it is spelled. -/
theorem extends_of_readLetters {argument letters : Text} {given : List Given} {reading : Reading}
    (h : readLetters argument (.ofGiven given) letters = .ok reading) : reading.Extends given (Row letters) := by
  induction letters generalizing given with
  | nil =>
    cases h
    exact ⟨[], .nil, by rw [List.append_nil]⟩
  | cons c letters ih =>
    unfold readLetters at h
    split at h
    · cases h
    · rename_i option hc
      split at h
      · cases h
        exact Reading.extends_awaits (.awaits hc)
      · exact Reading.extends_of_map (.equals hc _) (fun _ => Options.eq_ofGiven_of_putValue) h
      · rename_i hne hequals
        have hhead : letters.head? ≠ some '=' := by
          intro hhead
          obtain ⟨v, rfl⟩ := List.head?_eq_some_iff.1 hhead
          exact hequals v rfl
        exact Reading.extends_of_map (.value hc hne hhead)
          (fun _ => Options.eq_ofGiven_of_putValue) h
    · rename_i s hc
      cases hput : putSwitch (.ofGiven given) s with
      | error cause =>
        rw [hput] at h
        cases h
      | ok taken =>
        rcases putSwitch_ofGiven hput with rfl | ⟨command, rfl, hcommand⟩
        · rw [hput] at h
          exact (ih h).of_concat fun _ _ hrow => .switch hc hrow
        · rw [hput] at h
          cases h
          exact hcommand

/-- **An argument is taken in** as it is spelled. -/
theorem extends_of_readArgument {argument : Text} {given : List Given} {reading : Reading}
    (h : readArgument (.ofGiven given) argument = .ok reading) : reading.Extends given (Argument argument) := by
  unfold readArgument at h
  split at h
  · split at h
    · rename_i word hword
      rw [Text.splitFirst_eq_none] at hword
      unfold readWord at h
      split at h
      · cases h
      · rename_i option hkey
        cases h
        exact Reading.extends_awaits (.awaits hword hkey)
      · rename_i s hkey
        exact Reading.extends_of_putSwitch (.switch hword hkey) h
    · rename_i whole word v hsplit
      obtain ⟨rfl, hword⟩ := Text.splitFirst_eq_some.1 hsplit
      unfold readWord at h
      split at h
      · cases h
      · rename_i option hkey
        exact Reading.extends_of_map (.equals hword hkey v) (fun _ => Options.eq_ofGiven_of_putValue) h
      · cases h
  · rename_i c letters hdash
    exact (extends_of_readLetters h).imp fun _ _ hrow => .row hdash hrow
  · rename_i hword hletters
    have htemplate : isOption argument = false := by
      cases argument with
      | nil => rfl
      | cons d rest =>
        cases rest with
        | nil => simp [isOption]
        | cons c letters =>
          have hd : d ≠ '-' := fun hd => hletters c letters (by rw [hd])
          simp [isOption, hd]
    exact Reading.extends_of_map (.template htemplate) (fun _ => Options.eq_ofGiven_of_putTemplate) h

theorem eq_ofGiven_of_complete {given : List Given} {o : Options}
    (h : complete (.ofGiven given) = .ok (.expand o)) : o = .ofGiven given := by
  unfold complete at h
  split at h
  · cases h
  · cases h
    rfl

/-- Behind two dashes alone every argument is a template. -/
theorem eq_ofGiven_of_readTemplates {ts : List Text} {given : List Given} {o : Options}
    (h : readTemplates (.ofGiven given) ts = .ok (.expand o)) :
    o = .ofGiven (given ++ ts.map .template) := by
  induction ts generalizing given with
  | nil => rw [eq_ofGiven_of_complete h, List.map_nil, List.append_nil]
  | cons t ts ih =>
    simp only [readTemplates] at h
    split at h
    · cases h
    · rename_i next hput
      rw [Options.eq_ofGiven_of_putTemplate hput] at h
      rw [ih h, List.map_cons, ← List.append_cons]

/-- **What is accepted is spelled as it should be**, from whatever was given before. -/
theorem exists_spelled_of_readArguments {arguments : List Text} {given : List Given} {o : Options}
    (h : readArguments (.ofGiven given) arguments = .ok (.expand o)) :
    ∃ more, Spelled arguments more ∧ o = .ofGiven (given ++ more) := by
  -- The recursion of the reader takes one argument or two, so the induction is on that and not on the list.
  generalize hstart : Options.ofGiven given = start at h
  induction start, arguments using readArguments.induct generalizing given with
  | case1 start =>
    subst hstart
    exact ⟨[], .nil, by rw [eq_ofGiven_of_complete h, List.append_nil]⟩
  | case2 start ts =>
    subst hstart
    rw [readArguments, if_pos rfl] at h
    exact ⟨_, .templates ts, eq_ofGiven_of_readTemplates h⟩
  | case3 start argument rest hdashes cause hread =>
    rw [readArguments, if_neg hdashes, hread] at h
    cases h
  | case4 start argument rest hdashes command hread =>
    subst hstart
    rw [readArguments, if_neg hdashes, hread] at h
    exact absurd (Except.ok.inj h) (extends_of_readArgument hread o)
  | case5 start argument rest hdashes next hread ih =>
    subst hstart
    rw [readArguments, if_neg hdashes, hread] at h
    obtain ⟨said, hsaid, hnext⟩ := extends_of_readArgument hread
    obtain ⟨more, hmore, ho⟩ := ih hnext.symm h
    exact ⟨said ++ more, .argument hsaid hmore, by rw [ho, List.append_assoc]⟩
  | case6 start argument hdashes next option hread =>
    rw [readArguments, if_neg hdashes, hread] at h
    cases h
  | case7 start argument hdashes next option hread v rest hoption =>
    rw [readArguments, if_neg hdashes, hread] at h
    simp only [if_pos hoption] at h
    cases h
  | case8 start argument hdashes next option hread v rest hoption cause hput =>
    rw [readArguments, if_neg hdashes, hread] at h
    simp only [if_neg hoption, hput] at h
    cases h
  | case9 start argument hdashes next option hread v rest hoption taken hput ih =>
    subst hstart
    rw [readArguments, if_neg hdashes, hread] at h
    simp only [if_neg hoption, hput] at h
    obtain ⟨said, hsaid, rfl⟩ := extends_of_readArgument hread
    obtain ⟨more, hmore, ho⟩ := ih (Options.eq_ofGiven_of_putValue hput).symm h
    refine ⟨said ++ .value option v :: more, .awaited hsaid (Bool.eq_false_iff.2 hoption) hmore, ?_⟩
    rw [ho, List.append_assoc, List.append_assoc, List.singleton_append]

/-- **A command line that is accepted says what its options hold.** -/
theorem exists_spelled_of_read {arguments : List Text} {o : Options}
    (h : read arguments = .ok (.expand o)) : ∃ given, Spelled arguments given ∧ o = .ofGiven given := by
  have hnone : Options.none = .ofGiven [] := rfl
  rw [read, hnone] at h
  exact exists_spelled_of_readArguments h

end CommandLine
end TemplateExpansion
