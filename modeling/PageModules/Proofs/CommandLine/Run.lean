import PageModules.Proofs.CommandLine.Arguments
import PageModules.Proofs.Page.Schema

/-!
# Runs and their settings

The settings of a run come in layers: the defaults, the settings file, the environment and the
command line.  `Layers` says of each setting which layer counts, and a run is the conversion with
these settings (`run_flatMap_words`).
-/

namespace PageModules.CommandLine

/-! ### Layers -/

/-- The layers that the settings of a run come from.  Where the file says nothing, its settings are
the defaults. -/
structure Layers where
  /-- The items of the command line. -/
  items : List Item
  /-- The variables of the environment. -/
  lookup : String → Option String
  /-- The settings in the file. -/
  file : Settings

namespace Layers

/-- The name of the way of reading that is set. -/
def modeName? (l : Layers) : Option String :=
  (Item.last? Item.mode? l.items).or ((l.lookup "JTB_MODE").or l.file.conversion.mode)

/-- The threshold that is set; what is no number in the environment does not count. -/
def threshold (l : Layers) : ℕ :=
  let inVariable :=
    (l.lookup "JTB_RECOGNITION_THRESHOLD").bind fun v => Integer.unsigned32? (Text.trim v)
  ((Item.last? Item.threshold? l.items).or inVariable).getD l.file.conversion.threshold

/-- The font size that is set; what is no number in the environment does not count. -/
def baseFontSize (l : Layers) : ℤ :=
  let inVariable := (l.lookup "JTB_BASE_FONT_SIZE").bind fun v => Integer.signed64? (Text.trim v)
  inVariable.getD l.file.conversion.baseFontSize

/-- Whether something is on: by its flag, or else by its variable, or else by the file. -/
def isOn (l : Layers) (flag : Item) (variableName : String) (inFile : Bool) : Bool :=
  l.items.contains flag || ((l.lookup variableName).map Settings.isOn).getD inFile

/-- Where the document comes from. -/
def source (l : Layers) : Source :=
  match Item.last? Item.input? l.items with
  | some (some name) => .file name
  | _ => .standardInput

/-- The job with the settings of the layers and a way of reading. -/
def job (l : Layers) (mode : Option WalkMode) : Job where
  source := l.source
  options := {
    baseFontSize := max l.baseFontSize 1
    threshold := min l.threshold 100
    mode }
  categories :=
    (((l.lookup "JTB_DIAGNOSTICS").or l.file.conversion.diagnostics).map Log.categories).getD []
  pretty := l.isOn .pretty "JTB_PRETTY" l.file.output.pretty
  validate := l.isOn .validate "JTB_VALIDATE" l.file.output.validate

end Layers

/-- The way of reading that a name sets, if there is a name. -/
inductive SetsMode : Option String → Option WalkMode → Prop
  /-- There is no name. -/
  | unset : SetsMode none none
  /-- The name is known. -/
  | named {name : String} {mode : WalkMode} (h : WalkMode.ofSetting? name = some mode) :
    SetsMode (some name) (some mode)

namespace Surroundings

variable (s : Surroundings Id)

/-- There is a file with these settings. -/
def HoldsSettings (name : String) (file : Settings) : Prop :=
  ∃ text, s.read (.file name) = .ok text ∧ Settings.ofText? text = some file

/-- The settings in the file for a command line. -/
inductive HasSettings (items : List Item) : Settings → Prop
  /-- They are in the file that is named last. -/
  | named {name : String} {file : Settings}
    (hname : Item.last? Item.settingsFile? items = some name)
    (h : s.HoldsSettings name file) : HasSettings items file
  /-- No file is named, and they are in the file that is read then. -/
  | unnamed {file : Settings} (hname : Item.last? Item.settingsFile? items = none)
    (h : s.HoldsSettings Settings.defaultFile file) : HasSettings items file
  /-- No file is named, and the file that is read then does not hold settings. -/
  | missing (hname : Item.last? Item.settingsFile? items = none)
    (h : ∀ file, ¬s.HoldsSettings Settings.defaultFile file) : HasSettings items {}

variable {s} in
theorem HasSettings.fileSettings_eq {items : List Item} {file : Settings}
    (h : s.HasSettings items file) :
    (Arguments.ofItems items).fileSettings (s.read (Arguments.ofItems items).settingsSource) =
      .ok file := by
  have hname : (Arguments.ofItems items).settingsFile = Item.last? Item.settingsFile? items := rfl
  cases h with
  | named hsome h =>
    obtain ⟨text, hread, htext⟩ := h
    simp [Arguments.fileSettings, Arguments.settingsSource, hname, hsome, hread, Settings.ofFile,
      htext]
  | unnamed hnone h =>
    obtain ⟨text, hread, htext⟩ := h
    simp [Arguments.fileSettings, Arguments.settingsSource, hname, hnone, hread,
      Settings.ofOptionalFile, Except.toOption, htext]
  | missing hnone h =>
    -- A file that cannot be read and one of another form give the defaults alike.
    have hmissing : Settings.ofOptionalFile (s.read (.file Settings.defaultFile)) = {} := by
      cases hread : s.read (.file Settings.defaultFile) with
      | error reason => rfl
      | ok text =>
        have htext : Settings.ofText? text = none :=
          Option.eq_none_iff_forall_not_mem.mpr fun file hmem => h file ⟨text, hread, hmem⟩
        simp [Settings.ofOptionalFile, Except.toOption, htext]
    simp [Arguments.fileSettings, Arguments.settingsSource, hname, hnone, hmissing]

end Surroundings

/-! ### Jobs -/

namespace Layers

/-- The settings of the layers as they are merged. -/
def merged (l : Layers) : Settings :=
  (Arguments.ofItems l.items).override (l.file.override l.lookup)

theorem merged_mode (l : Layers) : l.merged.conversion.mode = l.modeName? := by
  simp [merged, Arguments.override, Settings.override, modeName?, Arguments.ofItems]

theorem merged_threshold (l : Layers) : l.merged.conversion.threshold = l.threshold := by
  simp [merged, Arguments.override, Settings.override, threshold, Arguments.ofItems,
    Integer.toOption_readUnsigned32, Option.getD_or]

theorem merged_baseFontSize (l : Layers) : l.merged.conversion.baseFontSize = l.baseFontSize := by
  simp [merged, Arguments.override, Settings.override, baseFontSize, Integer.ofText?_eq_signed64?]

theorem options_merged (l : Layers) {mode : Option WalkMode} (hmode : SetsMode l.modeName? mode) :
    l.merged.conversion.options = .ok (l.job mode).options := by
  have hmode? : l.merged.conversion.mode? = .ok mode := by
    unfold ConversionSettings.mode?
    rw [merged_mode]
    generalize l.modeName? = name at hmode
    cases hmode with
    | unset => rfl
    | named hname => simp [hname]
  simp [ConversionSettings.options, hmode?, merged_threshold, merged_baseFontSize, job, Except.map]

/-- The merged settings make up the job. -/
theorem job_ofItems (l : Layers) {contents : Except String String}
    (hfile : (Arguments.ofItems l.items).fileSettings contents = .ok l.file) :
    (Arguments.ofItems l.items).job l.lookup contents =
      l.merged.conversion.options.map fun options => { l.job none with options } := by
  have hsource : (Arguments.ofItems l.items).source = l.source := by
    unfold Arguments.source source Arguments.ofItems
    cases Item.last? Item.input? l.items with
    | none => rfl
    | some input => cases input <;> rfl
  have hdiagnostics : l.merged.conversion.diagnostics =
      (l.lookup "JTB_DIAGNOSTICS").or l.file.conversion.diagnostics := by
    simp [merged, Arguments.override, Settings.override]
  have hjob : (Arguments.ofItems l.items).job l.lookup contents =
      l.merged.conversion.options.map fun options =>
        { source := (Arguments.ofItems l.items).source
          options
          categories := (l.merged.conversion.diagnostics.map Log.categories).getD []
          pretty := l.merged.output.pretty
          validate := l.merged.output.validate } := by
    simp only [Arguments.job, hfile]
    rfl
  rw [hjob, hsource, hdiagnostics]
  rfl

theorem options_merged_eq_error (l : Layers) {name : String} (hname : l.modeName? = some name)
    (hmode : WalkMode.ofSetting? name = none) :
    l.merged.conversion.options = .error (.unknownMode name) := by
  simp [ConversionSettings.options, ConversionSettings.mode?, merged_mode, hname, hmode,
    Except.map]

end Layers

/-- A job reports the outcome of its conversion, whether it checks the form or not. -/
theorem Job.finish_ok {token : String} (htoken : IsToken token) (j : Job) (filter : Log.Filter)
    (text : String) :
    (j.finish filter token (.ok text)).output =
        [j.write ((Conversion.run j.options text).outcome token).toJson] ∧
      ((j.finish filter token (.ok text)).success = true ↔
        ∃ p, (Conversion.run j.options text).outcome token = .page p) := by
  -- The outcome of a conversion has its form, so the check makes no difference.
  have hcheck : (if j.validate then
      Schema.check ((Conversion.run j.options text).outcome token).toJson
      else .ok ()) = .ok () := by
    rw [Conversion.check_run j.options htoken, ite_self]
  have hpage : ((Conversion.run j.options text).outcome token).page?.isSome = true ↔
      ∃ p, (Conversion.run j.options text).outcome token = .page p := by
    cases (Conversion.run j.options text).outcome token <;> simp [Outcome.page?]
  simp only [finish, hcheck]
  exact ⟨trivial, hpage⟩

/-! ### Runs -/

theorem run_of_ofWords {words : List String} {a : Arguments}
    (h : Request.ofWords words = .ok (.conversion a)) (s : Surroundings Id) (token : String) :
    run s token words =
      match a.job s.lookup (s.read a.settingsSource) with
      | .error e => Report.ofFailure (.settings e)
      | .ok job =>
        job.finish (.ofVariable (s.lookup filterVariable)) token (s.read job.source) := by
  unfold run
  rw [h]
  change (match a.job s.lookup (s.read a.settingsSource) with
    | .error e => pure (Report.ofFailure (.settings e))
    | .ok job => pure (job.finish _ token (s.read job.source)) : Id Report) = _
  rfl

/-- **A run converts the document with the settings of its layers.**  Take a command line of items
that are well-formed, which is every command line that asks for a conversion
(`Request.ofWords_eq_ok_iff`).  The run fails on the name of a way of reading that is not known.
Otherwise it does the job that the layers describe, and if the document can be read, it prints the
outcome of the conversion and succeeds if that is a page. -/
theorem run_flatMap_words {items : List Item} (hitems : Item.AreWellFormed items)
    {s : Surroundings Id} {file : Settings} (hfile : s.HasSettings items file) {token : String}
    (htoken : IsToken token) :
    let l : Layers := ⟨items, s.lookup, file⟩
    let report := run s token (items.flatMap Item.words)
    (∀ name, l.modeName? = some name → WalkMode.ofSetting? name = none →
        report = .ofFailure (.settings (.unknownMode name))) ∧
      ∀ mode, SetsMode l.modeName? mode →
        report = (l.job mode).finish (.ofVariable (s.lookup filterVariable)) token
            (s.read l.source) ∧
          ∀ text, s.read l.source = .ok text →
            let outcome := (Conversion.run (l.job mode).options text).outcome token
            report.output = [(l.job mode).write outcome.toJson] ∧
              (report.success = true ↔ ∃ p, outcome = .page p) := by
  intro l report
  have hwords : Request.ofWords (items.flatMap Item.words) =
      .ok (.conversion (Arguments.ofItems items)) :=
    Request.ofWords_eq_ok_iff.mpr ⟨items, hitems, rfl, rfl⟩
  have hjob := l.job_ofItems hfile.fileSettings_eq
  have hrun := run_of_ofWords hwords s token
  constructor
  · intro name hname hmode
    rw [l.options_merged_eq_error hname hmode] at hjob
    rw [hjob] at hrun
    exact hrun
  · intro mode hmode
    rw [l.options_merged hmode] at hjob
    rw [hjob] at hrun
    have hreport : report =
        (l.job mode).finish (.ofVariable (s.lookup filterVariable)) token (s.read l.source) := hrun
    refine ⟨hreport, fun text htext => ?_⟩
    rw [hreport, htext]
    exact (l.job mode).finish_ok htoken _ text

/-- Surroundings with variables, a settings file and a blank page. -/
def blankPage : Surroundings Id where
  lookup name :=
    [("JTB_MODE", "strict"), ("JTB_BASE_FONT_SIZE", " -3 "), ("JTB_PRETTY", "0")].lookup name
  read
    | .file "jtb.toml" => .ok "[parser]\nrecognition_threshold = 170\n[output]\npretty = true\n"
    | .file "page.html" => .ok " "
    | _ => .error "not found"

/-- The last way of reading counts, the font size and the threshold are brought into their ranges,
and the variables take precedence over the file, which asks for several lines. -/
theorem run_flatMap_words_generic :
    let items : List Item := [.mode "annotated", .file "page.html", .mode "generic"]
    let file : Settings := { conversion := { threshold := 170 }, output := { pretty := true } }
    let l : Layers := ⟨items, blankPage.lookup, file⟩
    Item.AreWellFormed items ∧ blankPage.HasSettings items file ∧ IsToken "0123456789abc" ∧
      SetsMode l.modeName? (some .generic) ∧
      (l.job (some .generic)).options = ⟨1, 100, some .generic⟩ ∧
      (run blankPage "0123456789abc" (items.flatMap Item.words)).output =
        [(Outcome.failure "No root element found").toJson.compact] := by
  intro items file l
  have hitems : Item.AreWellFormed items := by
    have hname : Word.ofText "page.html" = .file "page.html" := by decide
    refine ⟨?_, by simp [items, Item.NamesOneFile, Item.input?]⟩
    simp only [items, List.forall_mem_cons]
    exact ⟨trivial, hname, trivial, List.forall_mem_nil _⟩
  have hfile : blankPage.HasSettings items file := .unnamed rfl ⟨_, rfl, by decide +kernel⟩
  have hchars : ("0123456789abc".toList.all tokenChars.contains) = true := by decide +kernel
  have htoken : IsToken "0123456789abc" :=
    ⟨by decide, fun c hc => List.contains_iff_mem.mp (List.all_eq_true.mp hchars c hc)⟩
  have hmode : SetsMode l.modeName? (some .generic) := .named (by decide +kernel)
  have hrun := ((run_flatMap_words hitems hfile htoken).2 _ hmode).2 " " rfl
  refine ⟨hitems, hfile, htoken, hmode, ?_, ?_⟩
  · rfl
  · rw [hrun.1]
    rfl

end PageModules.CommandLine
