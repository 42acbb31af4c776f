import LogLayout.Proofs.Config.Merging

namespace LogLayout.Config

/-!
# Settings of applications

Two rules of precedence meet where settings are merged and then applied to one application.
Merging takes the entry of an application as a whole, from the settings that stand first and
have one.  Applying an entry goes setting by setting: what the entry leaves open is as in the
formatter, never as in an entry that merging has passed over.
-/

/-! ## Merging -/

theorem merge_self (config : Config) : config.merge config = config := by
  unfold merge
  rw [Table.union_self, Table.union_self]

/-- Merging the same settings again adds nothing. -/
theorem merge_merge_self (config other : Config) :
    (config.merge other).merge other = config.merge other := by
  rw [merge_assoc, merge_self]

theorem get?_apps_merge (config other : Config) (name : String) :
    (config.merge other).apps.get? name = (config.apps.get? name).or (other.apps.get? name) :=
  Table.get?_union config.apps other.apps name

/-! ## Overriding -/

/-- Overriding again with the same settings changes nothing. -/
theorem override_override (app : AppSettings) (formatter : FormatterSettings) :
    app.override (app.override formatter) = app.override formatter := by
  have settled {Setting : Type} (set : Option Setting) (default : Setting) :
      set.getD (set.getD default) = set.getD default := by
    cases set <;> rfl
  unfold AppSettings.override
  rw [settled, settled, settled, settled]

section

variable (config : Config) (name : String)

theorem formatter_forApp :
    (config.forApp name).formatter =
      (config.apps.get? name).elim config.formatter fun app => app.override config.formatter := by
  unfold forApp
  cases config.apps.get? name <;> rfl

/-- An application is named after itself where the settings give no other name. -/
theorem context_forApp :
    (config.forApp name).context =
      match config.context.application with
      | none => { config.context with application := some name }
      | some _ => config.context := by
  rcases config with ⟨formatter, ⟨application, node⟩, aliases, noticeLevel, apps⟩
  cases application <;> rfl

theorem forApp_forApp : (config.forApp name).forApp name = config.forApp name := by
  have same : ((config.forApp name).forApp name).formatter = (config.forApp name).formatter := by
    rw [formatter_forApp, show (config.forApp name).apps = config.apps from rfl, formatter_forApp]
    cases config.apps.get? name with
    | none => rfl
    | some app => exact override_override app config.formatter
  calc (config.forApp name).forApp name
      = { config.forApp name with
          formatter := ((config.forApp name).forApp name).formatter } := rfl
    _ = config.forApp name := by rw [same]

theorem forApp_withApps {apps : Table AppSettings} (same : apps.get? name = config.apps.get? name) :
    ({ config with apps := apps } : Config).forApp name =
      { config.forApp name with apps := apps } := by
  unfold forApp
  dsimp only
  rw [same]

end

/-! ## Both together -/

/-- Merging takes entries as wholes and overriding takes them setting by setting.  Merging may be
done in any grouping and again with the same settings, and it changes aliases and applications
only.  What the entry that counts for an application leaves open comes from the formatter that was
merged into.  Applying settings to an application twice is applying them once; no entry of another
application has a part in it, and the application is named after itself exactly where no name is
configured. -/
theorem forApp_merge (config other further : Config) (name : String) :
    (config.merge other).merge further = config.merge (other.merge further) ∧
    (config.merge other).merge other = config.merge other ∧
    config.merge config = config ∧
    ((config.merge other).formatter = config.formatter ∧
      (config.merge other).context = config.context ∧
      (config.merge other).noticeLevel = config.noticeLevel) ∧
    (let app : AppSettings :=
        match config.apps.get? name, other.apps.get? name with
        | some own, _ => own
        | none, some added => added
        | none, none => {}
      ((config.merge other).forApp name).formatter = {
        pattern := app.pattern.getD config.formatter.pattern
        colors := app.colors.getD config.formatter.colors
        includeError := app.includeError.getD config.formatter.includeError
        timezone := app.timezone.getD config.formatter.timezone }) ∧
    (config.forApp name).forApp name = config.forApp name ∧
    ((config.forApp name).aliases = config.aliases ∧ (config.forApp name).apps = config.apps ∧
      (config.forApp name).noticeLevel = config.noticeLevel) ∧
    (∀ apps : Table AppSettings, apps.get? name = config.apps.get? name →
      ({ config with apps := apps } : Config).forApp name =
        { config.forApp name with apps := apps }) ∧
    (config.forApp name).context =
      match config.context.application with
      | none => { config.context with application := some name }
      | some _ => config.context := by
  refine ⟨config.merge_assoc other further, config.merge_merge_self other, config.merge_self,
    ⟨rfl, rfl, rfl⟩, ?_, config.forApp_forApp name, ⟨rfl, rfl, rfl⟩,
    fun _ => config.forApp_withApps name, config.context_forApp name⟩
  dsimp only
  rw [formatter_forApp, get?_apps_merge]
  cases config.apps.get? name with
  | some own => rfl
  | none => cases other.apps.get? name <;> rfl

/-- Settings with an entry that leaves most of its application open. -/
def sparse : Config where
  formatter := { pattern := "%level", timezone := "UTC" }
  apps := Table.ofList [("web", { colors := some .never })]

/-- Settings with fuller entries for the same and for another application. -/
def fuller : Config where
  formatter := { pattern := "%logger" }
  apps := Table.ofList [("job", { pattern := some "%thread" }),
    ("web", { pattern := some "%message", colors := some .always })]

theorem forApp_merge_sparse :
    (sparse.merge fuller).apps.get? "web" = sparse.apps.get? "web" ∧
    ({ sparse with apps := (sparse.merge fuller).apps } : Config).forApp "web" =
      { sparse.forApp "web" with apps := (sparse.merge fuller).apps } ∧
    ((sparse.merge fuller).forApp "web").formatter =
      { pattern := "%level", colors := .never, includeError := true, timezone := "UTC" } ∧
    ((sparse.merge fuller).forApp "job").formatter =
      { pattern := "%thread", colors := .auto, includeError := true, timezone := "UTC" } := by
  have same : (sparse.merge fuller).apps.get? "web" = sparse.apps.get? "web" := rfl
  obtain ⟨-, -, -, -, web, -, -, alone, -⟩ := forApp_merge sparse fuller {} "web"
  obtain ⟨-, -, -, -, job, -⟩ := forApp_merge sparse fuller {} "job"
  exact ⟨same, alone _ same, web, job⟩

end LogLayout.Config
