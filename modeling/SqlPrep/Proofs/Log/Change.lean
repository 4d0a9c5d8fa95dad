import SqlPrep.Log.Console

/-!
# What a change of the log comes to

The two changes of the console log, each as one equation: the state that it leaves, also where it
fails between two of its steps. Both read an asked level before they write one, so that only the
installation of a handler can be left over from a failure.
-/

namespace SqlPrep.Log

variable {α β : Type} {c : Console} {h : Handler} {level : Int}

/-- The installed handler is one that was made, and the only one attached. -/
structure Console.Sound (c : Console) : Prop where
  attached : c.attached = c.installed.toList
  made : ∀ h ∈ c.installed, h < c.levels.length

/-- The installed handler, or the one that would be made next. -/
def Console.nextHandler (c : Console) : Handler :=
  c.installed.getD c.levels.length

/-- The log with a handler: its own, or a new one without a level of its own. -/
def Console.withHandler (c : Console) : Console :=
  match c.installed with
  | some _ => c
  | none =>
    { c with
      attached := [c.levels.length]
      installed := some c.levels.length
      levels := c.levels ++ [0] }

/-- The log and its handler, if one is installed, at one level. -/
def Console.atLevel (c : Console) (level : Int) : Console :=
  { c with root := level, levels := c.installed.elim c.levels fun h => c.levels.set h level }

namespace Console

/-- A log that has an installed handler keeps it. -/
theorem withHandler_of_installed (hc : c.installed = some h) : c.withHandler = c := by
  simp [withHandler, hc]

/-- The handler that a log is given is installed. -/
@[simp]
theorem withHandler_installed (c : Console) : c.withHandler.installed = some c.nextHandler := by
  cases hc : c.installed <;> simp [withHandler, nextHandler, hc]

/-- A handler that is made for a log is the only one attached. -/
theorem Sound.withHandler (hs : c.Sound) : c.withHandler.Sound := by
  cases hc : c.installed with
  | some h => rwa [withHandler_of_installed hc]
  | none => constructor <;> simp [Console.withHandler, hc]

/-- Setting both levels leaves the handlers as they are. -/
theorem Sound.atLevel (hs : c.Sound) (level : Int) : (c.atLevel level).Sound where
  attached := hs.attached
  made h hh := by
    have hmade := hs.made h hh
    cases hc : c.installed <;> simpa [Console.atLevel, hc] using hmade

/-- The handler of a log at one level has that level. -/
theorem Sound.atLevel_handler (hs : c.Sound) (hc : c.installed = some h) :
    (c.atLevel level).handler = some level := by
  simp [handler, Console.atLevel, hc, hs.made h hc]

end Console

namespace Change

/-- Giving back a value changes nothing. -/
@[simp]
theorem on_pure (a : α) (c : Console) : (pure a : Change α).on c = (.ok a, c) := rfl

/-- A computation that does not look at the log changes nothing. -/
@[simp]
theorem on_lift (x : Except LevelError α) (c : Console) : (liftM x : Change α).on c = (x, c) := rfl

/-- Looking at the log changes nothing. -/
@[simp]
theorem on_get (c : Console) : (get : Change Console).on c = (.ok c, c) := rfl

/-- A function of the log is carried out. -/
@[simp]
theorem on_modify (f : Console → Console) (c : Console) :
    (modify f : Change PUnit).on c = (.ok ⟨⟩, f c) := rfl

/-- A change after another one: on the state that the first one leaves, unless that one failed. -/
theorem on_bind (x : Change α) (f : α → Change β) (c : Console) :
    (x >>= f).on c =
      match x.on c with
      | (.ok a, c) => (f a).on c
      | (.error cause, c) => (.error cause, c) := by
  change ((ExceptT.run x >>= ExceptT.bindCont f).run c : Except LevelError β × Console) = _
  rw [StateT.run_bind]
  rcases hx : x.on c with ⟨cause | a, c'⟩
  · change StateT.run (ExceptT.run x) c = _ at hx
    rw [hx]
    rfl
  · change StateT.run (ExceptT.run x) c = _ at hx
    rw [hx]
    rfl

/-- A new handler has the next number. -/
@[simp]
theorem on_makeHandler (c : Console) :
    makeHandler.on c = (.ok c.levels.length, { c with levels := c.levels ++ [0] }) := rfl

/-- A handler is attached behind the others, unless it is among them. -/
@[simp]
theorem on_attach (h : Handler) (c : Console) :
    (attach h).on c =
      (.ok (), { c with attached := if h ∈ c.attached then c.attached else c.attached ++ [h] }) :=
  rfl

/-- Installing gives back the installed handler, or makes and attaches the next one. -/
theorem on_install (hs : c.Sound) : install.on c = (.ok c.nextHandler, c.withHandler) := by
  rw [install, on_bind, on_get]
  cases hc : c.installed with
  | some h => simp [hc, Console.nextHandler, Console.withHandler]
  | none =>
    have hattached : c.attached = [] := by simpa [hc] using hs.attached
    simp only [hc, on_bind, on_makeHandler, on_modify, on_attach, on_pure]
    simp [Console.nextHandler, Console.withHandler, hc, hattached]

/-- The level of the log is set if a level is asked for. -/
theorem on_setRoot (asked : Named) (c : Console) :
    (setRoot asked).on c =
      match asked.level? with
      | .ok level => (.ok (), { c with root := level })
      | .error cause => (.error cause, c) := by
  rw [setRoot, on_bind, on_lift]
  cases asked.level? <;> rfl

/-- The level of a handler is set if a level is asked for. -/
theorem on_setHandler (h : Handler) (asked : Named) (c : Console) :
    (setHandler h asked).on c =
      match asked.level? with
      | .ok level => (.ok (), { c with levels := c.levels.set h level })
      | .error cause => (.error cause, c) := by
  rw [setHandler, on_bind, on_lift]
  cases asked.level? <;> rfl

/-- Configuring the log, in one equation. Settings that cannot be read change nothing; a name that
stands for no level leaves the handler that was installed for it. -/
theorem on_configure (hs : c.Sound) (config : Value) :
    (configure config).on c =
      match levelNameIn config with
      | .error cause => (.error cause, c)
      | .ok name =>
        match ((named? name).getD (.level warning)).level? with
        | .error cause => (.error cause, c.withHandler)
        | .ok level => (.ok c.nextHandler, c.withHandler.atLevel level) := by
  rw [configure, on_bind, on_lift]
  cases levelNameIn config with
  | error cause => rfl
  | ok name =>
    simp only [on_bind, on_install hs, on_setRoot, on_setHandler]
    cases ((named? name).getD (.level warning)).level? with
    | error cause => rfl
    | ok level => simp [Console.atLevel]

example :
    (({} : Console).configure (.map [(.str "logging", .map [(.str "level", .str "_styles")])])).1 =
      { attached := [0], installed := some 0, levels := [0] } := by
  decide +kernel

/-- Changing the level by name, in one equation: a name that stands for no level changes nothing. -/
theorem on_setLevel (name : Value) (c : Console) :
    (setLevel name).on c =
      match runtimeLevel name with
      | .error cause => (.error cause, c)
      | .ok level => (.ok (), c.atLevel level) := by
  rw [setLevel, on_bind, on_lift]
  cases runtimeLevel name with
  | error cause => rfl
  | ok level =>
    simp only [on_bind, on_setRoot, Named.level?, on_get]
    cases hc : c.installed <;> simp [Console.atLevel, hc, on_setHandler, Named.level?]

end Change
end SqlPrep.Log
