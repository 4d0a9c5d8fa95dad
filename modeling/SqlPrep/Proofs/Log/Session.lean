import SqlPrep.Proofs.Log.Change

/-!
# The console log over a whole session

A session is any sequence of calls that configure the log or change its level by name, from the
fresh log on, each of which may fail. Over all of them the log has one handler at most, every
configuration that succeeds gives back that same handler, and from the first such configuration on
the level of the log and that of the handler are the level that was asked for last.

What carries this through failures: a configuration that fails can leave its handler behind, but
once a handler is installed a call that fails changes nothing.
-/

namespace SqlPrep.Log

/-- A call that changes the log. -/
inductive Call where
  | configure (config : Value)
  | setLevel (name : Value)

/-- A call that was made, with what it gave back or why it failed. -/
inductive Event where
  | configured (config : Value) (result : Except LevelError Handler)
  | levelSet (name : Value) (result : Except LevelError Unit)

/-- Whether the call did not fail. -/
def Event.returned : Event → Bool
  | .configured _ result => result.isOk
  | .levelSet _ result => result.isOk

/-- The call that was made. -/
def Event.call : Event → Call
  | .configured config _ => .configure config
  | .levelSet name _ => .setLevel name

/-- The level that something named is, if it is one. -/
def Named.value? : Named → Option Int
  | .level value => some value
  | .text _ | .table _ => none

/-- The level that settings ask for: the one that their name in upper case stands for, and `WARNING`
where it stands for nothing. -/
def configuredLevel? (config : Value) : Option Int :=
  match levelNameIn config with
  | .error _ => none
  | .ok name =>
    match named? name with
    | none => some warning
    | some asked => asked.value?

/-- The level that a text names, in upper or lower case. -/
def namedLevel? (name : Value) : Option Int :=
  name.text?.bind fun text => levelOfName? (String.ofList (Text.upper text.toList))

/-- The level that the call asked for. -/
def Event.asked? : Event → Option Int
  | .configured config _ => configuredLevel? config
  | .levelSet name _ => namedLevel? name

/-- The calls made so far, in order, and the log after them. -/
structure Session where
  events : List Event := []
  console : Console := {}

namespace Session

/-- The session with one more call made. -/
def make (s : Session) : Call → Session
  | .configure config =>
    let (result, console) := (Change.configure config).on s.console
    { events := s.events ++ [.configured config result], console }
  | .setLevel name =>
    let (result, console) := (Change.setLevel name).on s.console
    { events := s.events ++ [.levelSet name result], console }

/-- The level asked for by the last call that did not fail. -/
def lastAsked? (s : Session) : Option Int :=
  (s.events.filter Event.returned).getLast?.bind Event.asked?

end Session

/-- The session of a sequence of calls, from the fresh log on. -/
def session (calls : List Call) : Session :=
  calls.foldl Session.make {}

/-! ## Levels that were asked for -/

/-- What a name stands for sets a level only if it is a level: the form of lines, which is a text,
is not the name of one. -/
theorem toOption_level? {name : String} {asked : Named} (hname : named? name = some asked) :
    asked.level?.toOption = asked.value? := by
  have hbasic : levelOfName? basicForm = none := by decide
  unfold named? at hname
  split at hname
  · cases hname
    rfl
  · obtain ⟨before, behind, htable, -⟩ := List.lookup_eq_some_iff.mp hname
    have hmem : (name, asked) ∈ formNames := by simp [htable]
    simp only [formNames, List.mem_cons, Prod.mk.injEq, List.not_mem_nil, or_false] at hmem
    rcases hmem with ⟨-, rfl⟩ | ⟨-, rfl⟩
    · rw [Named.level?, hbasic]
      rfl
    · rfl

/-- Settings ask for the level that a configuration sets. -/
theorem configuredLevel?_eq {config : Value} {name : String}
    (hname : levelNameIn config = .ok name) :
    configuredLevel? config = ((named? name).getD (.level warning)).level?.toOption := by
  simp only [configuredLevel?, hname]
  cases hasked : named? name with
  | none => rfl
  | some asked =>
    rw [Option.getD_some, toOption_level? hasked]

/-- A value names the level that is set by name. -/
theorem namedLevel?_eq (name : Value) : namedLevel? name = (runtimeLevel name).toOption := by
  unfold runtimeLevel
  split
  · next hblank =>
    cases name with
    | str text =>
      obtain rfl : text = "" := by simpa [Value.isBlankValue] using hblank
      rfl
    | choice c => cases hblank
    | _ => rfl
  · cases name with
    | str text =>
      dsimp only [namedLevel?, Value.text?, Option.bind_some]
      cases levelOfName? (String.ofList (Text.upper text.toList)) <;> rfl
    | choice c =>
      dsimp only [namedLevel?, Value.text?, Option.bind_some]
      cases levelOfName? (String.ofList (Text.upper c.keyword.toList)) <;> rfl
    | _ => rfl

/-- A configuration returns exactly if its settings ask for a level. -/
theorem isOk_configure {c : Console} (hs : c.Sound) (config : Value) :
    ((Change.configure config).on c).1.isOk = (configuredLevel? config).isSome := by
  rw [Change.on_configure hs]
  cases hname : levelNameIn config with
  | error cause =>
    rw [configuredLevel?, hname]
    rfl
  | ok name =>
    dsimp only
    rw [configuredLevel?_eq hname]
    cases ((named? name).getD (.level warning)).level? <;> rfl

/-- A change by name returns exactly if the name is that of a level. -/
theorem isOk_setLevel (name : Value) (c : Console) :
    ((Change.setLevel name).on c).1.isOk = (namedLevel? name).isSome := by
  rw [Change.on_setLevel, namedLevel?_eq]
  cases runtimeLevel name <;> rfl

/-! ## What one call keeps -/

namespace Session

/-- What holds between the calls of a session and the log that they leave. -/
structure Consistent (s : Session) : Prop where
  sound : s.console.Sound
  same : ∀ config h, .configured config (.ok h) ∈ s.events → s.console.installed = some h
  level : ∀ config h, .configured config (.ok h) ∈ s.events →
    ∃ level, s.lastAsked? = some level ∧ s.console.root = level ∧ s.console.handler = some level

/-- A session without calls is consistent. -/
theorem consistent_empty : Consistent {} where
  sound := ⟨rfl, nofun⟩
  same := nofun
  level := nofun

variable {s : Session} {e : Event} {c : Console} {level : Int}

/-- A call that failed does not count as the last one that asked for a level. -/
theorem lastAsked?_of_failed (he : e.returned = false) :
    lastAsked? ⟨s.events ++ [e], c⟩ = s.lastAsked? := by
  simp [lastAsked?, he]

/-- A call that returned is the last one that asked for a level. -/
theorem lastAsked?_of_returned (he : e.returned = true) :
    lastAsked? ⟨s.events ++ [e], c⟩ = e.asked? := by
  simp [lastAsked?, he]

/-- A call that failed keeps a session consistent if it left an installed handler, and both levels,
alone. -/
theorem Consistent.failed (hs : s.Consistent) (he : e.returned = false) (hc : c.Sound)
    (hkept : ∀ h, s.console.installed = some h → c = s.console) :
    Consistent ⟨s.events ++ [e], c⟩ := by
  have earlier {config h} (hmem : .configured config (.ok h) ∈ s.events ++ [e]) :
      .configured config (.ok h) ∈ s.events := by
    rcases List.mem_append.mp hmem with hmem | hmem
    · exact hmem
    · rw [← List.mem_singleton.mp hmem] at he
      cases he
  have unchanged {config h} (hmem : .configured config (.ok h) ∈ s.events ++ [e]) :
      c = s.console :=
    hkept h (hs.same config h (earlier hmem))
  refine ⟨hc, fun config h hmem => ?_, fun config h hmem => ?_⟩
  · rw [unchanged hmem]
    exact hs.same config h (earlier hmem)
  · rw [lastAsked?_of_failed he, unchanged hmem]
    exact hs.level config h (earlier hmem)

/-- A call that returned keeps a session consistent if it put the log and its handler, which it did
not replace, at the level that it asked for. -/
theorem Consistent.returned (hs : s.Consistent) (he : e.returned = true)
    (hasked : e.asked? = some level) (hc : c.Sound)
    (hkept : ∀ h, s.console.installed = some h → c.installed = some h)
    (hgiven : ∀ config h, e = .configured config (.ok h) → c.installed = some h) :
    Consistent ⟨s.events ++ [e], c.atLevel level⟩ := by
  have same config h (hmem : .configured config (.ok h) ∈ s.events ++ [e]) :
      c.installed = some h := by
    rcases List.mem_append.mp hmem with hmem | hmem
    · exact hkept h (hs.same config h hmem)
    · exact hgiven config h (List.mem_singleton.mp hmem).symm
  refine ⟨hc.atLevel level, same, fun config h hmem => ⟨level, ?_, rfl, ?_⟩⟩
  · rw [lastAsked?_of_returned he, hasked]
  · exact hc.atLevel_handler (same config h hmem)

/-- Configuring the log keeps a session consistent, whether it returns or fails. -/
theorem Consistent.configure (hs : s.Consistent) (config : Value) :
    (s.make (.configure config)).Consistent := by
  rw [make, Change.on_configure hs.sound]
  cases hname : levelNameIn config with
  | error cause => exact hs.failed rfl hs.sound fun _ _ => rfl
  | ok name =>
    dsimp only
    cases hlevel : ((named? name).getD (.level warning)).level? with
    | error cause =>
      -- A new handler stays behind here, but a log that has one is left as it was.
      exact hs.failed rfl hs.sound.withHandler fun h => Console.withHandler_of_installed
    | ok level =>
      have hasked : configuredLevel? config = some level := by
        rw [configuredLevel?_eq hname, hlevel]
        rfl
      refine hs.returned rfl hasked hs.sound.withHandler (fun h hh => ?_) fun config' h he => ?_
      · rw [Console.withHandler_of_installed hh, hh]
      · cases he
        exact Console.withHandler_installed _

/-- So does changing the level by name. -/
theorem Consistent.setLevel (hs : s.Consistent) (name : Value) :
    (s.make (.setLevel name)).Consistent := by
  rw [make, Change.on_setLevel]
  cases hlevel : runtimeLevel name with
  | error cause => exact hs.failed rfl hs.sound fun _ _ => rfl
  | ok level =>
    have hasked : namedLevel? name = some level := by
      rw [namedLevel?_eq, hlevel]
      rfl
    exact hs.returned rfl hasked hs.sound (fun _ hh => hh) nofun

/-- Every call keeps a session consistent. -/
theorem Consistent.make (hs : s.Consistent) (call : Call) : (s.make call).Consistent := by
  cases call with
  | configure config => exact hs.configure config
  | setLevel name => exact hs.setLevel name

/-- A call by name that failed left the log as it was. -/
theorem make_setLevel_console {name : Value} {cause : LevelError}
    (hfailed : ((Change.setLevel name).on s.console).1 = .error cause) :
    (s.make (.setLevel name)).console = s.console := by
  rw [Change.on_setLevel] at hfailed
  rw [make, Change.on_setLevel]
  cases hlevel : runtimeLevel name with
  | error cause => rfl
  | ok level => simp [hlevel] at hfailed

end Session

/-! ## Whole sessions -/

/-- What one call keeps is kept by any number of them. -/
theorem Session.Consistent.run {s : Session} (hs : s.Consistent) (calls : List Call) :
    (calls.foldl Session.make s).Consistent := by
  induction calls generalizing s with
  | nil => exact hs
  | cons call calls ih => exact ih (hs.make call)

/-- The events of a session are those of its calls, in order. -/
theorem Session.run_events (s : Session) (calls : List Call) :
    (calls.foldl Session.make s).events.map Event.call = s.events.map Event.call ++ calls := by
  induction calls generalizing s with
  | nil => simp
  | cons call calls ih =>
    rw [List.foldl_cons, ih]
    cases call <;> simp [Session.make, Event.call]

/-- Whatever calls were made, failing or not, a further call returns exactly if it asks for a level.
The log has one handler at most, and has one exactly if one is installed; every configuration that
returned gave back that handler; a level that cannot be set by name changes nothing; and once a
configuration has returned, the log and its handler are at the level that was asked for by the last
call that returned. -/
theorem session_one_handler_at_asked_level (calls : List Call) :
    let s := session calls
    s.events.map Event.call = calls ∧
      (∀ config,
        ((Change.configure config).on s.console).1.isOk = (configuredLevel? config).isSome) ∧
      (∀ name, ((Change.setLevel name).on s.console).1.isOk = (namedLevel? name).isSome) ∧
      s.console.attached.length ≤ 1 ∧
      (s.console.attached.length = 1 ↔ s.console.installed.isSome) ∧
      (∀ config h, .configured config (.ok h) ∈ s.events →
        s.console.installed = some h ∧ s.console.attached = [h]) ∧
      (∀ name cause, ((Change.setLevel name).on s.console).1 = .error cause →
        (s.make (.setLevel name)).console = s.console) ∧
      ∀ config h, .configured config (.ok h) ∈ s.events →
        ∃ level, s.lastAsked? = some level ∧
          s.console.root = level ∧ s.console.handler = some level := by
  intro s
  have hs : s.Consistent := Session.consistent_empty.run calls
  have hattached := hs.sound.attached
  refine ⟨Session.run_events {} calls, isOk_configure hs.sound, fun name => isOk_setLevel name _,
    ?_, ?_, fun config h hmem => ?_, fun name cause => ?_, hs.level⟩
  · rw [hattached]
    cases s.console.installed <;> simp
  · rw [hattached]
    cases s.console.installed <;> simp
  · have hinstalled := hs.same config h hmem
    exact ⟨hinstalled, by rw [hattached, hinstalled]; rfl⟩
  · exact Session.make_setLevel_console

/-- Settings that ask for a level. -/
def levelSettings (level : Value) : Value :=
  .map [(.str "logging", .map [(.str "level", level)])]

/-- The first configuration fails after it has installed its handler; the next one takes the handler
and gives it a level, which a name that stands for none leaves as it is. -/
theorem session_one_handler_after_failures :
    let s := session [.configure (levelSettings (.str "basic_format")),
      .configure (levelSettings (.str "info")), .setLevel (.str "loud")]
    .configured (levelSettings (.str "basic_format")) (.error (.unknown basicForm)) ∈ s.events ∧
      .configured (levelSettings (.str "info")) (.ok 0) ∈ s.events ∧
      s.console.attached = [0] ∧ s.console.root = 20 ∧ s.console.handler = some 20 := by
  intro s
  obtain ⟨-, -, -, -, -, hsame, -, hlevel⟩ := session_one_handler_at_asked_level
    [.configure (levelSettings (.str "basic_format")), .configure (levelSettings (.str "info")),
      .setLevel (.str "loud")]
  have hevents : s.events = [
      .configured (levelSettings (.str "basic_format")) (.error (.unknown basicForm)),
      .configured (levelSettings (.str "info")) (.ok 0),
      .levelSet (.str "loud") (.error (.unnamed (.str "loud")))] := by
    rfl
  have hmem : .configured (levelSettings (.str "info")) (.ok 0) ∈ s.events := by simp [hevents]
  have hlast : s.lastAsked? = some 20 := by
    rw [Session.lastAsked?, hevents]
    rfl
  obtain ⟨level, hasked, hroot, hhandler⟩ := hlevel _ 0 hmem
  obtain rfl : level = 20 := Option.some.inj (hasked.symm.trans hlast)
  exact ⟨by simp [hevents], hmem, (hsame _ 0 hmem).2, hroot, hhandler⟩

end SqlPrep.Log
