import Flagpost.Hook.Registry

/-!
# Flagpost — actions

What an operation of the service is: from a moment and the state of the site
it gives the state it leaves, the events it reports, and an answer or a
failure. Actions are put together like steps of a recipe; the first one that
fails ends it.
-/

namespace Flagpost

/-- The state the service works on: the file system, the registry, and the
directory flag files are written below. -/
structure Site where
  files : FileSystem
  registry : Registry
  flagsDir : String

/-- What an action leaves. -/
structure Outcome (α : Type) where
  site : Site
  events : List Event
  result : Except HookError α

/-- An operation of the service. -/
def Action (α : Type) : Type := Moment → Site → Outcome α

namespace Action

/-- The action that only answers. -/
def answer {α : Type} (a : α) : Action α := fun _ site => ⟨site, [], .ok a⟩

/-- The action that only fails. -/
def fail {α : Type} (e : HookError) : Action α := fun _ site => ⟨site, [], .error e⟩

/-- One action after another, if the first succeeds. -/
def andThen {α β : Type} (first : Action α) (second : α → Action β) : Action β :=
  fun m site =>
    match first m site with
    | ⟨site, events, .error e⟩ => ⟨site, events, .error e⟩
    | ⟨site, events, .ok a⟩ =>
      let rest := second a m site
      ⟨rest.site, events ++ rest.events, rest.result⟩

instance : Monad Action where
  pure := answer
  bind := andThen

/-- Reports an event. -/
def report (event : Event) : Action Unit := fun _ site => ⟨site, [event], .ok ()⟩

/-- Reports the failure of an action, if `event?` has an event for it. -/
def reportFailure {α : Type} (event? : HookError → Option Event) (action : Action α) : Action α :=
  fun m site =>
    match action m site with
    | ⟨site, events, .ok a⟩ => ⟨site, events, .ok a⟩
    | ⟨site, events, .error e⟩ => ⟨site, events ++ (event? e).toList, .error e⟩

/-- An answer or a failure found without touching anything. -/
def ofExcept {α : Type} (result : Except HookError α) : Action α :=
  fun _ site => ⟨site, [], result⟩

/-- A change of the registry. -/
def ofChange {α : Type} (change : Moment → FileSystem → Registry → Registry.Change α) : Action α :=
  fun m site =>
    let c := change m site.files site.registry
    ⟨{ site with files := c.files, registry := c.registry }, [], c.result⟩

/-- What is seen without touching anything. -/
def look {α : Type} (view : Moment → Site → α) : Action α :=
  fun m site => ⟨site, [], .ok (view m site)⟩

end Action

end Flagpost
