import SchemaPress.Release.Plugin

/-!
# A host and its plugins

A host calls its plugins in any order, and files change between the calls. Beside the plugins that it
has made there is one that the whole process shares. A plugin without a directory of its own works
wherever the process works when it is called.
-/

namespace SchemaPress

/-- One of the plugins of a host. -/
inductive Seat where
  /-- The plugin that the whole process shares. -/
  | shared
  /-- A plugin that the host has made. -/
  | own (number : Nat)
deriving DecidableEq, Repr

/-- A host, the files around it, and what its plugins remember. -/
structure Host where
  /-- The files. -/
  tree : Tree
  /-- The directory that the process works in. -/
  directory : Location
  /-- The directories of the plugins that have one of their own. -/
  home : Nat → Option Path
  /-- Whether a verification by the plugin has succeeded. -/
  verified : Seat → Bool
  /-- What a release is made with while the process works in a directory. -/
  tools : Location → Tools

namespace Host

/-- What happens at a host. -/
inductive Event where
  /-- A plugin is to verify. -/
  | verify (seat : Seat) (readConfig : Except Crash Config)
  /-- A plugin is to prepare. -/
  | prepare (seat : Seat) (readConfig : Except Crash Config)
    (readContext : Except Crash ReleaseContext)
  /-- The files are changed by somebody else. -/
  | change (tree : Tree)
  /-- The process goes to another directory. -/
  | enter (directory : Location)

/-- What a call answers. -/
abbrev Answer : Type := Except (Stop ReleaseError) Unit

/-- The plugin as it is at this moment. -/
def plugin (host : Host) (seat : Seat) : Plugin :=
  let home := match seat with
    | .shared => none
    | .own number => host.home number
  { directory := home.getD (Path.ofLocation host.directory)
    verified := host.verified seat }

/-- The host with what a plugin remembers. -/
def keep (host : Host) (seat : Seat) (plugin : Plugin) : Host :=
  { host with verified := fun other => if other = seat then plugin.verified else host.verified other }

/-- A plugin after it has verified. -/
def verify (host : Host) (seat : Seat) (readConfig : Except Crash Config) :
    Except (Stop ReleaseError) Plugin := do
  (host.plugin seat).verify (← readConfig.mapError Stop.crash) host.tree

/-- What an event is answered, and the host afterwards. -/
def step (host : Host) : Event → Answer × Host
  | .verify seat readConfig =>
    match host.verify seat readConfig with
    | .ok plugin => (.ok (), host.keep seat plugin)
    | .error stop => (.error stop, host)
  | .prepare seat readConfig readContext =>
    let (answer, tree) :=
      ((host.plugin seat).prepare (host.tools host.directory) readConfig readContext).outcome host.tree
    (answer, { host with tree })
  | .change tree => (.ok (), { host with tree })
  | .enter directory => (.ok (), { host with directory })

/-- The host after all events, one after the other. -/
def after (host : Host) (events : List Event) : Host :=
  events.foldl (fun host event => (host.step event).2) host

end Host

end SchemaPress
