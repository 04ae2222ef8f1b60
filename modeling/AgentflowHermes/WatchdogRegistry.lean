import AgentflowHermes.PolicyFiles

namespace AgentflowHermes.Watchdogs

open PolicyFiles

/-- `_entry_config`. -/
def entryConfig (entry : Json) : String :=
  match ((entry.get? "config").filter Json.truthy).or (entry.get? "path") with
  | some (.str path) => path
  | _ => ""

inductive RegistryError
  | unread (e : FileError)
  | root
  | configs
  | entries

/-- Whether `load_registry` raises it as a `ValueError`. -/
def RegistryError.caught : RegistryError → Bool
  | .unread .recursion => false
  | _ => true

structure Registry where
  version : Json := .int 1
  configs : List Json := []

/-- An entry as `load_registry` takes it in. -/
def normalize : Json → Option Json
  | .str path => some (.obj [("config", .str path)])
  | .obj fields => if entryConfig (.obj fields) ≠ "" then some (.obj fields) else none
  | _ => none

def isInt : Json → Bool
  | .int _ | .bool _ => true
  | _ => false

/-- `load_registry`. -/
def loadRegistry : PolicyFile → Except RegistryError Registry
  | .absent => .ok {}
  | .unread e => .error (.unread e)
  | .parsed (.obj data) =>
    match data.lookup "configs" with
    | some (.arr items) =>
      match items.mapM normalize with
      | some configs => .ok { version := ((data.lookup "version").filter isInt).getD (.int 1), configs }
      | none => .error .entries
    | _ => .error .configs
  | .parsed _ => .error .root

/-- `_write_registry` on a registry of the current version. -/
def written (configs : List Json) : PolicyFile := .parsed (.obj [("version", .int 1), ("configs", .arr configs)])

/-- A configuration file as the commands find it: its resolved path with what is derived from it, and the board and
the switch that it is loaded with, if it is. -/
structure ConfigFile where
  resolved : String
  absolute : resolved ≠ ""
  stem : String
  workdir : String
  defaultReceipts : String
  loaded : Option (String × Bool)

inductive WatchdogReport
  | malformedConfig
  | malformedRegistry (e : RegistryError)
  | writeFailed
  | alreadyRegistered (config : String)
  | registered (entry : Json)
  | unregistered (removed : Bool) (config : String)
  | raised (e : RegistryError)

/-- A registry that is not loaded: nothing is written. -/
def refuse (file : PolicyFile) (e : RegistryError) : PolicyFile × WatchdogReport :=
  (file, if e.caught then .malformedRegistry e else .raised e)

def newEntry (c : ConfigFile) (receiptsFile board : String) (enabled : Bool) : Json :=
  .obj [("name", .str (if board = "" then c.stem else board)), ("config", .str c.resolved), ("workdir", .str c.workdir),
    ("receipts_file", .str (if receiptsFile = "" then c.defaultReceipts else receiptsFile)), ("board", .str board),
    ("enabled", .bool enabled)]

/-- `run_roadmap_register`. -/
def runRoadmapRegister (file : PolicyFile) (c : ConfigFile) (receiptsFile : String) (writable : Bool) :
    PolicyFile × WatchdogReport :=
  match c.loaded with
  | none => (file, .malformedConfig)
  | some (board, enabled) =>
    match loadRegistry file with
    | .error e => refuse file e
    | .ok registry =>
      if registry.configs.any fun e => entryConfig e = c.resolved then (file, .alreadyRegistered c.resolved)
      else
        let entry := newEntry c receiptsFile board enabled
        if writable then (written (registry.configs ++ [entry]), .registered entry) else (file, .writeFailed)

/-- `run_roadmap_unregister`. -/
def runRoadmapUnregister (file : PolicyFile) (c : ConfigFile) (writable : Bool) : PolicyFile × WatchdogReport :=
  match loadRegistry file with
  | .error e => refuse file e
  | .ok registry =>
    let configs := registry.configs.filter fun e => entryConfig e ≠ c.resolved
    let removed := configs.length ≠ registry.configs.length
    if removed then
      if writable then (written configs, .unregistered true c.resolved) else (file, .writeFailed)
    else (file, .unregistered false c.resolved)

inductive WatchdogCall
  | register (c : ConfigFile) (receiptsFile : String) (writable : Bool)
  | unregister (c : ConfigFile) (writable : Bool)

namespace WatchdogCall

def config : WatchdogCall → ConfigFile
  | register c _ _ => c
  | unregister c _ => c

def perform (file : PolicyFile) : WatchdogCall → PolicyFile × WatchdogReport
  | register c receiptsFile writable => runRoadmapRegister file c receiptsFile writable
  | unregister c writable => runRoadmapUnregister file c writable

/-- What a call does to the paths that are watched. -/
def effect (paths : List String) : WatchdogCall → List String
  | register c _ writable =>
    if c.loaded.isSome && writable && !paths.contains c.resolved then paths ++ [c.resolved] else paths
  | unregister c writable => if writable then paths.filter (· ≠ c.resolved) else paths

end WatchdogCall

/-- The file after a call. -/
def registryAfter (file : PolicyFile) (call : WatchdogCall) : PolicyFile := (call.perform file).1

def Registry.paths (r : Registry) : List String := r.configs.map entryConfig

section

variable {file : PolicyFile} {r : Registry}

/-- Of the entries of a path, none is lost, changed or moved. -/
def SameEntries (r r' : Registry) (path : String) : Prop :=
  (r'.configs.filter fun e => entryConfig e = path) = r.configs.filter fun e => entryConfig e = path

/-- A registry stays loadable over every run of calls, with the paths that the calls leave and no other entry touched. -/
def Tracks (file : PolicyFile) (r : Registry) : Prop :=
  ∀ calls : List WatchdogCall, ∃ r', loadRegistry (calls.foldl registryAfter file) = .ok r' ∧
    r'.paths = calls.foldl (fun paths call => call.effect paths) r.paths ∧ (r.paths.Nodup → r'.paths.Nodup) ∧
    ∀ path, (∀ call ∈ calls, call.config.resolved ≠ path) → SameEntries r r' path

end

/-- An empty path is taken in as it stands, and written back as an entry that is refused. -/
example : loadRegistry (.parsed (.obj [("configs", .arr [.str ""])])) =
    .ok { configs := [.obj [("config", .str "")]] } := rfl

end AgentflowHermes.Watchdogs
