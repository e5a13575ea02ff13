import TodoServer.Program.Config

/-!
# Layers of settings

Each setting of a configuration is the first value that is given for it, on the command line, in the
nearer file or in the file of the user, whatever is given for all others. A configuration is refused
for its lifetime of tokens, its secret or its count of connections alone. Files may be laid over one
another in any order of merging.
-/

namespace TodoServer.Program

namespace FileSettings

/-! ## Laying files over one another -/

theorem overSection_assoc {α : Type} {merge : α → α → α}
    (assoc : ∀ a b c, merge (merge a b) c = merge a (merge b c)) (a b c : Option α) :
    overSection merge (overSection merge a b) c = overSection merge a (overSection merge b c) := by
  cases a <;> cases b <;> cases c <;> simp [overSection, assoc]

theorem layeredOn_assoc (a b c : FileSettings) :
    (a.layeredOn b).layeredOn c = a.layeredOn (b.layeredOn c) := by
  have servers (a b c : ServerSection) :
      overServer (overServer a b) c = overServer a (overServer b c) := by
    simp [overServer, Option.or_assoc]
  have auths (a b c : AuthSection) : overAuth (overAuth a b) c = overAuth a (overAuth b c) := by
    simp [overAuth, Option.or_assoc]
  have databases (a b c : DatabaseSection) :
      overDatabase (overDatabase a b) c = overDatabase a (overDatabase b c) := by
    simp [overDatabase, Option.or_assoc]
  simp only [layeredOn, overSection_assoc servers, overSection_assoc auths,
    overSection_assoc databases, Option.or_assoc]

theorem overSection_none {α : Type} (merge : α → α → α) (a : Option α) :
    overSection merge a none = a := by
  cases a <;> rfl

theorem layeredOn_empty (a : FileSettings) : a.layeredOn empty = a := by
  simp [layeredOn, empty, overSection_none]

theorem empty_layeredOn (a : FileSettings) : empty.layeredOn a = a := by
  simp [layeredOn, empty, overSection]

/-- Files that lie over one another, with an order in which they are merged. -/
inductive Pile where
  | nothing
  | file (settings : FileSettings)
  | stacked (upper lower : Pile)

namespace Pile

/-- The files of a pile, the uppermost first. -/
def files : Pile → List FileSettings
  | nothing => []
  | file settings => [settings]
  | stacked upper lower => upper.files ++ lower.files

/-- The settings of a pile, merged in its order. -/
def merged : Pile → FileSettings
  | nothing => empty
  | file settings => settings
  | stacked upper lower => upper.merged.layeredOn lower.merged

/-- The order of merging does not matter. -/
theorem merged_eq_foldr (pile : Pile) : pile.merged = pile.files.foldr layeredOn empty := by
  have onto (pile : Pile) (base : FileSettings) :
      pile.files.foldr layeredOn base = pile.merged.layeredOn base := by
    induction pile generalizing base with
    | nothing => exact (empty_layeredOn base).symm
    | file settings => rfl
    | stacked upper lower upperIh lowerIh =>
      rw [files, List.foldr_append, lowerIh, upperIh, merged, layeredOn_assoc]
  rw [onto, layeredOn_empty]

end Pile

end FileSettings

/-! ## Where settings are given -/

/-- The places where a setting may be given. -/
structure Sources where
  options : Options
  /-- The nearer file, if it is there. -/
  overlay : Option FileSettings
  /-- The file of the user, if it is there. -/
  profile : Option FileSettings

namespace Sources

/-- What the places give for a setting, the nearest one first: the command line, the nearer file and
the file of the user. -/
def given {α : Type} (s : Sources) (option : Options → Option α)
    (field : FileSettings → Option α) : List (Option α) :=
  [option s.options, s.overlay.bind field, s.profile.bind field]

/-- The first value that is given. -/
def first? {α : Type} (s : Sources) (option : Options → Option α)
    (field : FileSettings → Option α) : Option α :=
  (s.given option field).findSome? id

/-- The settings of both files. -/
def files (s : Sources) : FileSettings :=
  (s.overlay.getD .empty).layeredOn (s.profile.getD .empty)

/-- The configuration of some sources. -/
def config (place : Place) (s : Sources) : Config :=
  Config.layer place s.options s.files

theorem first?_eq {α : Type} (s : Sources) (option : Options → Option α)
    (field : FileSettings → Option α) :
    s.first? option field =
      (option s.options).or ((s.overlay.bind field).or (s.profile.bind field)) := by
  rw [first?, given]
  cases option s.options <;> cases s.overlay.bind field <;> cases s.profile.bind field <;> rfl

end Sources

/-- Each setting is the first value that is given for it, or else its standard value. -/
structure Config.Layers (place : Place) (s : Sources) (c : Config) : Prop where
  host : c.server.host = (s.first? (·.host) (·.host)).getD standardHost
  port : c.server.port = (s.first? (·.port) (·.port)).getD standardPort
  /-- An empty secret is none. -/
  secret : c.auth.secret = (s.first? (·.secret) (·.secret)).filter (· ≠ "")
  lifetime : c.auth.lifetime = (s.first? (·.lifetime) (·.lifetime)).getD standardLifetime
  /-- A path in a file is one that a user writes. -/
  path : c.database.path = s.first? (·.database) fun f => f.path.map (Path.expand place)
  maxConnections : c.database.maxConnections =
    (s.first? (fun _ => none) (·.maxConnections)).getD standardConnections
  debug : c.debug = true ↔ s.options.debug = true ∨ s.first? (fun _ => none) (·.debug) = some true

/-- What is given for the lifetime of tokens, the secret and the count of connections can be
used. -/
structure Sources.Acceptable (s : Sources) : Prop where
  lifetime : 1 ≤ (s.first? (·.lifetime) (·.lifetime)).getD Config.standardLifetime ∧
    (s.first? (·.lifetime) (·.lifetime)).getD Config.standardLifetime ≤ 43200
  /-- An empty secret is none. -/
  secret : ∀ secret, s.first? (·.secret) (·.secret) = some secret → secret ≠ "" →
    32 ≤ secret.utf8ByteSize
  maxConnections :
    1 ≤ (s.first? (fun _ => none) (·.maxConnections)).getD Config.standardConnections

namespace Sources

variable (s : Sources)

theorem bind_files {α : Type} (field : FileSettings → Option α) (nothing : field .empty = none)
    (layered : ∀ a b : FileSettings, field (a.layeredOn b) = (field a).or (field b)) :
    field s.files = (s.overlay.bind field).or (s.profile.bind field) := by
  rw [files, layered]
  cases s.overlay <;> cases s.profile <;> simp [nothing]

theorem layers_config (place : Place) : Config.Layers place s (s.config place) where
  host := by
    rw [first?_eq, ← s.bind_files _ rfl FileSettings.host_layeredOn]
    rfl
  port := by
    rw [first?_eq, ← s.bind_files _ rfl FileSettings.port_layeredOn]
    rfl
  secret := by
    rw [first?_eq, ← s.bind_files _ rfl FileSettings.secret_layeredOn]
    rfl
  lifetime := by
    rw [first?_eq, ← s.bind_files _ rfl FileSettings.lifetime_layeredOn]
    rfl
  path := by
    have expanded (a b : FileSettings) : (a.layeredOn b).path.map (Path.expand place) =
        (a.path.map (Path.expand place)).or (b.path.map (Path.expand place)) := by
      rw [FileSettings.path_layeredOn]
      cases a.path <;> rfl
    rw [first?_eq, ← s.bind_files (fun f => f.path.map (Path.expand place)) rfl expanded]
    rfl
  maxConnections := by
    rw [first?_eq, ← s.bind_files _ rfl FileSettings.maxConnections_layeredOn]
    rfl
  debug := by
    rw [first?_eq, ← s.bind_files _ rfl FileSettings.debug_layeredOn]
    rw [config, Config.layer]
    cases s.files.debug <;> simp

end Sources

/-- A configuration has no fault when each of its checks passes. -/
theorem Config.fault?_eq_none_iff (c : Config) : c.fault? = none ↔
    (1 ≤ c.auth.lifetime ∧ c.auth.lifetime ≤ 43200) ∧
      (∀ secret, c.auth.secret = some secret → shortestSecret ≤ secret.utf8ByteSize) ∧
      1 ≤ c.database.maxConnections := by
  have long : (∀ secret, c.auth.secret = some secret → shortestSecret ≤ secret.utf8ByteSize) ↔
      ¬c.auth.secret.any (·.utf8ByteSize < shortestSecret) := by
    cases c.auth.secret <;> simp
  have check {p : Prop} [Decidable p] {e : ConfigError} {others : Option ConfigError} :
      (if p then some e else others) = none ↔ ¬p ∧ others = none := by
    split <;> simp [*]
  rw [fault?, check, check, check, eq_self, and_true, long, Auth.Manager.longestLifetime]
  exact and_congr (by omega) (and_congr Iff.rfl (by omega))

/-- Only what is given for the lifetime, the secret and the connections can be a fault. -/
theorem Sources.fault?_config (place : Place) (s : Sources) :
    (s.config place).fault? = none ↔ s.Acceptable := by
  have layers := s.layers_config place
  rw [Config.fault?_eq_none_iff, layers.secret, layers.lifetime, layers.maxConnections]
  constructor
  · rintro ⟨lifetime, secret, connections⟩
    exact ⟨lifetime, fun t given held => secret t (by simp [given, held]), connections⟩
  · rintro ⟨lifetime, secret, connections⟩
    refine ⟨lifetime, fun t kept => ?_, connections⟩
    obtain ⟨given, held⟩ := Option.filter_eq_some_iff.1 kept
    exact secret t given (of_decide_eq_true held)

/-! ## Settings do not depend on one another -/

/-- What a configuration sets. -/
inductive Config.Item where
  | host
  | port
  | secret
  | lifetime
  | path
  | maxConnections
  | debug

/-- Each place gives the same for a setting, or nothing in both. -/
def Sources.AgreeOn (s t : Sources) : Config.Item → Prop
  | .host => s.given (·.host) (·.host) = t.given (·.host) (·.host)
  | .port => s.given (·.port) (·.port) = t.given (·.port) (·.port)
  | .secret => s.given (·.secret) (·.secret) = t.given (·.secret) (·.secret)
  | .lifetime => s.given (·.lifetime) (·.lifetime) = t.given (·.lifetime) (·.lifetime)
  | .path => s.given (·.database) (·.path) = t.given (·.database) (·.path)
  | .maxConnections => s.given (fun _ => none) (·.maxConnections) =
      t.given (fun _ => none) (·.maxConnections)
  | .debug => s.given (fun o => some o.debug) (·.debug) = t.given (fun o => some o.debug) (·.debug)

/-- Both configurations set a setting alike. -/
def Config.AgreeOn (c d : Config) : Item → Prop
  | .host => c.server.host = d.server.host
  | .port => c.server.port = d.server.port
  | .secret => c.auth.secret = d.auth.secret
  | .lifetime => c.auth.lifetime = d.auth.lifetime
  | .path => c.database.path = d.database.path
  | .maxConnections => c.database.maxConnections = d.database.maxConnections
  | .debug => c.debug = d.debug

theorem Sources.first?_eq_of_given {α : Type} {s t : Sources} {option : Options → Option α}
    {field : FileSettings → Option α} (same : s.given option field = t.given option field) :
    s.first? option field = t.first? option field := by
  rw [first?, same, first?]

/-- A setting is the same whatever is given for the others. -/
theorem Config.Layers.agreeOn {place : Place} {s t : Sources} {c d : Config}
    (layers : Layers place s c) (others : Layers place t d) {item : Item}
    (agree : s.AgreeOn t item) : c.AgreeOn d item := by
  cases item with
  | host => rw [AgreeOn, layers.host, others.host, Sources.first?_eq_of_given agree]
  | port => rw [AgreeOn, layers.port, others.port, Sources.first?_eq_of_given agree]
  | secret => rw [AgreeOn, layers.secret, others.secret, Sources.first?_eq_of_given agree]
  | lifetime => rw [AgreeOn, layers.lifetime, others.lifetime, Sources.first?_eq_of_given agree]
  | path =>
    have expanded (f : Option FileSettings) : (f.bind fun f => f.path.map (Path.expand place)) =
        (f.bind (·.path)).map (Path.expand place) := by
      cases f <;> rfl
    simp only [Sources.AgreeOn, Sources.given, List.cons.injEq, and_true] at agree
    rw [AgreeOn, layers.path, others.path, Sources.first?_eq, Sources.first?_eq]
    rw [expanded, expanded, expanded, expanded, agree.1, agree.2.1, agree.2.2]
  | maxConnections =>
    rw [AgreeOn, layers.maxConnections, others.maxConnections, Sources.first?_eq_of_given agree]
  | debug =>
    simp only [Sources.AgreeOn, Sources.given, List.cons.injEq, Option.some.injEq,
      and_true] at agree
    rw [AgreeOn, Bool.eq_iff_iff, layers.debug, others.debug, Sources.first?_eq, Sources.first?_eq,
      agree.1, agree.2.1, agree.2.2]

/-! ## Loading -/

/-- What a path holds, read as a file of settings that may be missing. -/
inductive Entry.Gives : Entry → Option FileSettings → Prop where
  | missing : Entry.missing.Gives none
  | file {content : List UInt8} {settings : FileSettings} {unknown : List String}
      (text : (Text.decode? content).isSome = true)
      (read : FileSettings.read? content = some (settings, unknown)) :
      (Entry.file content).Gives (some settings)

namespace Config

variable {place : Place} {path : String} {entry profile overlay : Entry}

/-- What comes of loading something, with what was noted before. -/
def result {α : Type} (loading : Loading α) (log : List Event) : Except ConfigError α :=
  (loading.run.run log).1

theorem result_pure {α : Type} (a : α) (log : List Event) : result (pure a) log = .ok a :=
  rfl

/-- What is noted does not decide what comes next. -/
theorem result_bind {α β : Type} {x : Loading α} {a : α} {y : Except ConfigError β}
    {f : α → Loading β} {log : List Event} (done : result x log = .ok a)
    (next : ∀ log, result (f a) log = y) : result (x >>= f) log = y := by
  obtain ⟨log', ran⟩ : ∃ log', x.run.run log = (.ok a, log') := ⟨_, Prod.ext done rfl⟩
  rw [← next log', result, ExceptT.run_bind, StateT.run_bind, ran]
  rfl

theorem result_note (event : Event) (log : List Event) : result (note event) log = .ok () :=
  rfl

theorem result_noteUnknown (names : List String) (log : List Event) :
    result (noteUnknown names) log = .ok () := by
  rw [noteUnknown]
  split <;> rfl

theorem result_loadFile {settings : FileSettings} (gives : entry.Gives (some settings))
    (log : List Event) : result (loadFile path entry) log = .ok settings := by
  cases gives with
  | @file content settings unknown text read =>
    refine result_bind (result_note _ log) fun log => ?_
    have decoded : (Text.decode? content).isNone = false := by
      rw [← Option.not_isSome, text, Bool.not_true]
    simp only [decoded, read]
    exact result_bind (result_noteUnknown unknown log) fun log => result_pure settings log

theorem result_loadIfThere {settings : Option FileSettings} (gives : entry.Gives settings)
    (log : List Event) : result (loadIfThere path entry) log = .ok (settings.getD .empty) := by
  cases gives with
  | missing => rfl
  | file text read => exact result_loadFile (.file text read) log

/-- Both files are laid over one another as soon as they can be read. -/
theorem result_loadFiles {s : Sources} (lower : profile.Gives s.profile)
    (upper : overlay.Gives s.overlay) (named : s.options.config.isSome → overlay ≠ .missing)
    (log : List Event) : result (loadFiles place s.options profile overlay) log = .ok s.files := by
  refine result_bind (result_loadIfThere lower log) fun log => ?_
  have there : (s.options.config.isSome && decide (overlay = .missing)) = false := by
    cases given : s.options.config.isSome <;> simp_all
  simp only [there]
  exact result_bind (result_loadIfThere upper log) fun log => rfl

/-- A configuration is refused exactly for a fault of its own. -/
theorem result_load {s : Sources} (lower : profile.Gives s.profile)
    (upper : overlay.Gives s.overlay) (named : s.options.config.isSome → overlay ≠ .missing)
    (log : List Event) : result (load place s.options profile overlay) log =
      match (s.config place).fault? with
      | some fault => .error fault
      | none => .ok (s.config place) := by
  refine result_bind (result_note _ log) fun log => ?_
  refine result_bind (result_loadFiles lower upper named log) fun log => ?_
  refine result_bind (result_note _ log) fun log => ?_
  rw [← Sources.config]
  cases fault : (s.config place).fault? with
  | some fault' =>
    simp only [fault]
    rfl
  | none =>
    simp only [fault]
    split
    · exact result_bind (result_note _ log) fun log => result_pure _ log
    · rfl

end Config

/-- What may come of loading from some sources: the files can be read, and one that is named on the
command line is there. -/
def Sources.Yields (s : Sources) (place : Place) (loaded : Except ConfigError Config) : Prop :=
  ∃ profile overlay log, profile.Gives s.profile ∧ overlay.Gives s.overlay ∧
    (s.options.config.isSome → overlay ≠ .missing) ∧
    loaded = Config.result (Config.load place s.options profile overlay) log

theorem Sources.Yields.eq {s : Sources} {place : Place} {loaded : Except ConfigError Config}
    (yields : s.Yields place loaded) : loaded =
      match (s.config place).fault? with
      | some fault => .error fault
      | none => .ok (s.config place) := by
  obtain ⟨profile, overlay, log, lower, upper, named, rfl⟩ := yields
  exact Config.result_load lower upper named log

/-- Loading succeeds with what can be used. -/
theorem Sources.Yields.ok_iff {s : Sources} {place : Place} {loaded : Except ConfigError Config}
    (yields : s.Yields place loaded) : (∃ c, loaded = .ok c) ↔ s.Acceptable := by
  rw [← s.fault?_config place, yields.eq]
  cases (s.config place).fault? <;> simp

/-- What is loaded has the layers of its sources. -/
theorem Sources.Yields.layers {s : Sources} {place : Place} {c : Config}
    (yields : s.Yields place (.ok c)) : c.Layers place s := by
  have eq := yields.eq
  cases fault : (s.config place).fault? with
  | some _ =>
    rw [fault] at eq
    contradiction
  | none =>
    rw [fault] at eq
    rw [Except.ok.inj eq]
    exact s.layers_config place

/-- Each setting that is loaded is the first one given for it and depends on nothing else; loading
fails for what cannot be used alone; and files may be merged in any order. -/
theorem settings_layered (place : Place) :
    (∀ (s : Sources) loaded, s.Yields place loaded →
      ((∃ c, loaded = .ok c) ↔ s.Acceptable) ∧ ∀ c, loaded = .ok c → c.Layers place s) ∧
    (∀ (s t : Sources) (c d : Config), s.Yields place (.ok c) → t.Yields place (.ok d) →
      ∀ item, s.AgreeOn t item → c.AgreeOn d item) ∧
    ∀ p q : FileSettings.Pile, p.files = q.files → p.merged = q.merged := by
  refine ⟨fun s loaded yields => ⟨yields.ok_iff, ?_⟩, ?_, ?_⟩
  · rintro c rfl
    exact yields.layers
  · intro s t c d one other item agree
    exact one.layers.agreeOn other.layers agree
  · intro p q same
    rw [p.merged_eq_foldr, same, ← q.merged_eq_foldr]

/-- A nearer file with a port and a flag. -/
def nearFile : List UInt8 :=
  Text.utf8 "\x7b\"server\":\x7b\"port\":9000\x7d,\"debug\":false\x7d"

/-- A file of the user with a host, a port and a flag. -/
def userFile : List UInt8 :=
  Text.utf8 "\x7b\"server\":\x7b\"host\":\"h\",\"port\":1\x7d,\"debug\":true\x7d"

/-- A nearer file that sets a port leaves the other settings of the section alone. -/
theorem settings_layered_sample :
    ∃ c, Config.result (Config.load ⟨"/home/u", "/srv"⟩ Options.none (.file userFile)
        (.file nearFile)) [] = .ok c ∧
      c.server.host = "h" ∧ c.server.port = 9000 ∧ c.debug = false := by
  have upper : FileSettings.read? nearFile =
      some (⟨some ⟨none, some 9000⟩, none, none, some false⟩, []) := by decide +kernel
  have lower : FileSettings.read? userFile =
      some (⟨some ⟨some "h", some 1⟩, none, none, some true⟩, []) := by decide +kernel
  obtain ⟨ok_iff, layers⟩ := (settings_layered ⟨"/home/u", "/srv"⟩).1
    ⟨Options.none, _, _⟩ _ ⟨_, _, [], .file (by decide +kernel) lower,
      .file (by decide +kernel) upper, by decide, rfl⟩
  obtain ⟨c, loaded⟩ := ok_iff.mpr ⟨by decide, by decide, by decide⟩
  have layers := layers c loaded
  exact ⟨c, loaded, layers.host.trans rfl, layers.port.trans rfl,
    Bool.eq_false_iff.mpr (mt layers.debug.mp (by decide))⟩

end TodoServer.Program
