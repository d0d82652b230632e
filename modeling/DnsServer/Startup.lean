import DnsServer.Cache
import DnsServer.Zone.Loading

/-! The start of the program: the files that it reads, and what it sets up from them. -/

namespace DnsServer

structure DohConfig where
  listenAddr : String
  tlsCert : Option String
  tlsKey : Option String
  deriving DecidableEq, Repr

structure Config where
  listenAddr : String
  cacheSize : Nat
  enableDnssec : Bool
  doh : Option DohConfig
  zonesFile : Option String
  deriving DecidableEq, Repr

def defaultListenAddr : String := "127.0.0.1:53"

def defaultCacheSize : Nat := 10000

def defaultDohAddr : String := "127.0.0.1:8443"

def Config.default : Config where
  listenAddr := defaultListenAddr
  cacheSize := defaultCacheSize
  enableDnssec := false
  doh := none
  zonesFile := none

/-- The `doh` table as it stands in a file. -/
structure DohTable where
  listenAddr : Option String
  tlsCert : Option String
  tlsKey : Option String

/-- The configuration as it stands in a file, where each field may be missing. -/
structure ConfigTable where
  listenAddr : Option String
  cacheSize : Option Nat
  enableDnssec : Option Bool
  doh : Option DohTable
  zonesFile : Option String

def DohTable.config (table : DohTable) : DohConfig :=
  ⟨table.listenAddr.getD defaultDohAddr, table.tlsCert, table.tlsKey⟩

/-- Each field by its own default. -/
def ConfigTable.config (table : ConfigTable) : Config where
  listenAddr := table.listenAddr.getD defaultListenAddr
  cacheSize := table.cacheSize.getD defaultCacheSize
  enableDnssec := table.enableDnssec.getD false
  doh := table.doh.map DohTable.config
  zonesFile := table.zonesFile

namespace Startup

/-- `toml::from_str` for the two files, up to the defaults. -/
structure Toml (E : Type) where
  config : String → Except E ConfigTable
  zones : String → Except E ZoneConfig

inductive Error (E : Type) where
  | toml (error : E)
  | dns (error : DnsError)

/-- What the listeners are started with. -/
structure Launch where
  cache : DnsCache
  zoneStore : ZoneStore
  enableDnssec : Bool
  doh : Option DohConfig
  listenAddr : String

def CONFIG_PATHS : List String := ["config/config.toml", "config.toml", "/etc/dns-server/config.toml"]

section Files

variable {E : Type} (toml : Toml E) (readToString : String → Option String)

/-- Only the first file that can be read is looked at. -/
def loadConfigFrom : List String → Outcome (Error E) Config
  | [] => .ok .default
  | path :: paths =>
    match readToString path with
    | some content =>
      match toml.config content with
      | .ok table => .ok table.config
      | .error error => .err (.toml error)
    | none => loadConfigFrom paths

def loadConfig : Outcome (Error E) Config := loadConfigFrom toml readToString CONFIG_PATHS

/-- A file that cannot be read is reported, and the store stays empty. -/
def loadZones (zonesFile : Option String) : Prog ZoneStore (Error E) Unit :=
  match zonesFile.bind readToString with
  | some content =>
    match toml.zones content with
    | .ok zoneConfig => do
      match ← Prog.rescue (ZoneStore.loadConfig zoneConfig) with
      | .ok () => return ()
      | .error error => Prog.fail (.dns error)
    | .error error => Prog.fail (.toml error)
  | none => return ()

def main : Prog ZoneStore (Error E) Launch := do
  let config ← Prog.lift (loadConfig toml readToString)
  let cache := DnsCache.new config.cacheSize
  loadZones toml readToString config.zonesFile
  let zoneStore ← Prog.get
  return ⟨cache, zoneStore, config.enableDnssec, config.doh, config.listenAddr⟩

end Files

variable {E : Type} {toml : Toml E} {readToString : String → Option String}

/-- A file without any field says what no file says. -/
theorem config_blank : (⟨none, none, none, none, none⟩ : ConfigTable).config = .default := rfl

theorem loadConfigFrom_eq_ok {paths : List String} {config : Config} :
    loadConfigFrom toml readToString paths = .ok config ↔
      (paths.findSome? readToString = none ∧ config = .default) ∨
        ∃ content table, paths.findSome? readToString = some content ∧ toml.config content = .ok table ∧
          config = table.config := by
  induction paths with
  | nil =>
    rw [loadConfigFrom, List.findSome?_nil]
    constructor
    · rintro ⟨⟩
      exact Or.inl ⟨rfl, rfl⟩
    · rintro (⟨_, rfl⟩ | ⟨_, _, missing, _⟩)
      · rfl
      · cases missing
  | cons path paths ih =>
    rw [loadConfigFrom, List.findSome?_cons]
    cases readToString path with
    | none => exact ih
    | some content =>
      dsimp only
      cases parsed : toml.config content with
      | error error =>
        refine iff_of_false (fun same => by cases same) ?_
        rintro (⟨missing, _⟩ | ⟨_, _, same, table, _⟩)
        · cases missing
        · cases same
          rw [parsed] at table
          cases table
      | ok table =>
        constructor
        · rintro ⟨⟩
          exact Or.inr ⟨content, table, rfl, parsed, rfl⟩
        · rintro (⟨missing, _⟩ | ⟨_, other, same, held, rfl⟩)
          · cases missing
          · cases same
            rw [parsed] at held
            cases held
            rfl

/-- Without a zones file that can be read there are no zones, and otherwise all zones of the file. -/
def Zoned (toml : Toml E) (readToString : String → Option String) (config : Config) (store : ZoneStore) :
    Prop :=
  (config.zonesFile.bind readToString = none ∧ store = ⟨[]⟩) ∨
    ∃ content zones, config.zonesFile.bind readToString = some content ∧ toml.zones content = .ok zones ∧
      ZoneStore.loadConfig zones ⟨[]⟩ = (.ok (), store)

theorem loadZones_eq_ok {config : Config} {store : ZoneStore} :
    loadZones toml readToString config.zonesFile ⟨[]⟩ = (.ok (), store) ↔
      Zoned toml readToString config store := by
  rw [loadZones, Zoned]
  cases config.zonesFile.bind readToString with
  | none =>
    constructor
    · rintro ⟨⟩
      exact Or.inl ⟨rfl, rfl⟩
    · rintro (⟨_, rfl⟩ | ⟨_, _, missing, _⟩)
      · rfl
      · cases missing
  | some content =>
    dsimp only
    cases parsed : toml.zones content with
    | error error =>
      refine iff_of_false (fun same => by cases same) ?_
      rintro (⟨missing, _⟩ | ⟨_, _, same, zones, _⟩)
      · cases missing
      · cases same
        rw [parsed] at zones
        cases zones
    | ok zones =>
      constructor
      · intro loaded
        obtain ⟨caught, store', rescued, rest⟩ := Prog.bind_eq_ok.mp loaded
        refine Or.inr ⟨content, zones, rfl, parsed, ?_⟩
        rcases run : ZoneStore.loadConfig zones ⟨[]⟩ with ⟨_ | _ | _ | _, _⟩ <;>
          rw [Prog.rescue, run] at rescued <;> cases rescued
        · cases rest
          rfl
        · cases rest
      · rintro (⟨missing, _⟩ | ⟨_, zones', same, read, loaded⟩)
        · cases missing
        · cases same
          rw [parsed] at read
          cases read
          dsimp only
          rw [Prog.bind_ok (Prog.rescue_ok loaded)]
          rfl

/-- The program starts with what its files say, unless one of them is refused. -/
theorem main_eq_ok {launch : Launch} {store : ZoneStore} :
    main toml readToString ⟨[]⟩ = (.ok launch, store) ↔
      ∃ config, loadConfig toml readToString = .ok config ∧ Zoned toml readToString config store ∧
        launch =
          ⟨DnsCache.new config.cacheSize, store, config.enableDnssec, config.doh, config.listenAddr⟩ := by
  constructor
  · intro started
    obtain ⟨config, _, read, rest⟩ := Prog.bind_eq_ok.mp started
    obtain ⟨_, store', loaded, rest⟩ := Prog.bind_eq_ok.mp rest
    obtain ⟨zoneStore, _, got, returned⟩ := Prog.bind_eq_ok.mp rest
    have configured : loadConfig toml readToString = .ok config := congrArg Prod.fst read
    obtain rfl := congrArg Prod.snd read
    cases got
    cases returned
    exact ⟨config, configured, loadZones_eq_ok.mp loaded, rfl⟩
  · rintro ⟨config, configured, zoned, rfl⟩
    have read : (Prog.lift (loadConfig toml readToString) : Prog ZoneStore (Error E) Config) ⟨[]⟩ =
        (.ok config, ⟨[]⟩) := by
      rw [configured]
      rfl
    rw [main, Prog.bind_ok read, Prog.bind_ok (loadZones_eq_ok.mpr zoned)]
    rfl

end Startup

end DnsServer
