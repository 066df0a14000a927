import ClipFeed.Proofs.Checklist
import ClipFeed.Proofs.Feed.Limits
import ClipFeed.Proofs.Net.Address
import ClipFeed.Proofs.Text.Blank
import ClipFeed.Settings.Basic
/-!
Settings that pass their checks. Each of them comes to what the command line says, else to what was
given, else to its default, and is refused for the first rule that this breaks. Settings that pass
are those that were asked for, and later code can rely on what the rules say.
-/

namespace ClipFeed

namespace Settings

variable {α : Type} {d : Draft} {o : Overrides}

/-- What the command line says, else what was given, else the default. -/
def chosen (said given : Option α) (default : α) : α :=
  said.getD (given.getD default)

theorem getD_orElse (said given : Option α) (default : α) :
    (said <|> given).getD default = chosen said given default := by
  cases said <;> rfl

/-- A URL stands without the blanks around it, and one of nothing but blanks is none at all. -/
def url (said given : Option String) : Option String :=
  (said <|> given).bind fun text => if Text.Blank text then none else some (Text.trim text)

private theorem bind_trimmed? (said given : Option String) :
    (said <|> given).bind Text.trimmed? = url said given := by
  rw [url, funext Text.trimmed?_eq]

namespace Draft

variable (d : Draft) (o : Overrides)

def port : UInt16 :=
  chosen o.port d.server.port defaultPort

def place : String :=
  chosen o.host d.server.host defaultHost ++ ":" ++ toString (d.port o)

def gracefulShutdownSecs : Nat :=
  d.server.gracefulShutdownSecs.getD defaultGracefulShutdownSecs

/-- The threshold that was asked for, if it is one. -/
def threshold? : Option Log.Threshold :=
  match o.level <|> d.logging.level with
  | some text => Log.Threshold.parse? text
  | none => some (.atLeast .info)

def maxConnections : UInt32 :=
  chosen o.maxConnections d.database.maxConnections defaultMaxConnections

/-- The cache settings before any of them is checked. -/
def cached : Cache.Settings where
  enabled := chosen o.cacheEnabled d.cache.enabled true
  redisUrl := url o.redisUrl d.cache.redisUrl
  opTimeoutMs := d.cache.opTimeoutMs.getD 50
  pollAttempts := d.cache.pollAttempts.getD 5
  pollIntervalMs := d.cache.pollIntervalMs.getD 20
  listTtlSecs := d.cache.listTtlSecs.getD 5
  listLockTtlMs := d.cache.listLockTtlMs.getD 500
  detailTtlSecs := d.cache.detailTtlSecs.getD 300
  detailLockTtlMs := d.cache.detailLockTtlMs.getD 2000

def limits : Feed.Limits :=
  ⟨d.feed.defaultLimit.getD 10, d.feed.maxLimit.getD 50⟩

end Draft

inductive Rule where
  | port
  | address
  | gracefulShutdown
  | level
  | maxConnections
  | opTimeout
  | pollInterval
  | listTtl
  | listLockTtl
  | detailTtl
  | detailLockTtl
  | defaultLimit
  deriving DecidableEq, Repr

namespace Rule

/-- All rules in the order in which they are checked. -/
def all : List Rule :=
  [.port, .address, .gracefulShutdown, .level, .maxConnections, .opTimeout, .pollInterval,
    .listTtl, .listLockTtl, .detailTtl, .detailLockTtl, .defaultLimit]

theorem mem_all (rule : Rule) : rule ∈ all := by
  cases rule <;> decide

def key : Rule → String
  | .port => "server.port"
  | .address => "server.addr"
  | .gracefulShutdown => "server.graceful_shutdown_seconds"
  | .level => "logging.level"
  | .maxConnections => "database.max_connections"
  | .opTimeout => "cache.op_timeout_ms"
  | .pollInterval => "cache.poll_interval_ms"
  | .listTtl => "cache.list_ttl_secs"
  | .listLockTtl => "cache.list_lock_ttl_ms"
  | .detailTtl => "cache.detail_ttl_secs"
  | .detailLockTtl => "cache.detail_lock_ttl_ms"
  | .defaultLimit => "feed.default_limit"

/-- Whether the settings keep a rule. -/
def Holds (d : Draft) (o : Overrides) : Rule → Prop
  | .port => d.port o ≠ 0
  | .address => (Net.Address.parse? (d.place o)).isSome
  | .gracefulShutdown => d.gracefulShutdownSecs ≠ 0
  | .level => (d.threshold? o).isSome
  | .maxConnections => d.maxConnections o ≠ 0
  | .opTimeout => (d.cached o).opTimeoutMs ≠ 0
  | .pollInterval => (d.cached o).pollIntervalMs ≠ 0
  | .listTtl => (d.cached o).listTtlSecs ≠ 0
  | .listLockTtl => (d.cached o).listLockTtlMs ≠ 0
  | .detailTtl => (d.cached o).detailTtlSecs ≠ 0
  | .detailLockTtl => (d.cached o).detailLockTtlMs ≠ 0
  | .defaultLimit => d.limits.default ≠ 0 ∧ d.limits.default ≤ d.limits.max

instance (rule : Rule) : Decidable (rule.Holds d o) :=
  match rule with
  | .address | .level => inferInstanceAs (Decidable (_ = true))
  | .defaultLimit => inferInstanceAs (Decidable (_ ∧ _))
  | .port | .gracefulShutdown | .maxConnections | .opTimeout | .pollInterval | .listTtl
  | .listLockTtl | .detailTtl | .detailLockTtl => inferInstanceAs (Decidable (_ ≠ _))

def violation (d : Draft) (o : Overrides) : Rule → Violation
  | .port => .portZero
  | .address => .address (d.place o)
  | .gracefulShutdown => .zero .gracefulShutdown
  | .level => .level
  | .maxConnections => .zero .maxConnections
  | .opTimeout => .zero .opTimeout
  | .pollInterval => .zero .pollInterval
  | .listTtl => .zero .listTtl
  | .listLockTtl => .zero .listLockTtl
  | .detailTtl => .zero .detailTtl
  | .detailLockTtl => .zero .detailLockTtl
  | .defaultLimit =>
    if d.limits.default = 0 then .zero .defaultLimit else .limitAbove d.limits.max

private theorem violation_key (rule : Rule) : (rule.violation d o).key = rule.key := by
  cases rule with
  | defaultLimit =>
    rw [violation]
    split <;> rfl
  | _ => rfl

/-- Whether a violation tells that a rule is broken. -/
def Fails (d : Draft) (o : Overrides) (rule : Rule) (v : Violation) : Prop :=
  ¬ rule.Holds d o ∧ v = rule.violation d o

theorem not_fails_iff {rule : Rule} : (∀ v, ¬ rule.Fails d o v) ↔ rule.Holds d o := by
  constructor
  · intro sound
    by_contra broken
    exact sound _ ⟨broken, rfl⟩
  · intro holds v failed
    exact failed.1 holds

end Rule

section Checks

open Rule

/-- A check tells of its rule if it passes where the rule is kept, and refuses the rest as it
should. -/
theorem reports_of_holds {rule : Rule} {x : Except Violation α}
    (passes : rule.Holds d o → ∃ a, x = .ok a)
    (refuses : ¬ rule.Holds d o → x = .error (rule.violation d o)) :
    Reports (Fails d o) [rule] x := by
  apply Reports.single
  · intro a passed
    rw [not_fails_iff]
    by_contra broken
    rw [refuses broken] at passed
    cases passed
  · intro v refused
    have broken : ¬ rule.Holds d o := by
      intro holds
      obtain ⟨a, passed⟩ := passes holds
      rw [passed] at refused
      cases refused
    rw [refuses broken] at refused
    exact ⟨broken, (Except.error.inj refused).symm⟩

theorem positive_eq_ok_iff {setting : Positive} {n m : Nat} :
    positive setting n = .ok m ↔ n ≠ 0 ∧ m = n := by
  unfold positive
  split
  · next zero => simp [zero]
  · next nonzero => simp [nonzero, eq_comm]

theorem reports_positive {rule : Rule} {setting : Positive} {n : Nat}
    (holds : rule.Holds d o ↔ n ≠ 0) (told : rule.violation d o = .zero setting) :
    Reports (Fails d o) [rule] (positive setting n) := by
  apply reports_of_holds
  · intro kept
    exact ⟨n, positive_eq_ok_iff.mpr ⟨holds.mp kept, rfl⟩⟩
  · intro broken
    rw [told, positive, if_pos (not_not.mp (mt holds.mpr broken))]

private theorem reports_found {rule : Rule} {found : Option α}
    (holds : rule.Holds d o ↔ found.isSome) :
    Reports (Fails d o) [rule] (found.elim (.error (rule.violation d o)) .ok) := by
  apply reports_of_holds
  · intro kept
    obtain ⟨a, rfl⟩ := Option.isSome_iff_exists.mp (holds.mp kept)
    exact ⟨a, rfl⟩
  · intro broken
    rw [Option.not_isSome_iff_eq_none.mp (mt holds.mpr broken), Option.elim_none]

/-- The text of an address is looked at only if its port can be used. -/
theorem checkAddress_override : checkAddress (d.override o).server =
    (if d.port o = 0 then .error .portZero else .ok ()) >>= fun _ =>
      (Net.Address.parse? (d.place o)).elim (.error (.address (d.place o))) .ok := by
  have port : (d.override o).server.port.getD defaultPort = d.port o := getD_orElse _ _ _
  have place : (d.override o).server.host.getD defaultHost ++ ":" ++ toString (d.port o) =
      d.place o := by
    rw [Draft.place, ← getD_orElse]
    rfl
  simp only [checkAddress, port, place]
  split
  · rfl
  · cases Net.Address.parse? (d.place o) <;> rfl

private theorem checkThreshold_override : checkThreshold (d.override o).logging =
    (d.threshold? o).elim (.error .level) .ok := by
  unfold checkThreshold Draft.threshold? Draft.override
  cases (o.level <|> d.logging.level) with
  | none => rfl
  | some text =>
    dsimp only
    cases Log.Threshold.parse? text <;> rfl

private theorem reports_checkAddress :
    Reports (Fails d o) [.port, .address] (checkAddress (d.override o).server) := by
  rw [checkAddress_override]
  have port : Reports (Fails d o) [.port]
      (if d.port o = 0 then .error .portZero else .ok () : Except Violation Unit) := by
    apply reports_of_holds
    · intro holds
      exact ⟨(), if_neg holds⟩
    · intro broken
      exact if_pos (not_not.mp broken)
  exact port.bind fun _ _ => reports_found Iff.rfl

private theorem reports_checkThreshold :
    Reports (Fails d o) [.level] (checkThreshold (d.override o).logging) := by
  rw [checkThreshold_override]
  exact reports_found Iff.rfl

private theorem reports_checkCache : Reports (Fails d o)
    [opTimeout, pollInterval, listTtl, listLockTtl, detailTtl, detailLockTtl]
    (checkCache (d.override o).cache) := by
  rw [checkCache]
  apply Reports.cons (reports_positive Iff.rfl rfl)
  intro _ _
  apply Reports.cons (reports_positive Iff.rfl rfl)
  intro _ _
  apply Reports.cons (reports_positive Iff.rfl rfl)
  intro _ _
  apply Reports.cons (reports_positive Iff.rfl rfl)
  intro _ _
  apply Reports.cons (reports_positive Iff.rfl rfl)
  intro _ _
  apply Reports.cons (reports_positive Iff.rfl rfl)
  intro _ _
  exact .passed nofun

/-- Both bounds of a page size are looked at under one name. -/
theorem checkLimits_override : checkLimits (d.override o).feed =
    if d.limits.default = 0 then .error (.zero .defaultLimit)
    else if d.limits.max < d.limits.default then .error (.limitAbove d.limits.max)
    else .ok d.limits := rfl

private theorem reports_checkLimits :
    Reports (Fails d o) [.defaultLimit] (checkLimits (d.override o).feed) := by
  rw [checkLimits_override]
  apply reports_of_holds
  · rintro ⟨nonzero, below⟩
    exact ⟨d.limits, by rw [if_neg nonzero, if_neg (UInt32.not_lt.mpr below)]⟩
  · intro broken
    rw [violation]
    split
    · rfl
    · next nonzero =>
      have above : d.limits.max < d.limits.default := by
        by_contra below
        exact broken ⟨nonzero, UInt32.not_lt.mp below⟩
      rw [if_pos above]

private theorem reports_maxConnections : Reports (Fails d o) [.maxConnections]
    (positive .maxConnections
      ((d.override o).database.maxConnections.getD defaultMaxConnections).toNat) := by
  simp only [Draft.override, getD_orElse]
  apply reports_positive _ rfl
  exact not_congr UInt32.toNat_inj.symm

/-- Checking tells of the first rule that the settings break. -/
theorem reports_ofDraft (d : Draft) (o : Overrides) :
    Reports (Fails d o) all (ofDraft (d.override o)) := by
  have parts : all = [Rule.port, Rule.address] ++ (gracefulShutdown :: level ::
      Rule.maxConnections :: ([opTimeout, pollInterval, listTtl, listLockTtl, detailTtl,
        detailLockTtl] ++ [defaultLimit])) := rfl
  rw [parts, ofDraft]
  apply Reports.bind reports_checkAddress
  intro _ _
  apply Reports.cons (reports_positive Iff.rfl rfl)
  intro _ _
  apply Reports.cons reports_checkThreshold
  intro _ _
  apply Reports.cons reports_maxConnections
  intro _ _
  apply Reports.bind reports_checkCache
  intro _ _
  apply Reports.cons reports_checkLimits
  intro _ _
  exact .passed nofun

end Checks

private theorem address_of_check {address : Net.Address}
    (passed : checkAddress (d.override o).server = .ok address) :
    Net.Address.parse? (d.place o) = some address := by
  rw [checkAddress_override] at passed
  obtain ⟨_, -, parsed⟩ := bind_eq_ok_iff.mp passed
  cases found : Net.Address.parse? (d.place o) with
  | none =>
    rw [found] at parsed
    cases parsed
  | some other =>
    rw [found] at parsed
    rw [Except.ok.inj parsed]

private theorem threshold_of_check {threshold : Log.Threshold}
    (passed : checkThreshold (d.override o).logging = .ok threshold) :
    d.threshold? o = some threshold := by
  rw [checkThreshold_override] at passed
  cases found : d.threshold? o with
  | none =>
    rw [found] at passed
    cases passed
  | some other =>
    rw [found] at passed
    rw [Except.ok.inj passed]

private theorem cache_of_check {cache : Cache.Settings}
    (passed : checkCache (d.override o).cache = .ok cache) : cache = d.cached o := by
  unfold checkCache at passed
  obtain ⟨opTimeout, timed, passed⟩ := bind_eq_ok_iff.mp passed
  obtain ⟨pollInterval, polled, passed⟩ := bind_eq_ok_iff.mp passed
  obtain ⟨listTtl, listed, passed⟩ := bind_eq_ok_iff.mp passed
  obtain ⟨listLockTtl, listLocked, passed⟩ := bind_eq_ok_iff.mp passed
  obtain ⟨detailTtl, detailed, passed⟩ := bind_eq_ok_iff.mp passed
  obtain ⟨detailLockTtl, detailLocked, passed⟩ := bind_eq_ok_iff.mp passed
  obtain rfl := Except.ok.inj passed
  rw [(positive_eq_ok_iff.mp timed).2, (positive_eq_ok_iff.mp polled).2,
    (positive_eq_ok_iff.mp listed).2, (positive_eq_ok_iff.mp listLocked).2,
    (positive_eq_ok_iff.mp detailed).2, (positive_eq_ok_iff.mp detailLocked).2]
  simp only [Draft.override, getD_orElse, bind_trimmed?]
  rfl

private theorem limits_of_check {limits : Feed.Limits}
    (passed : checkLimits (d.override o).feed = .ok limits) : limits = d.limits := by
  rw [checkLimits_override] at passed
  split at passed
  · cases passed
  · split at passed
    · cases passed
    · exact (Except.ok.inj passed).symm

/-- Settings that pass are those that were asked for. -/
theorem settings_of_check {s : Settings} (passed : ofDraft (d.override o) = .ok s) :
    ∃ address threshold, Net.Address.parse? (d.place o) = some address ∧
      d.threshold? o = some threshold ∧
      s = ⟨address, d.gracefulShutdownSecs, threshold, chosen o.json d.logging.json false,
        url o.databaseUrl d.database.url, d.maxConnections o, d.cached o, d.limits⟩ := by
  unfold ofDraft at passed
  obtain ⟨address, addressed, passed⟩ := bind_eq_ok_iff.mp passed
  obtain ⟨shutdown, lasting, passed⟩ := bind_eq_ok_iff.mp passed
  obtain ⟨threshold, levelled, passed⟩ := bind_eq_ok_iff.mp passed
  obtain ⟨_, -, passed⟩ := bind_eq_ok_iff.mp passed
  obtain ⟨cache, cached, passed⟩ := bind_eq_ok_iff.mp passed
  obtain ⟨limits, limited, passed⟩ := bind_eq_ok_iff.mp passed
  obtain rfl := Except.ok.inj passed
  refine ⟨address, threshold, address_of_check addressed, threshold_of_check levelled, ?_⟩
  rw [(positive_eq_ok_iff.mp lasting).2, cache_of_check cached, limits_of_check limited]
  simp only [Draft.override, getD_orElse, bind_trimmed?]
  rfl

/-- Where nothing is given, the defaults keep every rule. -/
theorem holds_of_empty (rule : Rule) : rule.Holds Draft.empty Overrides.none := by
  cases rule with
  | address => decide +kernel
  | _ => decide

/-- Settings pass exactly if all rules hold for what they come to. Otherwise the violation names the
first rule that is broken. What passes holds what the command line says, else what was given, else
the defaults; its address has the port that was asked for, and every page size that it grants lies
between one and the maximum. -/
theorem draft_checked (d : Draft) (o : Overrides) :
    ((∃ s, ofDraft (d.override o) = .ok s) ↔ ∀ rule : Rule, rule.Holds d o) ∧
    (∀ v, ofDraft (d.override o) = .error v →
      ∃ before rule behind, Rule.all = before ++ rule :: behind ∧
        (∀ earlier ∈ before, earlier.Holds d o) ∧ ¬ rule.Holds d o ∧ v.key = rule.key) ∧
    ∀ s, ofDraft (d.override o) = .ok s →
      Net.Address.parse? (d.place o) = some s.address ∧ s.address.port = (d.port o).toNat ∧
      s.gracefulShutdownSecs = d.gracefulShutdownSecs ∧ d.threshold? o = some s.threshold ∧
      s.json = chosen o.json d.logging.json false ∧
      s.databaseUrl = url o.databaseUrl d.database.url ∧
      s.maxConnections = d.maxConnections o ∧ s.cache = d.cached o ∧ s.limits = d.limits ∧
      ∀ requested, 1 ≤ s.limits.clamp requested ∧ s.limits.clamp requested ≤ s.limits.max := by
  have reports := reports_ofDraft d o
  have passes : (∃ s, ofDraft (d.override o) = .ok s) ↔ ∀ rule : Rule, rule.Holds d o := by
    rw [reports.exists_ok_iff]
    simp only [Rule.not_fails_iff, Rule.mem_all, forall_const]
  refine ⟨passes, ?_, ?_⟩
  · intro v refused
    rw [refused] at reports
    obtain ⟨before, rule, behind, split, sound, broken, rfl⟩ := reports.exists_of_error
    simp only [Rule.not_fails_iff] at sound
    exact ⟨before, rule, behind, split, sound, broken, rule.violation_key⟩
  · intro s passed
    obtain ⟨nonzero, below⟩ := passes.mp ⟨s, passed⟩ .defaultLimit
    obtain ⟨address, threshold, addressed, levelled, rfl⟩ := settings_of_check passed
    have sound : d.limits.Sound := ⟨Feed.Limits.one_le_of_ne_zero nonzero, below⟩
    exact ⟨addressed, Net.port_of_parse addressed, rfl, levelled, rfl, rfl, rfl, rfl, rfl,
      sound.clamp⟩

/-- Settings with blanks around the URL of the database. -/
def Draft.padded : Draft :=
  { Draft.empty with
    server := ⟨some "127.0.0.1", some 8080, some 5⟩
    database := ⟨some "\t postgres://clips \n", none⟩
    cache := { Draft.empty.cache with redisUrl := some "redis://cache" } }

/-- A command line that moves the service and says a blank URL for the cache. -/
def Overrides.moved : Overrides :=
  { Overrides.none with
    host := some "[::1]", port := some 9000, level := some "DEBUG", redisUrl := some "  " }

theorem padded_urls_accepted : ∃ s, ofDraft (Draft.padded.override Overrides.moved) = .ok s ∧
    s.address.port = 9000 ∧ s.gracefulShutdownSecs = 5 ∧ s.threshold = .atLeast .debug ∧
    s.databaseUrl = some "postgres://clips" ∧ s.cache.redisUrl = none ∧
    s.limits.clamp (some 80) = 10 := by
  obtain ⟨passes, -, asked⟩ := draft_checked Draft.padded Overrides.moved
  have kept (rule : Rule) : rule.Holds Draft.padded Overrides.moved := by
    cases rule with
    | address => decide +kernel
    | level => decide +kernel
    | _ => decide
  obtain ⟨s, passed⟩ := passes.mpr kept
  obtain ⟨-, port, shutdown, level, -, database, -, cached, limits, -⟩ := asked s passed
  refine ⟨s, passed, port, shutdown, ?_, ?_, ?_, ?_⟩
  · have read : Draft.padded.threshold? Overrides.moved = some (.atLeast .debug) := by
      decide +kernel
    exact Option.some.inj (level.symm.trans read)
  · rw [database]
    decide +kernel
  · rw [cached]
    decide +kernel
  · rw [limits]
    decide

end Settings

end ClipFeed
