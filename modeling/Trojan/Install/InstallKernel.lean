import Trojan.Install.Runtime
import Trojan.Util.Machine

/-!
# The installer and its rollback

`install-kernel.sh --apply` copies the files it is about to write into the
directory `last-known-good`, or leaves a marker there for a file that does not
exist; it writes the manifest, the configuration and the Caddyfile, starts the
services and validates the result. If the validation fails, each file is restored
from its copy, or removed if there is a marker.

The directory is the same for all runs, and nothing is ever deleted from it. A
file that an earlier run has found has a copy there for good, and the rollback
looks for a copy before it looks for the marker. `ApplyRun.rollback_iff` says when
a rollback does what it is for: exactly if no file that was absent when the run
started has a copy. It also says what a successful run leaves behind. The
validation tests three files, but it is the condition of an `if`, where a command
that fails does not end the script, so that only its last test decides; the first
two hold all the same, because the run has just rendered these files – unless it
was also given `--check-only`, which skips the rendering and nothing after it.
-/

/-- The certificates that a run starts with. -/
inductive CertBootstrap where
  | live
  /-- `INSTALL_CERT_FIXTURE_DIR`: the certificate in it, if there is one, and whether
  there is a key. -/
  | fixtures (edgeCert : Option Text) (hasKey : Bool)
  deriving DecidableEq, Repr

/-- **A run of the installer** with `--apply`: its arguments, and what its
environment does. -/
structure ApplyRun where
  wwwDomain : Text
  edgeDomain : Text
  dnsProvider : Text
  /-- `--check-only`, which may be given as well. -/
  checkOnly : Bool := false
  /-- `INSTALL_TROJAN_LOCAL_PORT` -/
  trojanLocalPort : Text := Text.ofString "8443"
  /-- The environment of the process. -/
  environ : List (Text × Text) := []
  hasPackageManager : Bool := true
  backupOutcome : ManagedFile → WriteOutcome := fun _ => .written
  /-- The binaries are there, with the right checksums. -/
  coreInstalled : Bool := true
  writeOutcome : ManagedFile → WriteOutcome := fun _ => .written
  /-- `tp` and the link to it. -/
  cliInstalled : Bool := true
  certBootstrap : CertBootstrap := .live
  servicesRestarted : Bool := true
  /-- A certificate that the services have exported by the time of the validation. -/
  issuedCert : Option Text := none
  /-- `INSTALL_FORCE_VALIDATE_FAIL` -/
  forceValidateFail : Bool := false

/-- How a run ends, and what it leaves behind. -/
inductive ApplyResult where
  /-- A command has failed before the validation. -/
  | aborted (root : InstallRoot)
  /-- The validation has failed. -/
  | rolledBack (root : InstallRoot)
  | succeeded (root : InstallRoot)

namespace ApplyResult

def root : ApplyResult → InstallRoot
  | .aborted root => root
  | .rolledBack root => root
  | .succeeded root => root

def isRolledBack : ApplyResult → Bool
  | .rolledBack _ => true
  | _ => false

theorem exists_of_isRolledBack {result : ApplyResult} (h : result.isRolledBack = true) :
    ∃ root, result = .rolledBack root := by
  cases result with
  | aborted root => exact nomatch h
  | rolledBack root => exact ⟨root, rfl⟩
  | succeeded root => exact nomatch h

end ApplyResult

namespace ApplyRun

open ManagedFile

variable (python : Python) (run : ApplyRun)

/-- The script goes on only if a command succeeds: `set -e`. -/
def check (succeeds : Bool) (root : InstallRoot) : Except InstallRoot InstallRoot :=
  if succeeds then .ok root else .error root

/-- `require_value` -/
def isValue (argument : Text) : Bool :=
  !argument.isEmpty && !(Text.ofString "--").isPrefixOf argument

/-- The environment file, and what the process has besides. -/
def preflightEnv (env : List (Text × Text)) : List (Text × Text) :=
  run.environ.foldl (fun env entry =>
    if entry.2.isEmpty || (env.lookup entry.1).isSome then env else env ++ [entry]) env

def phasePreflight (root : InstallRoot) : Except InstallRoot InstallRoot :=
  check (((root.loadEnvFile).bind (fun env =>
    ProviderRegistry.validateProviderEnv run.dnsProvider (run.preflightEnv env))) == some []) root

/-- `backup_if_exists` -/
def backupIfExists (file : ManagedFile) (root : InstallRoot) : Except InstallRoot InstallRoot :=
  match root (.managed file) with
  | some content => root.transfer (run.backupOutcome file) (.backup file) content
  | none => .ok (Function.update root (.missing file) (some []))

/-- The manifest that a run writes. -/
def manifest (spec : ProviderSpec) (port : ℤ) : Manifest :=
  [("www_domain", .str run.wwwDomain),
    ("edge_domain", .str run.edgeDomain),
    ("dns_provider", .str run.dnsProvider),
    ("dns_provider_module", .str spec.caddyDnsModule),
    ("support_tier", .str spec.supportTier),
    ("web_mode", .str (Text.ofString "static")),
    ("trojan_local_addr", .str (Text.ofString "127.0.0.1")),
    ("trojan_local_port", .int port),
    ("trojan_password_env_key", .str (Text.ofString "TROJAN_PASSWORD"))]

def phaseWriteRuntimeConfig (root : InstallRoot) : Except InstallRoot InstallRoot :=
  if run.checkOnly then .ok root
  else
    match python.parseInt run.trojanLocalPort, ProviderRegistry.registry.lookup run.dnsProvider with
    | some port, some spec => do
      let root ← python.writeManifest (run.writeOutcome .manifest) (run.manifest spec port) root
      match python.renderTrojanConfig (run.manifest spec port) with
      | some text => root.writeText (run.writeOutcome .config) (.managed .config) text
      | none => .error root
    | _, _ => .error root

def phaseConfigureCaddy (root : InstallRoot) : Except InstallRoot InstallRoot :=
  if run.checkOnly then .ok root
  else
    match (python.readManifest root).bind python.renderCaddyfile with
    | some text => root.writeText (run.writeOutcome .caddyfile) (.managed .caddyfile) text
    | none => .error root

def phaseCertBootstrap (root : InstallRoot) : Except InstallRoot InstallRoot :=
  match run.certBootstrap with
  | .live => .ok root
  | .fixtures none _ => .error root
  | .fixtures (some edgeCert) hasKey =>
    check hasKey (Function.update root .edgeCert (some edgeCert))

/-- The services, once started, may export a certificate. -/
def phaseActivateServices (root : InstallRoot) : Except InstallRoot InstallRoot :=
  if run.servicesRestarted then
    .ok (Function.update root .edgeCert (run.issuedCert.or (root .edgeCert)))
  else .error root

/-- `test -s` -/
def nonEmpty (root : InstallRoot) (place : Place) : Bool := (root place).any (fun text => !text.isEmpty)

/-- The status of a list of commands where none of them ends the script: that of the
last. -/
def lastStatus (statuses : List Bool) : Bool := statuses.getLastD true

/-- `phase_validate`, as the condition of an `if`. -/
def phaseValidate (root : InstallRoot) : Bool :=
  if run.forceValidateFail then false
  else lastStatus [nonEmpty root (.managed .config), nonEmpty root (.managed .caddyfile),
    nonEmpty root .edgeCert]

/-- `restore_backup` -/
def restoreBackup (file : ManagedFile) (root : InstallRoot) : InstallRoot :=
  match root (.backup file) with
  | some content => Function.update root (.managed file) (some content)
  | none =>
    if (root (.missing file)).isSome then Function.update root (.managed file) none else root

/-- **The run up to the validation.** The script has no other way to fail than to
stop where it is. -/
def prepare (root : InstallRoot) : Except InstallRoot InstallRoot := do
  let root ← check (isValue run.wwwDomain && isValue run.edgeDomain && isValue run.dnsProvider) root
  let root ← run.phasePreflight root
  let root ← check run.hasPackageManager root
  let root ← run.backupIfExists .manifest root
  let root ← run.backupIfExists .config root
  let root ← run.backupIfExists .caddyfile root
  let root ← check (run.checkOnly || run.coreInstalled) root
  let root ← run.phaseWriteRuntimeConfig python root
  let root ← run.phaseConfigureCaddy python root
  let root ← check run.cliInstalled root
  let root ← run.phaseCertBootstrap root
  run.phaseActivateServices root

/-- **`install-kernel.sh --apply`**. -/
def apply (root : InstallRoot) : ApplyResult :=
  match run.prepare python root with
  | .error root => .aborted root
  | .ok root =>
    if run.phaseValidate root then .succeeded root
    else .rolledBack (restoreBackup .caddyfile (restoreBackup .config (restoreBackup .manifest root)))

/-! ## What a run has done by the time of the validation -/

variable {python run}

theorem bind_ok {x : Except InstallRoot InstallRoot}
    {f : InstallRoot → Except InstallRoot InstallRoot} {root' : InstallRoot} :
    (x >>= f) = .ok root' ↔ ∃ root, x = .ok root ∧ f root = .ok root' := by
  cases x with
  | error root => exact ⟨nofun, fun ⟨_, h, _⟩ => nomatch h⟩
  | ok root =>
    exact ⟨fun h => ⟨root, rfl, h⟩, fun ⟨_, h, hf⟩ => Except.ok.inj h ▸ hf⟩

theorem check_ok {succeeds : Bool} {root root' : InstallRoot} :
    check succeeds root = .ok root' ↔ succeeds = true ∧ root = root' := by
  cases succeeds with
  | false => exact ⟨nofun, fun h => nomatch h.1⟩
  | true => exact ⟨fun h => ⟨rfl, Except.ok.inj h⟩, fun h => congrArg Except.ok h.2⟩

/-- The backup of a file, done. -/
def backedUp (file : ManagedFile) (root : InstallRoot) : InstallRoot :=
  match root (.managed file) with
  | some content => Function.update root (.backup file) (some content)
  | none => Function.update root (.missing file) (some [])

theorem backupIfExists_ok {file : ManagedFile} {root root' : InstallRoot}
    (h : run.backupIfExists file root = .ok root') : root' = backedUp file root := by
  unfold backupIfExists at h
  unfold backedUp
  split at h
  · exact (InstallRoot.transfer_ok.mp h).2
  · exact (Except.ok.inj h).symm

/-- A backup touches a copy and a marker. -/
theorem backedUp_of_ne {file : ManagedFile} {place : Place} (root : InstallRoot)
    (hbackup : place ≠ .backup file) (hmissing : place ≠ .missing file) :
    backedUp file root place = root place := by
  cases hfound : root (.managed file) with
  | some content => simp only [backedUp, hfound, Function.update_of_ne hbackup]
  | none => simp only [backedUp, hfound, Function.update_of_ne hmissing]

theorem backedUp_backup (file : ManagedFile) (root : InstallRoot) :
    backedUp file root (.backup file) = (root (.managed file)).or (root (.backup file)) := by
  cases hfound : root (.managed file) with
  | some content => simp only [backedUp, hfound, Function.update_self, Option.some_or]
  | none => simp [backedUp, hfound]

theorem backedUp_missing {file : ManagedFile} {root : InstallRoot}
    (h : root (.managed file) = none) : (backedUp file root (.missing file)).isSome = true := by
  simp only [backedUp, h, Function.update_self, Option.isSome_some]

/-- The backups of all the files. -/
def allBackedUp (root : InstallRoot) : InstallRoot :=
  backedUp .caddyfile (backedUp .config (backedUp .manifest root))

theorem allBackedUp_of_ne {place : Place} (root : InstallRoot)
    (hbackup : ∀ file, place ≠ .backup file) (hmissing : ∀ file, place ≠ .missing file) :
    allBackedUp root place = root place := by
  unfold allBackedUp
  rw [backedUp_of_ne _ (hbackup _) (hmissing _), backedUp_of_ne _ (hbackup _) (hmissing _),
    backedUp_of_ne _ (hbackup _) (hmissing _)]

theorem allBackedUp_backup (root : InstallRoot) (file : ManagedFile) :
    allBackedUp root (.backup file) = (root (.managed file)).or (root (.backup file)) := by
  unfold allBackedUp
  cases file <;> simp [backedUp_backup, backedUp_of_ne]

theorem allBackedUp_missing {root : InstallRoot} {file : ManagedFile}
    (h : root (.managed file) = none) : (allBackedUp root (.missing file)).isSome = true := by
  unfold allBackedUp
  cases file with
  | manifest =>
    rw [backedUp_of_ne _ (by simp) (by simp), backedUp_of_ne _ (by simp) (by simp)]
    exact backedUp_missing h
  | config =>
    rw [backedUp_of_ne _ (by simp) (by simp)]
    refine backedUp_missing ?_
    rwa [backedUp_of_ne _ (by simp) (by simp)]
  | caddyfile =>
    refine backedUp_missing ?_
    rwa [backedUp_of_ne _ (by simp) (by simp), backedUp_of_ne _ (by simp) (by simp)]

/-- **The files that a run has rendered**, from the manifest it has written and from
the one it has read back. -/
structure Rendered (python : Python) (run : ApplyRun) (root : InstallRoot) : Prop where
  manifest : ∃ spec port, ProviderRegistry.registry.lookup run.dnsProvider = some spec
    ∧ python.parseInt run.trojanLocalPort = some port
    ∧ root (.managed .manifest) = some (python.manifestText (run.manifest spec port))
    ∧ (python.manifestText (run.manifest spec port)).wellFormed = true
    ∧ root (.managed .config) = python.renderTrojanConfig (run.manifest spec port)
  caddyfile : ∃ manifest text, python.readManifest root = some manifest
    ∧ python.renderCaddyfile manifest = some text ∧ root (.managed .caddyfile) = some text

/-- What a run finds in a file is not what else is there. -/
theorem readManifest_congr {root root' : InstallRoot}
    (h : root' (.managed .manifest) = root (.managed .manifest)) :
    python.readManifest root' = python.readManifest root := by
  unfold Python.readManifest InstallRoot.readText
  rw [h]

theorem phaseWriteRuntimeConfig_ok {root root' : InstallRoot} (hcheck : run.checkOnly = false)
    (h : run.phaseWriteRuntimeConfig python root = .ok root') :
    ∃ spec port text, ProviderRegistry.registry.lookup run.dnsProvider = some spec
      ∧ python.parseInt run.trojanLocalPort = some port
      ∧ (python.manifestText (run.manifest spec port)).wellFormed = true
      ∧ python.renderTrojanConfig (run.manifest spec port) = some text
      ∧ root' = Function.update (Function.update root (.managed .manifest)
          (some (python.manifestText (run.manifest spec port)))) (.managed .config) (some text) := by
  unfold phaseWriteRuntimeConfig at h
  rw [if_neg (by simp [hcheck])] at h
  split at h
  · rename_i port spec hport hspec
    obtain ⟨mid, hmid, hrest⟩ := bind_ok.mp h
    obtain ⟨hformed, rfl⟩ := InstallRoot.writeText_ok hmid
    split at hrest
    · rename_i text htext
      exact ⟨spec, port, text, hspec, hport, hformed, htext, (InstallRoot.writeText_ok hrest).2⟩
    · exact nomatch hrest
  · exact nomatch h

theorem phaseConfigureCaddy_ok {root root' : InstallRoot} (hcheck : run.checkOnly = false)
    (h : run.phaseConfigureCaddy python root = .ok root') :
    ∃ manifest text, python.readManifest root = some manifest
      ∧ python.renderCaddyfile manifest = some text
      ∧ root' = Function.update root (.managed .caddyfile) (some text) := by
  unfold phaseConfigureCaddy at h
  rw [if_neg (by simp [hcheck])] at h
  split at h
  · rename_i text htext
    obtain ⟨manifest, hread, hrender⟩ := Option.bind_eq_some_iff.mp htext
    exact ⟨manifest, text, hread, hrender, (InstallRoot.writeText_ok h).2⟩
  · exact nomatch h

/-- A certificate is all that the last phases touch. -/
theorem phaseCertBootstrap_ok {root root' : InstallRoot} {place : Place}
    (h : run.phaseCertBootstrap root = .ok root') (hplace : place ≠ .edgeCert) :
    root' place = root place := by
  unfold phaseCertBootstrap at h
  split at h
  · exact congrFun (Except.ok.inj h).symm place
  · exact nomatch h
  · rw [← (check_ok.mp h).2, Function.update_of_ne hplace]

theorem phaseActivateServices_ok {root root' : InstallRoot} {place : Place}
    (h : run.phaseActivateServices root = .ok root') (hplace : place ≠ .edgeCert) :
    root' place = root place := by
  unfold phaseActivateServices at h
  split at h
  · rw [← Except.ok.inj h, Function.update_of_ne hplace]
  · exact nomatch h

/-- **What a run that reaches the validation has done**: it has made its backups and,
unless it only checks, rendered the files. -/
theorem prepare_ok {root root' : InstallRoot} (h : run.prepare python root = .ok root') :
    (∀ file, root' (.backup file) = (root (.managed file)).or (root (.backup file)))
      ∧ (∀ file, root (.managed file) = none → (root' (.missing file)).isSome = true)
      ∧ (run.checkOnly = true → ∀ file, root' (.managed file) = root (.managed file))
      ∧ (run.checkOnly = false → Rendered python run root') := by
  obtain ⟨_, hargs, h₁⟩ := bind_ok.mp h
  obtain rfl := (check_ok.mp hargs).2
  obtain ⟨_, hpreflight, h₂⟩ := bind_ok.mp h₁
  obtain rfl := (check_ok.mp hpreflight).2
  obtain ⟨_, hos, h₃⟩ := bind_ok.mp h₂
  obtain rfl := (check_ok.mp hos).2
  obtain ⟨_, hmanifest, h₄⟩ := bind_ok.mp h₃
  obtain rfl := backupIfExists_ok hmanifest
  obtain ⟨_, hconfig, h₅⟩ := bind_ok.mp h₄
  obtain rfl := backupIfExists_ok hconfig
  obtain ⟨_, hcaddyfile, h₆⟩ := bind_ok.mp h₅
  obtain rfl := backupIfExists_ok hcaddyfile
  obtain ⟨_, hcore, h₇⟩ := bind_ok.mp h₆
  obtain rfl := (check_ok.mp hcore).2
  obtain ⟨written, hwritten, h₈⟩ := bind_ok.mp h₇
  obtain ⟨configured, hconfigured, h₉⟩ := bind_ok.mp h₈
  obtain ⟨_, hcli, h₁₀⟩ := bind_ok.mp h₉
  obtain rfl := (check_ok.mp hcli).2
  obtain ⟨bootstrapped, hbootstrapped, hactivated⟩ := bind_ok.mp h₁₀
  change run.phaseWriteRuntimeConfig python (allBackedUp root) = .ok written at hwritten
  have hlast (place : Place) (hplace : place ≠ .edgeCert) : root' place = configured place :=
    (phaseActivateServices_ok hactivated hplace).trans (phaseCertBootstrap_ok hbootstrapped hplace)
  cases hcheck : run.checkOnly with
  | true =>
    have hall (place : Place) (hplace : place ≠ .edgeCert) :
        root' place = allBackedUp root place := by
      rw [phaseWriteRuntimeConfig, if_pos hcheck] at hwritten
      rw [phaseConfigureCaddy, if_pos hcheck] at hconfigured
      rw [hlast place hplace, ← Except.ok.inj hconfigured, ← Except.ok.inj hwritten]
    refine ⟨fun file => ?_, fun file habsent => ?_, fun _ file => ?_, nofun⟩
    · rw [hall _ (by simp), allBackedUp_backup]
    · rw [hall _ (by simp)]
      exact allBackedUp_missing habsent
    · rw [hall _ (by simp), allBackedUp_of_ne _ (by simp) (by simp)]
  | false =>
    obtain ⟨spec, port, text, hspec, hport, hformed, htext, rfl⟩ :=
      phaseWriteRuntimeConfig_ok hcheck hwritten
    obtain ⟨manifest, caddy, hread, hcaddy, rfl⟩ := phaseConfigureCaddy_ok hcheck hconfigured
    refine ⟨fun file => ?_, fun file habsent => ?_, nofun, fun _ => ⟨?_, ?_⟩⟩
    · rw [hlast _ (by simp)]
      simp [allBackedUp_backup]
    · rw [hlast _ (by simp)]
      simpa using allBackedUp_missing habsent
    · refine ⟨spec, port, hspec, hport, ?_, hformed, ?_⟩
      · rw [hlast _ (by simp)]
        simp
      · rw [hlast _ (by simp), htext]
        simp
    · refine ⟨manifest, caddy, ?_, hcaddy, ?_⟩
      · rw [← hread]
        refine readManifest_congr ?_
        rw [hlast _ (by simp)]
        simp
      · rw [hlast _ (by simp)]
        simp

/-! ## Rollback -/

/-- The three files, restored. -/
theorem restored_managed (root : InstallRoot) (file : ManagedFile) :
    restoreBackup .caddyfile (restoreBackup .config (restoreBackup .manifest root)) (.managed file)
      = (root (.backup file)).or
        (if (root (.missing file)).isSome then none else root (.managed file)) := by
  have hframe (f : ManagedFile) (r : InstallRoot) (place : Place) (h : place ≠ .managed f) :
      restoreBackup f r place = r place := by
    cases hcopy : r (.backup f) with
    | some content => simp only [restoreBackup, hcopy, Function.update_of_ne h]
    | none =>
      cases hmarker : (r (.missing f)).isSome <;>
        simp [restoreBackup, hcopy, hmarker, Function.update_of_ne h]
  have hself (f : ManagedFile) (r : InstallRoot) : restoreBackup f r (.managed f)
      = (r (.backup f)).or (if (r (.missing f)).isSome then none else r (.managed f)) := by
    cases hcopy : r (.backup f) with
    | some content => simp only [restoreBackup, hcopy, Function.update_self, Option.some_or]
    | none =>
      cases hmarker : (r (.missing f)).isSome <;> simp [restoreBackup, hcopy, hmarker]
  cases file with
  | manifest => rw [hframe _ _ _ (by simp), hframe _ _ _ (by simp), hself]
  | config => rw [hframe _ _ _ (by simp), hself, hframe _ _ _ (by simp), hframe _ _ _ (by simp),
      hframe _ _ _ (by simp)]
  | caddyfile => rw [hself, hframe _ _ _ (by simp), hframe _ _ _ (by simp), hframe _ _ _ (by simp),
      hframe _ _ _ (by simp), hframe _ _ _ (by simp), hframe _ _ _ (by simp)]

/-- **What a rollback leaves of a file**: what the run has found, or else the copy
that an earlier run has left. -/
theorem rolledBack_managed {root root' : InstallRoot}
    (h : run.apply python root = .rolledBack root') (file : ManagedFile) :
    root' (.managed file) = (root (.managed file)).or (root (.backup file)) := by
  unfold apply at h
  split at h
  · exact nomatch h
  · rename_i prepared hprepared
    split at h
    · exact nomatch h
    · obtain ⟨hbackup, hmissing, -, -⟩ := prepare_ok hprepared
      rw [← ApplyResult.rolledBack.inj h, restored_managed, hbackup]
      cases hfound : root (.managed file) with
      | some content => simp
      | none =>
        rw [Option.none_or, if_pos (hmissing file hfound), Option.or_none]

/-- A run that succeeds has passed the last of the tests. -/
theorem succeeded_ok {root root' : InstallRoot} (h : run.apply python root = .succeeded root') :
    run.prepare python root = .ok root' ∧ nonEmpty root' .edgeCert = true := by
  unfold apply at h
  split at h
  · exact nomatch h
  · rename_i prepared hprepared
    split at h
    · rename_i hvalid
      obtain rfl := ApplyResult.succeeded.inj h
      refine ⟨hprepared, ?_⟩
      unfold phaseValidate at hvalid
      split at hvalid
      · exact nomatch hvalid
      · exact hvalid
    · exact nomatch h

/-- What is rendered is never empty. -/
theorem nonEmpty_of_rendered {root : InstallRoot} (h : Rendered python run root) :
    nonEmpty root (.managed .config) = true ∧ nonEmpty root (.managed .caddyfile) = true := by
  obtain ⟨spec, port, -, -, -, -, hconfig⟩ := h.manifest
  obtain ⟨manifest, text, -, htext, hcaddy⟩ := h.caddyfile
  constructor
  · rw [nonEmpty, hconfig]
    simp [Python.renderTrojanConfig, Python.trojanConfigPayload, ApplyRun.manifest,
      List.lookup_cons, Text]
  · rw [nonEmpty, hcaddy]
    simp only [Python.renderCaddyfile, Option.bind_eq_bind, Option.bind_eq_some_iff,
      Option.pure_def, Option.some.injEq] at htext
    obtain ⟨www, -, edge, -, _, -, port, -, dns, -, rfl⟩ := htext
    simpa using Python.caddyfileText_ne_nil _ _ _ _

/-! ## Sequences of runs -/

/-- What happens to an installation: a run of the installer, or a change to one of
the files by someone else. -/
inductive InstallEvent where
  | apply (run : ApplyRun)
  | edit (place : Place) (content : Option Text)

/-- Every event is taken. -/
def step (python : Python) (root : InstallRoot) : InstallEvent → Option InstallRoot
  | .apply run => some (run.apply python root).root
  | .edit place content => some (Function.update root place content)

/-- What the installer promises of a run: if its validation fails, the files are as
they were before; if it succeeds, none of those it validates is empty. -/
def Promised (python : Python) (root : InstallRoot) : InstallEvent → Prop
  | .edit _ _ => True
  | .apply run =>
    (∀ root', run.apply python root = .rolledBack root' →
      ∀ file, root' (.managed file) = root (.managed file))
    ∧ ∀ root', run.apply python root = .succeeded root' →
      nonEmpty root' (.managed .config) = true ∧ nonEmpty root' (.managed .caddyfile) = true
        ∧ nonEmpty root' .edgeCert = true

/-- A run has nothing to mislead it: if its validation fails, there is no copy of a
file that was absent when it started; if it succeeds, it was not told to check
only, unless the files were there already. -/
def Unmisled (python : Python) (root : InstallRoot) : InstallEvent → Prop
  | .edit _ _ => True
  | .apply run =>
    ((∃ root', run.apply python root = .rolledBack root') →
      ∀ file, root (.managed file) = none → root (.backup file) = none)
    ∧ ((∃ root', run.apply python root = .succeeded root') →
      run.checkOnly = false ∨ (nonEmpty root (.managed .config) = true
        ∧ nonEmpty root (.managed .caddyfile) = true))

/-- A rollback restores exactly if no absent file has a copy. -/
theorem restores_iff {root root' : InstallRoot} (h : run.apply python root = .rolledBack root') :
    (∀ file, root' (.managed file) = root (.managed file)) ↔
      ∀ file, root (.managed file) = none → root (.backup file) = none := by
  refine forall_congr' (fun file => ?_)
  rw [rolledBack_managed h]
  cases hfound : root (.managed file) with
  | some content => simp
  | none => simp

/-- A success means what it should exactly if the files were rendered, or were there
before. -/
theorem nonEmpty_iff {root root' : InstallRoot} (h : run.apply python root = .succeeded root') :
    (nonEmpty root' (.managed .config) = true ∧ nonEmpty root' (.managed .caddyfile) = true
        ∧ nonEmpty root' .edgeCert = true) ↔
      (run.checkOnly = false ∨ (nonEmpty root (.managed .config) = true
        ∧ nonEmpty root (.managed .caddyfile) = true)) := by
  obtain ⟨hprepared, hcert⟩ := succeeded_ok h
  obtain ⟨-, -, hkept, hrendered⟩ := prepare_ok hprepared
  cases hcheck : run.checkOnly with
  | false =>
    obtain ⟨hconfig, hcaddy⟩ := nonEmpty_of_rendered (hrendered hcheck)
    exact iff_of_true ⟨hconfig, hcaddy, hcert⟩ (.inl rfl)
  | true =>
    have hsame (file : ManagedFile) :
        nonEmpty root' (.managed file) = nonEmpty root (.managed file) := by
      rw [nonEmpty, hkept hcheck file]
      rfl
    rw [hsame, hsame, hcert]
    simp

/-- One run keeps the promise exactly if nothing misleads it. -/
theorem promised_iff (python : Python) (root : InstallRoot) (event : InstallEvent) :
    Promised python root event ↔ Unmisled python root event := by
  cases event with
  | edit place content => exact Iff.rfl
  | apply run =>
    refine and_congr ⟨fun h ⟨root', hrun⟩ => (restores_iff hrun).mp (h root' hrun),
      fun h root' hrun => (restores_iff hrun).mpr (h ⟨root', hrun⟩)⟩
      ⟨fun h ⟨root', hrun⟩ => (nonEmpty_iff hrun).mp (h root' hrun),
        fun h root' hrun => (nonEmpty_iff hrun).mpr (h ⟨root', hrun⟩)⟩

/-- **When the installer keeps its promise.** Whatever is in the files at first, and
whatever happens to them between the runs: every run of a sequence that fails its
validation restores the manifest, the configuration and the Caddyfile, and every
run that succeeds leaves a configuration, a Caddyfile and a certificate, exactly if
no run that fails its validation starts without a file of which the backups hold a
copy, and no run that succeeds is told to check only while the files are missing. -/
theorem promises_kept_iff (python : Python) (start : InstallRoot) (events : List InstallEvent) :
    Machine.Along (step python) (Promised python) start events ↔
      Machine.Along (step python) (Unmisled python) start events := by
  have hsame : Promised python = Unmisled python :=
    funext (fun root => funext (fun event => propext (promised_iff python root event)))
  rw [hsame]

/-! ## A file that comes back -/

/-- The manifest of the sample run, as it is written. -/
def sampleManifestText : Text := [
  "\x7b\n  \"www_domain\": \"www.example.com\",\n",
  "  \"edge_domain\": \"edge.example.com\",\n",
  "  \"dns_provider\": \"cloudflare\",\n",
  "  \"dns_provider_module\": ",
  "\"dns.providers.cloudflare\",\n",
  "  \"support_tier\": \"full\",\n",
  "  \"web_mode\": \"static\",\n",
  "  \"trojan_local_addr\": \"127.0.0.1\",\n",
  "  \"trojan_local_port\": 8443,\n",
  "  \"trojan_password_env_key\": ",
  "\"TROJAN_PASSWORD\"\n\x7d"].flatMap Text.ofString

/-- The configuration of the sample run. -/
def sampleConfigText : Text := [
  "\x7b\n  \"run_type\": \"server\",\n",
  "  \"local_addr\": \"127.0.0.1\",\n",
  "  \"local_port\": 8443,\n",
  "  \"remote_addr\": \"127.0.0.1\",\n",
  "  \"remote_port\": 80,\n",
  "  \"password_env\": \"TROJAN_PASSWORD\",\n",
  "  \"ssl\": \x7b\n",
  "    \"cert\": \"/etc/trojan-pro/",
  "certs/current/edge.crt\",\n",
  "    \"key\": \"/etc/trojan-pro/",
  "certs/current/edge.key\",\n",
  "    \"sni\": \"edge.example.com\"\n",
  "  \x7d\n\x7d"].flatMap Text.ofString

/-- A run of the installer with the default port and a certificate at hand. -/
def sampleRun : ApplyRun where
  wwwDomain := Text.ofString "www.example.com"
  edgeDomain := Text.ofString "edge.example.com"
  dnsProvider := Text.ofString "cloudflare"
  environ := [(Text.ofString "CLOUDFLARE_API_TOKEN", Text.ofString "t")]
  certBootstrap := .fixtures (some (Text.ofString "certificate")) true

/-- The manifest of the sample run, with the provider that it has or another. -/
def sampleManifest (provider dnsProviderModule : String) : Manifest :=
  { sampleRun with dnsProvider := Text.ofString provider }.manifest
    { id := Text.ofString provider
      supportTier := Text.ofString "full"
      caddyDnsModule := Text.ofString dnsProviderModule
      requiredEnvKeys := [] } 8443

/-- The interpreter, on what the sample run writes and reads. -/
def samplePython : Python where
  dumps
    | .obj (("run_type", _) :: _) => sampleConfigText
    | .obj (("www_domain", _) :: _) => sampleManifestText
    | _ => []
  loads text :=
    if text = sampleManifestText ++ [10] then
      some (.obj (sampleManifest "cloudflare" "dns.providers.cloudflare"))
    else none
  parseInt text := if text = Text.ofString "8443" then some 8443 else none
  repr _ := []
  toLower := id

/-- There is a configuration, and a run makes a copy of it before it stops for lack of
the binaries. The configuration is deleted, and the next run fails its validation. -/
def sampleEvents : List InstallEvent :=
  [.apply { sampleRun with coreInstalled := false }, .edit (.managed .config) none,
    .apply { sampleRun with forceValidateFail := true }]

/-- **The deleted configuration is back.** -/
theorem deleted_config_returns :
    ¬ Machine.Along (step samplePython) (Promised samplePython)
      (Function.update (fun _ => none) (.managed .config) (some (Text.ofString "old")))
      sampleEvents := by
  intro h
  have hlast := (promised_iff _ _ _).mp ((h.2 _ rfl).2 _ rfl).1
  exact absurd (hlast.1 (ApplyResult.exists_of_isRolledBack (by decide +kernel)) .config rfl)
    (by decide +kernel)

end ApplyRun
