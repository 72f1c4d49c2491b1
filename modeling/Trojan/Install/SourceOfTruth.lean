import Trojan.Install.InstallKernel

/-!
# The manifest as the single source of truth

The configuration of the server and the Caddyfile are derived from the manifest
(`docs/en/full-installer-usage.md`). The installer derives them when it writes the
manifest; the subcommands of `tp` that change the manifest later do not. Changing
the web mode is harmless, since neither file depends on it. Changing the provider is
not: the Caddyfile names the module of the provider, and keeps naming the old one
(`InstallOperation.caddyfile_left_behind`).

`InstallOperation.manifest_stays_truth` is the law for the sequences of operations that do
not do this, and do not export a bundle over one of the files either.

A subcommand that fails is meant to change nothing. All of them check everything
before they write, so that only the write itself can go wrong: it is not atomic, and
what it leaves of a file when it fails half-way – for lack of space, or because an
argument was not UTF-8 – is not what was there.
-/

/-- The operations on an installation. -/
inductive InstallOperation where
  | apply (run : ApplyRun)
  | setWebMode (outcome : WriteOutcome) (mode : Python.WebMode) (upstream : Option Text)
  | rotatePassword (outcome : WriteOutcome) (token : Python.Token)
  | reconfigureDnsProvider (outcome : WriteOutcome) (provider : Text)
  | exportClientBundle (outcome : WriteOutcome) (inputs : Option Python.ExportInputs)
    (output : Place)

namespace InstallOperation

variable (python : Python)

/-- What an operation leaves behind, in an error if it fails. -/
def perform (root : InstallRoot) : InstallOperation → Except InstallRoot InstallRoot
  | .apply run =>
    match run.apply python root with
    | .succeeded root => .ok root
    | .rolledBack root => .error root
    | .aborted root => .error root
  | .setWebMode outcome mode upstream => python.cmdSetWebMode outcome mode upstream root
  | .rotatePassword outcome token => Python.cmdRotatePassword outcome token root
  | .reconfigureDnsProvider outcome provider =>
    python.cmdReconfigureDnsProvider outcome provider root
  | .exportClientBundle outcome inputs output =>
    python.cmdExportClientBundle outcome inputs output root

/-- A sequence of successful operations. -/
def step (root : InstallRoot) (operation : InstallOperation) : Option InstallRoot :=
  (operation.perform python root).toOption

/-- The manifest agrees with the registry about its provider. -/
def KnowsProvider (manifest : Manifest) : Prop :=
  ∃ id spec, manifest.lookup "dns_provider" = some (.str id)
    ∧ ProviderRegistry.registry.lookup id = some spec
    ∧ manifest.lookup "dns_provider_module" = some (.str spec.caddyDnsModule)
    ∧ manifest.lookup "support_tier" = some (.str spec.supportTier)

/-- **The manifest is the source of truth**: both files are what it renders to, and
it agrees with the registry. -/
structure SourceOfTruth (root : InstallRoot) (manifest : Manifest) : Prop where
  read : python.readManifest root = some manifest
  config : ∃ text, python.renderTrojanConfig manifest = some text
    ∧ root (.managed .config) = some text
  caddyfile : ∃ text, python.renderCaddyfile manifest = some text
    ∧ root (.managed .caddyfile) = some text
  provider : KnowsProvider manifest

/-- A provider is only set again to what it is. -/
def KeepsProvider (root : InstallRoot) : InstallOperation → Prop
  | .reconfigureDnsProvider _ provider =>
    (python.readManifest root).bind (List.lookup "dns_provider") = some (.str provider)
  | _ => True

/-- No bundle is exported over one of the files. -/
def ExportsElsewhere : InstallOperation → Prop
  | .exportClientBundle _ _ output => ∀ file, output ≠ .managed file
  | _ => True

/-- A subcommand does not begin a write that it cannot finish: the write is not cut
short, an argument that is written can be encoded, and no bundle is exported over
one of the files. -/
def Finishes : InstallOperation → Prop
  | .apply _ => False
  | .setWebMode outcome _ upstream =>
    (∀ length, outcome ≠ .cut length) ∧ ∀ text, upstream = some text → text.wellFormed = true
  | .rotatePassword outcome _ => ∀ length, outcome ≠ .cut length
  | .reconfigureDnsProvider outcome _ => ∀ length, outcome ≠ .cut length
  | .exportClientBundle _ _ output => (∀ file, output ≠ .managed file) ∧ output ≠ .env

/-- A family of manifests that an operation does not leave. -/
def Within (manifests : Manifest → Prop) : InstallOperation → Prop
  | .apply run => ∀ spec port, ProviderRegistry.registry.lookup run.dnsProvider = some spec →
    python.parseInt run.trojanLocalPort = some port → manifests (run.manifest spec port)
  | .setWebMode _ mode upstream => ∀ manifest, manifests manifest →
    manifests (Python.withWebMode mode upstream manifest)
  | .reconfigureDnsProvider _ provider => ∀ manifest spec, manifests manifest →
    ProviderRegistry.registry.lookup provider = some spec →
    manifests (Python.withProvider provider spec manifest)
  | _ => True

/-! ## What an operation keeps -/

variable {python} {manifests : Manifest → Prop}

/-- The file of the manifest holds one that the interpreter is known to read back. -/
def Written (python : Python) (manifests : Manifest → Prop) (root : InstallRoot) : Prop :=
  ∃ manifest, manifests manifest
    ∧ root (.managed .manifest) = some (python.manifestText manifest)
    ∧ (python.manifestText manifest).wellFormed = true

/-- A manifest that has been written is read back. -/
theorem readManifest_of_written (hpython : python.FaithfulOn manifests) {root : InstallRoot}
    {manifest : Manifest} (hmanifest : manifests manifest)
    (hroot : root (.managed .manifest) = some (python.manifestText manifest))
    (hformed : (python.manifestText manifest).wellFormed = true) :
    python.readManifest root = some manifest := by
  rw [Python.readManifest, InstallRoot.readText_of_wellFormed hroot hformed, Option.bind_some,
    hpython.loads_dumps manifest hmanifest]
  rfl

/-- The manifest of an operation that writes one is read back. -/
theorem written_of_update {root : InstallRoot} {manifest : Manifest}
    (hmanifest : manifests manifest)
    (hformed : (python.manifestText manifest).wellFormed = true) :
    Written python manifests
      (Function.update root (.managed .manifest) (some (python.manifestText manifest))) :=
  ⟨manifest, hmanifest, Function.update_self _ _ _, hformed⟩

/-- The manifest stays the source of truth as long as the files stay as they are. -/
theorem SourceOfTruth.congr {root root' : InstallRoot} {manifest : Manifest}
    (h : SourceOfTruth python root manifest)
    (hsame : ∀ file, root' (.managed file) = root (.managed file)) :
    SourceOfTruth python root' manifest := by
  refine ⟨?_, ?_, ?_, h.provider⟩
  · rw [ApplyRun.readManifest_congr (hsame _)]
    exact h.read
  · rw [hsame]
    exact h.config
  · rw [hsame]
    exact h.caddyfile

/-- Two manifests that differ in the web mode at most. -/
def SameButWebMode (manifest manifest' : Manifest) : Prop :=
  ∀ key, key ≠ "web_mode" → key ≠ "web_upstream" → manifest'.lookup key = manifest.lookup key

/-- **The web mode is not rendered.** -/
theorem SourceOfTruth.rewrite (hpython : python.FaithfulOn manifests) {root : InstallRoot}
    {manifest manifest' : Manifest} (hmanifest : manifests manifest')
    (hformed : (python.manifestText manifest').wellFormed = true)
    (htruth : SourceOfTruth python root manifest) (hsame : SameButWebMode manifest manifest') :
    SourceOfTruth python
      (Function.update root (.managed .manifest) (some (python.manifestText manifest')))
      manifest' := by
  refine ⟨readManifest_of_written hpython hmanifest (Function.update_self _ _ _) hformed,
    ?_, ?_, ?_⟩
  · have hrender : python.renderTrojanConfig manifest' = python.renderTrojanConfig manifest := by
      unfold Python.renderTrojanConfig Python.trojanConfigPayload
      rw [hsame _ (by decide) (by decide), hsame _ (by decide) (by decide),
        hsame _ (by decide) (by decide), hsame _ (by decide) (by decide)]
    rw [hrender, Function.update_of_ne (by simp)]
    exact htruth.config
  · have hrender : python.renderCaddyfile manifest' = python.renderCaddyfile manifest := by
      unfold Python.renderCaddyfile
      rw [hsame _ (by decide) (by decide), hsame _ (by decide) (by decide),
        hsame _ (by decide) (by decide), hsame _ (by decide) (by decide)]
    rw [hrender, Function.update_of_ne (by simp)]
    exact htruth.caddyfile
  · obtain ⟨id, spec, hid, hspec, hmodule, htier⟩ := htruth.provider
    refine ⟨id, spec, ?_, hspec, ?_, ?_⟩
    · rw [hsame _ (by decide) (by decide), hid]
    · rw [hsame _ (by decide) (by decide), hmodule]
    · rw [hsame _ (by decide) (by decide), htier]

theorem sameButWebMode_withWebMode (mode : Python.WebMode) (upstream : Option Text)
    (manifest : Manifest) :
    SameButWebMode manifest (Python.withWebMode mode upstream manifest) := by
  intro key hmode hupstream
  cases mode with
  | upstream => simp [Python.withWebMode, hmode, hupstream]
  | static => simp [Python.withWebMode, Dict.lookup_remove_of_ne hupstream, hmode]

/-- A provider that is set again changes nothing. -/
theorem sameButWebMode_withProvider {provider : Text} {spec : ProviderSpec} {manifest : Manifest}
    (hknows : KnowsProvider manifest)
    (hprovider : manifest.lookup "dns_provider" = some (.str provider))
    (hspec : ProviderRegistry.registry.lookup provider = some spec) :
    SameButWebMode manifest (Python.withProvider provider spec manifest) := by
  obtain ⟨id, spec', hid, hspec', hmodule, htier⟩ := hknows
  obtain rfl : id = provider := Json.str.inj (Option.some.inj (hid.symm.trans hprovider))
  obtain rfl : spec' = spec := Option.some.inj (hspec'.symm.trans hspec)
  intro key _ _
  simp only [Python.withProvider, Dict.lookup_set, beq_iff_eq]
  split
  · rename_i heq
    rw [heq, htier]
  · split
    · rename_i heq
      rw [heq, hmodule]
    · split
      · rename_i heq
        rw [heq, hid]
      · rfl

/-- Different providers have different modules. -/
theorem eq_of_caddyDnsModule {id id' : Text} {spec spec' : ProviderSpec}
    (h : ProviderRegistry.registry.lookup id = some spec)
    (h' : ProviderRegistry.registry.lookup id' = some spec')
    (hmodule : spec.caddyDnsModule = spec'.caddyDnsModule) : id = id' := by
  have hall : ProviderRegistry.registry.all (fun entry =>
      ProviderRegistry.registry.all (fun entry' =>
        entry.2.caddyDnsModule != entry'.2.caddyDnsModule || entry.1 == entry'.1)) = true := by
    decide +kernel
  have hentries := List.all_eq_true.mp (List.all_eq_true.mp hall _ (Dict.mem_of_lookup h)) _
    (Dict.mem_of_lookup h')
  simpa [hmodule] using hentries

/-- **A new provider leaves the Caddyfile behind**: it still names the module of the
provider there was. -/
theorem eq_of_truth_withProvider {root root' : InstallRoot} {provider : Text}
    {spec : ProviderSpec} {manifest : Manifest} (htruth : SourceOfTruth python root manifest)
    (hspec : ProviderRegistry.registry.lookup provider = some spec)
    (hcaddyfile : root' (.managed .caddyfile) = root (.managed .caddyfile))
    (htruth' : SourceOfTruth python root' (Python.withProvider provider spec manifest)) :
    manifest.lookup "dns_provider" = some (.str provider) := by
  obtain ⟨id, spec', hid, hspec', hmodule, -⟩ := htruth.provider
  obtain ⟨text, hrender, htext⟩ := htruth.caddyfile
  obtain ⟨text', hrender', htext'⟩ := htruth'.caddyfile
  obtain rfl : text = text' :=
    Option.some.inj (htext.symm.trans (hcaddyfile.symm.trans htext'))
  have hlookup (key : String) (hkey : key ≠ "dns_provider" ∧ key ≠ "dns_provider_module"
      ∧ key ≠ "support_tier") :
      (Python.withProvider provider spec manifest).lookup key = manifest.lookup key := by
    simp [Python.withProvider, hkey]
  have hnew : (Python.withProvider provider spec manifest).lookup "dns_provider_module"
      = some (.str spec.caddyDnsModule) := by
    simp [Python.withProvider]
  simp only [Python.renderCaddyfile, Option.bind_eq_bind, Option.bind_eq_some_iff,
    Option.pure_def, Option.some.injEq] at hrender hrender'
  obtain ⟨www, hwww, edge, hedge, port, hport, n, hn, dns, hdns, rfl⟩ := hrender
  obtain ⟨www', hwww', edge', hedge', port', hport', n', hn', dns', hdns', heq⟩ := hrender'
  rw [hlookup _ (by decide)] at hwww' hedge' hport'
  rw [hnew] at hdns'
  obtain rfl : www = www' := Option.some.inj (hwww.symm.trans hwww')
  obtain rfl : edge = edge' := Option.some.inj (hedge.symm.trans hedge')
  obtain rfl : port = port' := Option.some.inj (hport.symm.trans hport')
  obtain rfl : n = n' := Option.some.inj (hn.symm.trans hn')
  obtain rfl : Json.str spec.caddyDnsModule = dns' := Option.some.inj hdns'
  obtain rfl : Json.str spec'.caddyDnsModule = dns := Option.some.inj (hmodule.symm.trans hdns)
  rw [hid, eq_of_caddyDnsModule hspec' hspec (Python.caddyfileText_injective heq.symm)]

/-- A run that has rendered its files has written a manifest, and made it the source of
truth. -/
theorem truth_of_rendered (hpython : python.FaithfulOn manifests) {root : InstallRoot}
    {run : ApplyRun} (hwithin : Within python manifests (.apply run))
    (h : ApplyRun.Rendered python run root) :
    Written python manifests root ∧ ∃ manifest, SourceOfTruth python root manifest := by
  obtain ⟨spec, port, hspec, hport, hroot, hformed, hconfig⟩ := h.manifest
  obtain ⟨manifest, text, hread, htext, hcaddy⟩ := h.caddyfile
  have hmanifest := hwithin spec port hspec hport
  have hback := readManifest_of_written hpython hmanifest hroot hformed
  obtain rfl : run.manifest spec port = manifest := Option.some.inj (hback.symm.trans hread)
  refine ⟨⟨_, hmanifest, hroot, hformed⟩, _, ⟨hback, ?_, ⟨text, htext, hcaddy⟩, ?_⟩⟩
  · cases hrender : python.renderTrojanConfig (run.manifest spec port) with
    | none => exact absurd hrender (by simp [Python.renderTrojanConfig, Python.trojanConfigPayload,
        ApplyRun.manifest, List.lookup_cons])
    | some text => exact ⟨text, rfl, hconfig.trans hrender⟩
  · exact ⟨run.dnsProvider, spec, by simp [ApplyRun.manifest, List.lookup_cons], hspec,
      by simp [ApplyRun.manifest, List.lookup_cons], by simp [ApplyRun.manifest, List.lookup_cons]⟩

theorem step_eq_some {root root' : InstallRoot} {operation : InstallOperation} :
    step python root operation = some root' ↔ operation.perform python root = .ok root' := by
  unfold step
  cases operation.perform python root with
  | error root => exact ⟨nofun, nofun⟩
  | ok root => exact ⟨fun h => congrArg _ (Option.some.inj h), fun h => congrArg _ (Except.ok.inj h)⟩

theorem perform_apply_ok {run : ApplyRun} {root root' : InstallRoot}
    (h : perform python root (.apply run) = .ok root') :
    run.apply python root = .succeeded root' := by
  simp only [perform] at h
  split at h
  · rename_i hrun
    rw [hrun, Except.ok.inj h]
  · exact nomatch h
  · exact nomatch h

/-- **What an operation does to the files**, if no bundle is exported over them: it
renders them all, leaves them alone, or writes another manifest. -/
theorem perform_ok (hpython : python.FaithfulOn manifests) {root root' : InstallRoot}
    {operation : InstallOperation} (hwithin : Within python manifests operation)
    (hwritten : Written python manifests root) (helsewhere : ExportsElsewhere operation)
    (h : operation.perform python root = .ok root') :
    (∃ run, operation = .apply run ∧ ApplyRun.Rendered python run root')
      ∨ ((∀ file, root' (.managed file) = root (.managed file))
        ∧ KeepsProvider python root operation)
      ∨ ∃ manifest manifest', python.readManifest root = some manifest ∧ manifests manifest'
        ∧ (python.manifestText manifest').wellFormed = true
        ∧ root' = Function.update root (.managed .manifest) (some (python.manifestText manifest'))
        ∧ ((∃ outcome mode upstream, operation = .setWebMode outcome mode upstream
            ∧ manifest' = Python.withWebMode mode upstream manifest)
          ∨ ∃ outcome provider spec, operation = .reconfigureDnsProvider outcome provider
            ∧ ProviderRegistry.registry.lookup provider = some spec
            ∧ manifest' = Python.withProvider provider spec manifest) := by
  obtain ⟨manifest, hmanifest, hroot, hformed⟩ := hwritten
  have hread := readManifest_of_written hpython hmanifest hroot hformed
  cases operation with
  | apply run =>
    obtain ⟨hprepared, -⟩ := ApplyRun.succeeded_ok (perform_apply_ok h)
    obtain ⟨-, -, hkept, hrendered⟩ := ApplyRun.prepare_ok hprepared
    cases hcheck : run.checkOnly with
    | true => exact .inr (.inl ⟨hkept hcheck, trivial⟩)
    | false => exact .inl ⟨run, rfl, hrendered hcheck⟩
  | setWebMode outcome mode upstream =>
    change python.cmdSetWebMode outcome mode upstream root = .ok root' at h
    rw [Python.cmdSetWebMode, hread] at h
    obtain ⟨hnew, rfl⟩ := InstallRoot.writeText_ok h
    exact .inr (.inr ⟨manifest, _, hread, hwithin manifest hmanifest, hnew, rfl,
      .inl ⟨outcome, mode, upstream, rfl, rfl⟩⟩)
  | rotatePassword outcome token =>
    change Python.cmdRotatePassword outcome token root = .ok root' at h
    unfold Python.cmdRotatePassword at h
    split at h
    · exact nomatch h
    · obtain ⟨-, rfl⟩ := InstallRoot.writeText_ok h
      exact .inr (.inl ⟨fun file => Function.update_of_ne (by simp) _ _, trivial⟩)
  | reconfigureDnsProvider outcome provider =>
    change python.cmdReconfigureDnsProvider outcome provider root = .ok root' at h
    unfold Python.cmdReconfigureDnsProvider at h
    rw [hread] at h
    split at h
    · rename_i manifest' env hread' henv
      obtain rfl := Option.some.inj hread'
      split at h
      · rename_i spec hvalid hspec
        obtain ⟨hnew, rfl⟩ := InstallRoot.writeText_ok h
        exact .inr (.inr ⟨manifest, _, hread, hwithin manifest spec hmanifest hspec, hnew, rfl,
          .inr ⟨outcome, provider, spec, rfl, hspec, rfl⟩⟩)
      · exact nomatch h
    · exact nomatch h
  | exportClientBundle outcome inputs output =>
    change python.cmdExportClientBundle outcome inputs output root = .ok root' at h
    unfold Python.cmdExportClientBundle at h
    split at h
    · split at h
      · obtain ⟨-, rfl⟩ := InstallRoot.writeText_ok h
        exact .inr (.inl ⟨fun file => Function.update_of_ne (Ne.symm (helsewhere file)) _ _,
          trivial⟩)
      · exact nomatch h
    · exact nomatch h

/-- **The step lemma for the file of the manifest.** -/
theorem written_perform (hpython : python.FaithfulOn manifests) {root root' : InstallRoot}
    {operation : InstallOperation} (hwithin : Within python manifests operation)
    (hwritten : Written python manifests root) (helsewhere : ExportsElsewhere operation)
    (h : operation.perform python root = .ok root') : Written python manifests root' := by
  rcases perform_ok hpython hwithin hwritten helsewhere h with
    ⟨run, rfl, hrendered⟩ | ⟨hsame, -⟩ | ⟨manifest, manifest', -, hmanifest', hnew, rfl, -⟩
  · exact (truth_of_rendered hpython hwithin hrendered).1
  · obtain ⟨manifest, hmanifest, hroot, hformed⟩ := hwritten
    exact ⟨manifest, hmanifest, (hsame _).trans hroot, hformed⟩
  · exact written_of_update hmanifest' hnew

/-- **The step lemma**: an operation leaves the manifest the source of truth exactly if
it does not change the provider. -/
theorem truth_perform_iff (hpython : python.FaithfulOn manifests) {root root' : InstallRoot}
    {operation : InstallOperation} (hwithin : Within python manifests operation)
    (hwritten : Written python manifests root) (helsewhere : ExportsElsewhere operation)
    (htruth : ∃ manifest, SourceOfTruth python root manifest)
    (h : operation.perform python root = .ok root') :
    (∃ manifest, SourceOfTruth python root' manifest) ↔ KeepsProvider python root operation := by
  obtain ⟨manifest, htruth⟩ := htruth
  rcases perform_ok hpython hwithin hwritten helsewhere h with
    ⟨run, rfl, hrendered⟩ | ⟨hsame, hkeeps⟩ | ⟨manifest₀, manifest', hread, hmanifest', hnew, rfl, hwhich⟩
  · exact iff_of_true (truth_of_rendered hpython hwithin hrendered).2 trivial
  · exact iff_of_true ⟨manifest, htruth.congr hsame⟩ hkeeps
  · obtain rfl : manifest = manifest₀ := Option.some.inj (htruth.read.symm.trans hread)
    rcases hwhich with ⟨outcome, mode, upstream, rfl, rfl⟩ | ⟨outcome, provider, spec, rfl, hspec, rfl⟩
    · exact iff_of_true ⟨_, SourceOfTruth.rewrite hpython hmanifest' hnew htruth
        (sameButWebMode_withWebMode mode upstream manifest)⟩ trivial
    · constructor
      · rintro ⟨manifest'', htruth'⟩
        obtain rfl : Python.withProvider provider spec manifest = manifest'' :=
          Option.some.inj ((readManifest_of_written hpython hmanifest'
            (Function.update_self _ _ _) hnew).symm.trans htruth'.read)
        rw [KeepsProvider, htruth.read]
        exact eq_of_truth_withProvider htruth hspec (Function.update_of_ne (by simp) _ _) htruth'
      · intro hkeeps
        rw [KeepsProvider, htruth.read] at hkeeps
        exact ⟨_, SourceOfTruth.rewrite hpython hmanifest' hnew htruth
          (sameButWebMode_withProvider htruth.provider hkeeps hspec)⟩

/-! ## What a failure leaves -/

/-- The registry has no text that could not be written. -/
theorem wellFormed_registry {provider : Text} {spec : ProviderSpec}
    (h : ProviderRegistry.registry.lookup provider = some spec) :
    provider.wellFormed = true ∧ spec.caddyDnsModule.wellFormed = true
      ∧ spec.supportTier.wellFormed = true := by
  have hall : ProviderRegistry.registry.all (fun entry => entry.1.wellFormed
      && entry.2.caddyDnsModule.wellFormed && entry.2.supportTier.wellFormed) = true := by
    decide +kernel
  have hentry := List.all_eq_true.mp hall _ (Dict.mem_of_lookup h)
  simpa [Bool.and_eq_true, and_assoc] using hentry

/-- The web mode can be written if the upstream can. -/
theorem wellFormed_withWebMode {manifest : Manifest} {mode : Python.WebMode}
    {upstream : Option Text} (hupstream : ∀ text, upstream = some text → text.wellFormed = true)
    (h : ∀ entry ∈ manifest, Python.entryWellFormed entry = true) :
    ∀ entry ∈ Python.withWebMode mode upstream manifest, Python.entryWellFormed entry = true := by
  intro entry hentry
  cases mode with
  | upstream =>
    rcases Dict.mem_set hentry with rfl | hentry
    · cases upstream with
      | none => decide
      | some text =>
        exact Python.entryWellFormed_str (by decide) (hupstream text rfl)
    · rcases Dict.mem_set hentry with rfl | hentry
      · decide
      · exact h entry hentry
  | static =>
    rcases Dict.mem_set (Dict.mem_of_mem_remove hentry) with rfl | hentry
    · decide
    · exact h entry hentry

theorem wellFormed_withProvider {manifest : Manifest} {provider : Text} {spec : ProviderSpec}
    (hspec : ProviderRegistry.registry.lookup provider = some spec)
    (h : ∀ entry ∈ manifest, Python.entryWellFormed entry = true) :
    ∀ entry ∈ Python.withProvider provider spec manifest, Python.entryWellFormed entry = true := by
  obtain ⟨hprovider, hmodule, htier⟩ := wellFormed_registry hspec
  intro entry hentry
  rcases Dict.mem_set hentry with rfl | hentry
  · exact Python.entryWellFormed_str (by decide) htier
  · rcases Dict.mem_set hentry with rfl | hentry
    · exact Python.entryWellFormed_str (by decide) hmodule
    · rcases Dict.mem_set hentry with rfl | hentry
      · exact Python.entryWellFormed_str (by decide) hprovider
      · exact h entry hentry

/-- **A subcommand that fails changes nothing**, if it does not begin a write that it
cannot finish. -/
theorem unchanged_of_error (hpython : python.FaithfulOn manifests) {root root' : InstallRoot}
    {operation : InstallOperation} (hwithin : Within python manifests operation)
    (hwritten : Written python manifests root) (hfinishes : Finishes operation)
    (h : operation.perform python root = .error root') :
    (∀ file, root' (.managed file) = root (.managed file)) ∧ root' .env = root .env := by
  obtain ⟨manifest, hmanifest, hroot, hformed⟩ := hwritten
  have hread := readManifest_of_written hpython hmanifest hroot hformed
  have hentries := (hpython.wellFormed_dumps manifest hmanifest).mp hformed
  cases operation with
  | apply run => exact hfinishes.elim
  | setWebMode outcome mode upstream =>
    change python.cmdSetWebMode outcome mode upstream root = .error root' at h
    rw [Python.cmdSetWebMode, hread] at h
    have hnew := (hpython.wellFormed_dumps _ (hwithin manifest hmanifest)).mpr
      (wellFormed_withWebMode hfinishes.2 hentries)
    rw [InstallRoot.writeText_error h hfinishes.1 hnew]
    exact ⟨fun _ => rfl, rfl⟩
  | rotatePassword outcome token =>
    change Python.cmdRotatePassword outcome token root = .error root' at h
    unfold Python.cmdRotatePassword at h
    split at h
    · rw [← Except.error.inj h]
      exact ⟨fun _ => rfl, rfl⟩
    · rename_i env henv
      have hkey : (Text.ofString "TROJAN_PASSWORD").wellFormed = true := by decide
      have hnew := Environment.wellFormed_render
        ((InstallRoot.wellFormed_loadEnvFile henv).set hkey token.wellFormed)
      rw [InstallRoot.writeText_error h hfinishes hnew]
      exact ⟨fun _ => rfl, rfl⟩
  | reconfigureDnsProvider outcome provider =>
    change python.cmdReconfigureDnsProvider outcome provider root = .error root' at h
    unfold Python.cmdReconfigureDnsProvider at h
    rw [hread] at h
    split at h
    · rename_i manifest' env hread' henv
      obtain rfl := Option.some.inj hread'
      split at h
      · rename_i spec hvalid hspec
        have hnew := (hpython.wellFormed_dumps _ (hwithin manifest spec hmanifest hspec)).mpr
          (wellFormed_withProvider hspec hentries)
        rw [InstallRoot.writeText_error h hfinishes hnew]
        exact ⟨fun _ => rfl, rfl⟩
      · rw [← Except.error.inj h]
        exact ⟨fun _ => rfl, rfl⟩
    · rw [← Except.error.inj h]
      exact ⟨fun _ => rfl, rfl⟩
  | exportClientBundle outcome inputs output =>
    change python.cmdExportClientBundle outcome inputs output root = .error root' at h
    unfold Python.cmdExportClientBundle at h
    split at h
    · split at h
      · exact ⟨fun file => InstallRoot.writeText_frame (Ne.symm (hfinishes.1 file)) (.inl h),
          InstallRoot.writeText_frame (Ne.symm hfinishes.2) (.inl h)⟩
      · rw [← Except.error.inj h]
        exact ⟨fun _ => rfl, rfl⟩
    · rw [← Except.error.inj h]
      exact ⟨fun _ => rfl, rfl⟩

/-! ## Sequences of operations -/

/-- **When the manifest is the single source of truth.** After a run of the installer,
in any sequence of successful operations that exports no bundle over the files: the
configuration and the Caddyfile are what the manifest renders to, and the manifest
agrees with the registry, in every state, exactly if no operation changes the
provider. And whatever the operations were, a subcommand that fails then leaves
the files and the environment as they were, if it does not begin a write that it
cannot finish. -/
theorem manifest_stays_truth (hpython : python.FaithfulOn manifests) {start first root : InstallRoot}
    {run : ApplyRun} {operations : List InstallOperation} (hcheck : run.checkOnly = false)
    (hwithin : ∀ operation ∈ .apply run :: operations, Within python manifests operation)
    (helsewhere : ∀ operation ∈ operations, ExportsElsewhere operation)
    (hfirst : step python start (.apply run) = some first)
    (hrun : Machine.run (step python) first operations = some root) :
    ((∀ root, Machine.Visits (step python) first operations root →
        ∃ manifest, SourceOfTruth python root manifest) ↔
      Machine.Along (step python) (KeepsProvider python) first operations)
    ∧ ∀ operation root', Within python manifests operation → Finishes operation →
      operation.perform python root = .error root' →
      (∀ file, root' (.managed file) = root (.managed file)) ∧ root' .env = root .env := by
  have hfirst' : Written python manifests first
      ∧ ∃ manifest, SourceOfTruth python first manifest := by
    obtain ⟨hprepared, -⟩ := ApplyRun.succeeded_ok (perform_apply_ok (step_eq_some.mp hfirst))
    exact truth_of_rendered hpython (hwithin _ List.mem_cons_self)
      ((ApplyRun.prepare_ok hprepared).2.2.2 hcheck)
  have hgood : ∀ operation ∈ operations,
      Within python manifests operation ∧ ExportsElsewhere operation :=
    fun operation h => ⟨hwithin operation (List.mem_cons_of_mem _ h), helsewhere operation h⟩
  refine ⟨Machine.forall_visits_iff_along_of_forall (I := Written python manifests)
    (fun s operation t hgood hs _ h _ => written_perform hpython hgood.1 hs hgood.2 (step_eq_some.mp h))
    (fun s operation t hgood hs htruth h =>
      truth_perform_iff hpython hgood.1 hs hgood.2 htruth (step_eq_some.mp h))
    hgood hfirst'.1 hfirst'.2 hrun, fun operation root' hin hfinishes h => ?_⟩
  have hwritten : Written python manifests root := Machine.run_invariant_of_forall
    (fun s operation t hgood hs h => written_perform hpython hgood.1 hs hgood.2 (step_eq_some.mp h))
    hgood hfirst'.1 hrun
  exact unchanged_of_error hpython hin hwritten hfinishes h

/-! ## A provider that is changed -/

/-- The manifest of the sample run with another provider, as it is written. -/
def routedManifestText : Text := [
  "\x7b\n  \"www_domain\": \"www.example.com\",\n",
  "  \"edge_domain\": \"edge.example.com\",\n",
  "  \"dns_provider\": \"route53\",\n",
  "  \"dns_provider_module\": ",
  "\"dns.providers.route53\",\n",
  "  \"support_tier\": \"full\",\n",
  "  \"web_mode\": \"static\",\n",
  "  \"trojan_local_addr\": \"127.0.0.1\",\n",
  "  \"trojan_local_port\": 8443,\n",
  "  \"trojan_password_env_key\": ",
  "\"TROJAN_PASSWORD\"\n\x7d"].flatMap Text.ofString

/-- The interpreter, on what is written and read here. -/
def routedPython : Python :=
  { ApplyRun.samplePython with
    dumps
      | .obj (("run_type", _) :: _) => ApplyRun.sampleConfigText
      | .obj (("www_domain", _) :: ("edge_domain", _) :: ("dns_provider", .str provider) :: _) =>
        if provider = Text.ofString "route53" then routedManifestText
        else ApplyRun.sampleManifestText
      | _ => []
    loads text :=
      if text = ApplyRun.sampleManifestText ++ [10] then
        some (.obj (ApplyRun.sampleManifest "cloudflare" "dns.providers.cloudflare"))
      else if text = routedManifestText ++ [10] then
        some (.obj (ApplyRun.sampleManifest "route53" "dns.providers.route53"))
      else none }

/-- An installation that has the credentials of the other provider. -/
def sampleStart : InstallRoot :=
  Function.update (fun _ => none) .env (some ([
    "AWS_ACCESS_KEY_ID=a\n", "AWS_SECRET_ACCESS_KEY=b\n", "AWS_REGION=c\n"].flatMap Text.ofString))

def sampleOperations : List InstallOperation :=
  [.apply ApplyRun.sampleRun, .reconfigureDnsProvider .written (Text.ofString "route53")]

/-- **The Caddyfile is left behind**: both operations succeed, and it is not what the
manifest renders to. -/
theorem caddyfile_left_behind :
    ∃ root, Machine.run (step routedPython) sampleStart sampleOperations = some root
      ∧ ¬ ∃ manifest, SourceOfTruth routedPython root manifest := by
  have hrun : (Machine.run (step routedPython) sampleStart sampleOperations).any (fun root =>
      (routedPython.readManifest root).bind routedPython.renderCaddyfile
        != root (.managed .caddyfile)) = true := by
    decide +kernel
  obtain ⟨root, hroot, hbehind⟩ := (Option.any_eq_true _ _).mp hrun
  refine ⟨root, hroot, ?_⟩
  rintro ⟨manifest, htruth⟩
  obtain ⟨text, htext, hcaddyfile⟩ := htruth.caddyfile
  rw [htruth.read, Option.bind_some, htext, hcaddyfile] at hbehind
  exact absurd hbehind (by simp)

/-! ## A password that is rotated -/

/-- The manifest of the sample run is read back. -/
theorem faithfulOn_sample : ApplyRun.samplePython.FaithfulOn
    (· = ApplyRun.sampleManifest "cloudflare" "dns.providers.cloudflare") := by
  have htext : ApplyRun.samplePython.manifestText
      (ApplyRun.sampleManifest "cloudflare" "dns.providers.cloudflare")
      = ApplyRun.sampleManifestText ++ [10] := rfl
  constructor
  · rintro manifest rfl
    rw [htext]
    simp only [ApplyRun.samplePython, if_true]
  · rintro manifest rfl
    refine iff_of_true (by decide +kernel) ?_
    have hall : (ApplyRun.sampleManifest "cloudflare" "dns.providers.cloudflare").all
        Python.entryWellFormed = true := by decide +kernel
    exact List.all_eq_true.mp hall

/-- The sample run stays within its manifest. -/
theorem within_sample : Within ApplyRun.samplePython
    (· = ApplyRun.sampleManifest "cloudflare" "dns.providers.cloudflare") (.apply ApplyRun.sampleRun) := by
  intro spec port hspec hport
  have hregistry : ProviderRegistry.registry.lookup ApplyRun.sampleRun.dnsProvider
      = some ⟨Text.ofString "cloudflare", Text.ofString "full",
        Text.ofString "dns.providers.cloudflare", [Text.ofString "CLOUDFLARE_API_TOKEN"], []⟩ := by
    decide +kernel
  obtain rfl := Option.some.inj (hregistry.symm.trans hspec)
  have hparse : ApplyRun.samplePython.parseInt ApplyRun.sampleRun.trojanLocalPort = some 8443 := by
    simp only [ApplyRun.samplePython, ApplyRun.sampleRun, if_true]
  obtain rfl := Option.some.inj (hparse.symm.trans hport)
  rfl

/-- After a run and a rotation of the password, the manifest is the source of truth. -/
theorem manifest_stays_truth_sample :
    ∃ first root, step ApplyRun.samplePython (fun _ => none) (.apply ApplyRun.sampleRun) = some first
      ∧ Machine.run (step ApplyRun.samplePython) first
        [.rotatePassword .written ⟨Text.ofString "new-password", by decide +kernel⟩] = some root
      ∧ ∀ root, Machine.Visits (step ApplyRun.samplePython) first
        [.rotatePassword .written ⟨Text.ofString "new-password", by decide +kernel⟩] root →
          ∃ manifest, SourceOfTruth ApplyRun.samplePython root manifest := by
  have hsome : (Machine.run (step ApplyRun.samplePython) (fun _ => none)
      [.apply ApplyRun.sampleRun,
        .rotatePassword .written ⟨Text.ofString "new-password", by decide +kernel⟩]).isSome
      = true := by
    decide +kernel
  obtain ⟨root, hrun⟩ := Option.isSome_iff_exists.mp hsome
  obtain ⟨first, hfirst, hrest⟩ := Machine.run_cons.mp hrun
  refine ⟨first, root, hfirst, hrest, ?_⟩
  refine (manifest_stays_truth faithfulOn_sample rfl ?_ ?_ hfirst hrest).1.mpr ?_
  · intro operation hoperation
    rcases List.mem_cons.mp hoperation with rfl | hoperation
    · exact within_sample
    · rw [List.mem_singleton.mp hoperation]
      trivial
  · intro operation hoperation
    rw [List.mem_singleton.mp hoperation]
    trivial
  · exact ⟨trivial, fun _ _ => trivial⟩

end InstallOperation
