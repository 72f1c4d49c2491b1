import Trojan.ConfigLoader
import Trojan.Install.InstallKernel
import Trojan.SessionGate

/-!
# The password of an installed server

The installer keeps the password in the environment file, under `TROJAN_PASSWORD`,
where `tp rotate-password` changes it, and renders a configuration that names this
key (`password_env`). The service starts the server with that configuration and
nothing else (`trojan-pro.service.tpl`), and the server looks for passwords under
`password` and nowhere else (`core/config.cpp`).

So the server that is installed starts, and has no password. It authenticates
nobody: whatever the environment file says, a request with its password goes to the
fallback server like any other (`InstalledPassword.password_refused`).
-/

namespace InstalledPassword

/-- What the unit of the service starts: the server with the configuration of the
installation. -/
def serverConfig (readJson : Bytes → Option Ptree) (digest : Bytes → Bytes) (root : InstallRoot) :
    Option Config :=
  (root (.managed .config)).bind (fun text => Config.load readJson digest text.utf8)

/-- **The gate authenticates exactly the requests with a password**, given by what
is sent in its place. -/
def AcceptsExactly (config : Config) (sent : Bytes) : Prop :=
  ∀ input, (SessionGate.evaluate config none input).authenticated = true ↔
    ∃ command host port payload,
      input.initialData = TrojanRequest.header sent command host port ++ payload

/-- Without a password, and without another authenticator, nobody is authenticated. -/
theorem not_authenticated_of_no_password {config : Config} (h : config.password = [])
    (input : SessionGateInput) : (SessionGate.evaluate config none input).authenticated = false := by
  rw [(SessionGate.evaluate_authenticated config none input).1]
  unfold SessionGate.authenticate
  simp [h]

variable (run : ApplyRun) (spec : ProviderSpec) (port : ℤ)

/-- The configuration of a run, as the server reads it. -/
def renderedTree : Ptree :=
  .node [] [(ascii "run_type", .node (Text.ofString "server").utf8 []),
    (ascii "local_addr", .node (Text.ofString "127.0.0.1").utf8 []),
    (ascii "local_port", .node (ascii (toString port)) []),
    (ascii "remote_addr", .node (Text.ofString "127.0.0.1").utf8 []),
    (ascii "remote_port", .node (ascii (toString (80 : ℤ))) []),
    (ascii "password_env", .node (Text.ofString "TROJAN_PASSWORD").utf8 []),
    (ascii "ssl", .node [] [
      (ascii "cert", .node (Text.ofString "/etc/trojan-pro/certs/current/edge.crt").utf8 []),
      (ascii "key", .node (Text.ofString "/etc/trojan-pro/certs/current/edge.key").utf8 []),
      (ascii "sni", .node run.edgeDomain.utf8 [])])]

theorem ptreeOf_payload {payload : List (String × Json)}
    (hpayload : Python.trojanConfigPayload (run.manifest spec port) = some payload) :
    ptreeOf (.obj payload) = some (renderedTree run port) := by
  obtain rfl := Option.some.inj hpayload
  simp [ptreeOf, ptreesOfFields, renderedTree, ApplyRun.manifest, List.lookup_cons]

/-- **The rendered configuration has no password**, and everything else that is
needed. -/
theorem populate_renderedTree (digest : Bytes → Bytes) :
    ∃ config, Config.populate digest (renderedTree run port) = some config
      ∧ config.password = [] := by
  have hpassword : (renderedTree run port).getChildOptional ["password"] = none := rfl
  have hports : (renderedTree run port).childrenAt ["ssl", "alpn_port_override"] = [] := rfl
  have htype : Config.readRunType ((renderedTree run port).getString ["run_type"] (ascii "client"))
      = some .server := rfl
  cases hconfig : Config.populate digest (renderedTree run port) with
  | some config => exact ⟨config, rfl, Config.password_of_populate hconfig hpassword⟩
  | none =>
    simp [Config.populate, htype, hports, Config.readAlpnPorts] at hconfig

/-- The password that the environment file has. -/
def envPassword (root : InstallRoot) : Option Text :=
  root.loadEnvFile.bind (List.lookup (Text.ofString "TROJAN_PASSWORD"))

/-- **The installed server accepts its own password**: it starts, and its gate
authenticates exactly the requests with the password of the environment file. -/
def AcceptsItsPassword (readJson : Bytes → Option Ptree) (digest : Bytes → Bytes)
    (root : InstallRoot) : Prop :=
  ∃ config password, serverConfig readJson digest root = some config
    ∧ envPassword root = some password ∧ password ≠ []
    ∧ AcceptsExactly config (Config.sha224 digest password.utf8)

/-- The server that a run installs has no password. -/
theorem serverConfig_of_written {python : Python} {readJson : Bytes → Option Ptree}
    (digest : Bytes → Bytes) {before written root : InstallRoot} {run : ApplyRun}
    (hcheck : run.checkOnly = false)
    (hwrite : run.phaseWriteRuntimeConfig python before = .ok written)
    (hread : ∀ spec port payload, ProviderRegistry.registry.lookup run.dnsProvider = some spec →
      python.parseInt run.trojanLocalPort = some port →
      Python.trojanConfigPayload (run.manifest spec port) = some payload →
      readJson (Text.utf8 (python.dumps (.obj payload) ++ [10])) = ptreeOf (.obj payload))
    (hroot : root (.managed .config) = written (.managed .config)) :
    ∃ config, serverConfig readJson digest root = some config ∧ config.password = [] := by
  obtain ⟨spec, port, text, hspec, hport, -, hrender, rfl⟩ :=
    ApplyRun.phaseWriteRuntimeConfig_ok hcheck hwrite
  obtain ⟨payload, hpayload, rfl⟩ := Option.map_eq_some_iff.mp hrender
  obtain ⟨config, hconfig, hnone⟩ := populate_renderedTree run port digest
  refine ⟨config, ?_, hnone⟩
  rw [serverConfig, hroot, Function.update_self, Option.bind_some, Config.load,
    hread spec port payload hspec hport hpayload, ptreeOf_payload run spec port hpayload,
    Option.bind_some, hconfig]

/-- A server without a password does not accept exactly the requests with one. -/
theorem not_acceptsExactly {config : Config} (h : config.password = []) (sent : Bytes) :
    ¬ AcceptsExactly config sent := by
  intro haccepts
  -- a request with the password is well-formed, and refused
  have hrequest := (haccepts ⟨{}, TrojanRequest.header sent .connect
    (.v4 (Vector.replicate 4 0)) 80 ++ []⟩).mpr ⟨_, _, _, _, rfl⟩
  rw [not_authenticated_of_no_password h] at hrequest
  exact Bool.false_ne_true hrequest

theorem not_acceptsItsPassword {readJson : Bytes → Option Ptree} {digest : Bytes → Bytes}
    {root : InstallRoot} {config : Config} (hconfig : serverConfig readJson digest root = some config)
    (h : config.password = []) : ¬ AcceptsItsPassword readJson digest root := by
  rintro ⟨config', password, hconfig', -, -, haccepts⟩
  obtain rfl := Option.some.inj (hconfig.symm.trans hconfig')
  exact not_acceptsExactly h _ haccepts

/-- **The installed server refuses its own password.** Whatever a run of the installer
was asked to write, and whatever happens to the environment file before and after:
the server starts and authenticates nobody, so that it accepts its password for no
password at all. -/
theorem password_refused (python : Python) (readJson : Bytes → Option Ptree)
    (digest : Bytes → Bytes) {before written root : InstallRoot} {run : ApplyRun}
    (hcheck : run.checkOnly = false)
    (hwrite : run.phaseWriteRuntimeConfig python before = .ok written)
    (hread : ∀ spec port payload, ProviderRegistry.registry.lookup run.dnsProvider = some spec →
      python.parseInt run.trojanLocalPort = some port →
      Python.trojanConfigPayload (run.manifest spec port) = some payload →
      readJson (Text.utf8 (python.dumps (.obj payload) ++ [10])) = ptreeOf (.obj payload))
    (hroot : root (.managed .config) = written (.managed .config)) :
    (∃ config, serverConfig readJson digest root = some config
      ∧ ∀ input, (SessionGate.evaluate config none input).authenticated = false)
    ∧ ¬ AcceptsItsPassword readJson digest root := by
  obtain ⟨config, hconfig, hnone⟩ := serverConfig_of_written digest hcheck hwrite hread hroot
  exact ⟨⟨config, hconfig, not_authenticated_of_no_password hnone⟩,
    not_acceptsItsPassword hconfig hnone⟩

/-! ## A server with a secret -/

/-- The reader of JSON, on the configuration of the sample run. -/
def sampleReadJson (_ : Bytes) : Option Ptree := some (renderedTree ApplyRun.sampleRun 8443)

/-- The SHA-224 of `secret`. -/
def sampleDigest (_ : Bytes) : Bytes :=
  [149, 199, 251, 202, 146, 172, 80, 131, 175, 218, 98, 165, 100, 163, 208, 20,
    252, 59, 114, 201, 20, 14, 60, 185, 158, 166, 191, 18]

/-- An installation whose environment file has the password. -/
def secretRoot : InstallRoot :=
  Function.update (fun _ => none) .env (some (Text.ofString "TROJAN_PASSWORD=secret\n"))

theorem reads_sample (spec : ProviderSpec) (port : ℤ) (payload : List (String × Json))
    (hport : ApplyRun.samplePython.parseInt ApplyRun.sampleRun.trojanLocalPort = some port)
    (hpayload : Python.trojanConfigPayload (ApplyRun.sampleRun.manifest spec port) = some payload) :
    sampleReadJson (Text.utf8 (ApplyRun.samplePython.dumps (.obj payload) ++ [10]))
      = ptreeOf (.obj payload) := by
  have hparse : ApplyRun.samplePython.parseInt ApplyRun.sampleRun.trojanLocalPort = some 8443 := by
    simp only [ApplyRun.samplePython, ApplyRun.sampleRun, if_true]
  obtain rfl := Option.some.inj (hparse.symm.trans hport)
  rw [ptreeOf_payload _ _ _ hpayload]
  rfl

/-- The request of a client that has the password, for the domain `a`. -/
def secretRequest : Bytes :=
  TrojanRequest.generate (Config.sha224 sampleDigest (Text.ofString "secret").utf8) [97] 80 true

/-- The sample run writes its files. -/
theorem exists_written : ∃ root,
    ApplyRun.sampleRun.phaseWriteRuntimeConfig ApplyRun.samplePython secretRoot = .ok root := by
  have hsome : (ApplyRun.sampleRun.phaseWriteRuntimeConfig ApplyRun.samplePython
      secretRoot).toOption.isSome = true := by
    decide +kernel
  cases hwrite : ApplyRun.sampleRun.phaseWriteRuntimeConfig ApplyRun.samplePython secretRoot with
  | ok root => exact ⟨root, rfl⟩
  | error root =>
    rw [hwrite] at hsome
    exact nomatch hsome

/-- **The sample server refuses the password**: it is in the environment file, the
server is up, and the request of a client that has it is not authenticated. -/
theorem secret_refused :
    envPassword secretRoot = some (Text.ofString "secret")
      ∧ ∃ root config,
        ApplyRun.sampleRun.phaseWriteRuntimeConfig ApplyRun.samplePython secretRoot = .ok root
        ∧ serverConfig sampleReadJson sampleDigest root = some config
        ∧ (SessionGate.evaluate config none ⟨{}, secretRequest⟩).authenticated = false
        ∧ ¬ AcceptsItsPassword sampleReadJson sampleDigest root := by
  refine ⟨by decide +kernel, ?_⟩
  obtain ⟨root, hwrite⟩ := exists_written
  obtain ⟨config, hconfig, hnone⟩ := @serverConfig_of_written _ _ sampleDigest _ _ root _ rfl hwrite
    (fun spec port payload _ => reads_sample spec port payload) rfl
  exact ⟨root, config, hwrite, hconfig, not_authenticated_of_no_password hnone _,
    not_acceptsItsPassword hconfig hnone⟩

/-- The same after the password is changed. -/
theorem password_refused_rotated :
    ∃ root, ApplyRun.sampleRun.phaseWriteRuntimeConfig ApplyRun.samplePython secretRoot = .ok root
      ∧ ¬ AcceptsItsPassword sampleReadJson sampleDigest
        (Function.update root .env (some (Text.ofString "TROJAN_PASSWORD=rotated\n"))) := by
  obtain ⟨root, hwrite⟩ := exists_written
  exact ⟨root, hwrite, (password_refused ApplyRun.samplePython sampleReadJson sampleDigest rfl hwrite
    (fun spec port payload _ => reads_sample spec port payload)
    (Function.update_of_ne (by simp) _ _)).2⟩

end InstalledPassword
