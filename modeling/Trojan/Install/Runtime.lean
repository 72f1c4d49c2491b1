import Mathlib.Data.List.Lex
import Mathlib.Logic.Function.Basic
import Trojan.Client.ClientBundle
import Trojan.Util.Dict
import Trojan.Util.Utf16

/-!
# The runtime of the installer

What `scripts/install/runtime/` does with the files of an installation: the
manifest (`manifest.py`), the registry of DNS providers (`provider_registry.py`),
the files that are rendered from the manifest (`render_runtime.py`), and the
subcommands of `tp` that change them (`cli.py`, `export_client_bundle.py`).

An installation is the contents of its files. The content of a file is kept as a
text, in which a byte that is not UTF-8 stands as a lone surrogate, the way the
interpreter itself passes such bytes around; a program that reads the file as
UTF-8 fails on it. To write a file is to open it first, which empties it. A text
that has no encoding is found out only after that, and so is a full disk
(`WriteOutcome`).

What is used of the interpreter is a `Python`: how it writes and reads JSON, and
how it turns values into numbers and texts. `Python.FaithfulOn` says what the
results need of it.
-/

/-! ## Files -/

/-- The files that the installer writes and restores. -/
inductive ManagedFile where
  | manifest
  | config
  | caddyfile
  deriving DecidableEq, Repr

/-- `install_paths`, the exported certificate, the directory of backups, and all
other files as one. -/
inductive Place where
  | managed (file : ManagedFile)
  | env
  | edgeCert
  /-- `last-known-good/<file>` -/
  | backup (file : ManagedFile)
  /-- `last-known-good/<file>.missing` -/
  | missing (file : ManagedFile)
  | elsewhere
  deriving DecidableEq, Repr

/-- **An installation**: what is in each file that exists. -/
abbrev InstallRoot : Type := Place → Option Text

/-- What becomes of a write. -/
inductive WriteOutcome where
  | written
  /-- The file cannot be opened. -/
  | refused
  /-- The file has been opened, and the write ends after some of the text. -/
  | cut (length : ℕ)
  deriving DecidableEq, Repr

namespace InstallRoot

/-- A command that writes a file: the installation as it leaves it, in an error if
the command fails. -/
def transfer (outcome : WriteOutcome) (place : Place) (content : Text) (root : InstallRoot) :
    Except InstallRoot InstallRoot :=
  match outcome with
  | .written => .ok (Function.update root place (some content))
  | .refused => .error root
  | .cut length => .error (Function.update root place (some (content.take length)))

/-- `path.write_text(content, encoding="utf-8")`. -/
def writeText (outcome : WriteOutcome) (place : Place) (content : Text) (root : InstallRoot) :
    Except InstallRoot InstallRoot :=
  if outcome ≠ .refused ∧ content.wellFormed = false then
    .error (Function.update root place (some []))
  else root.transfer outcome place content

/-- `path.read_text(encoding="utf-8")`. -/
def readText (root : InstallRoot) (place : Place) : Option Text :=
  (root place).filter Text.wellFormed

theorem transfer_ok {outcome : WriteOutcome} {place : Place} {content : Text}
    {root root' : InstallRoot} :
    root.transfer outcome place content = .ok root' ↔
      outcome = .written ∧ root' = Function.update root place (some content) := by
  cases outcome with
  | written => exact ⟨fun h => ⟨rfl, (Except.ok.inj h).symm⟩, fun h => congrArg Except.ok h.2.symm⟩
  | refused => exact ⟨nofun, fun h => nomatch h.1⟩
  | cut length => exact ⟨nofun, fun h => nomatch h.1⟩

/-- A write succeeds only with a text that has an encoding. -/
theorem writeText_ok {outcome : WriteOutcome} {place : Place} {content : Text}
    {root root' : InstallRoot} (h : root.writeText outcome place content = .ok root') :
    content.wellFormed = true ∧ root' = Function.update root place (some content) := by
  unfold writeText at h
  split at h
  · exact nomatch h
  · rename_i hnot
    obtain ⟨rfl, rfl⟩ := transfer_ok.mp h
    refine ⟨?_, rfl⟩
    simpa using hnot

/-- A write that fails has changed nothing, if it is not cut short and the text
can be encoded. -/
theorem writeText_error {outcome : WriteOutcome} {place : Place} {content : Text}
    {root root' : InstallRoot} (h : root.writeText outcome place content = .error root')
    (hcut : ∀ length, outcome ≠ .cut length) (hformed : content.wellFormed = true) :
    root' = root := by
  unfold writeText at h
  rw [if_neg (by simp [hformed])] at h
  cases outcome with
  | written => exact nomatch h
  | refused => exact (Except.error.inj h).symm
  | cut length => exact absurd rfl (hcut length)

/-- A write changes no other file. -/
theorem writeText_frame {outcome : WriteOutcome} {place other : Place} {content : Text}
    {root root' : InstallRoot} (hother : other ≠ place)
    (h : root.writeText outcome place content = .error root'
      ∨ root.writeText outcome place content = .ok root') : root' other = root other := by
  unfold writeText transfer at h
  split at h
  · rcases h with h | h
    · rw [← Except.error.inj h, Function.update_of_ne hother]
    · exact nomatch h
  · cases outcome with
    | written =>
      rcases h with h | h
      · exact nomatch h
      · rw [← Except.ok.inj h, Function.update_of_ne hother]
    | refused =>
      rcases h with h | h
      · rw [← Except.error.inj h]
      · exact nomatch h
    | cut length =>
      rcases h with h | h
      · rw [← Except.error.inj h, Function.update_of_ne hother]
      · exact nomatch h

/-- What has been written is read back. -/
theorem readText_of_wellFormed {root : InstallRoot} {place : Place} {content : Text}
    (hplace : root place = some content) (hformed : content.wellFormed = true) :
    root.readText place = some content := by
  rw [readText, hplace, Option.filter_some, if_pos hformed]

end InstallRoot

/-! ## The interpreter -/

/-- What the programs use of the interpreter and its library. -/
structure Python where
  /-- `json.dumps(payload, indent=2, ensure_ascii=False)` -/
  dumps : Json → Text
  /-- `json.loads`, which fails on what is not JSON. -/
  loads : Text → Option Json
  /-- `int` of a string. -/
  parseInt : Text → Option ℤ
  /-- `str` of a value that is not a string. -/
  repr : Json → Text
  /-- `str.lower` -/
  toLower : Text → Text

namespace Python

variable (python : Python)

/-- `str(value)` -/
def str : Json → Text
  | .str text => text
  | value => python.repr value

/-- `int(value)` -/
def int : Json → Option ℤ
  | .int n => some n
  | .double truncated => truncated
  | .bool b => some (if b then 1 else 0)
  | .str text => python.parseInt text
  | _ => none

end Python

/-! ## The environment file -/

namespace Environment

/-- The boundaries of `str.splitlines`. -/
def isLineBoundary (unit : UInt16) : Bool :=
  (10 ≤ unit && unit ≤ 13) || (0x1C ≤ unit && unit ≤ 0x1E) || unit == 0x85 || unit == 0x2028 ||
    unit == 0x2029

/-- `str.isspace` -/
def isSpace (unit : UInt16) : Bool :=
  (9 ≤ unit && unit ≤ 13) || (0x1C ≤ unit && unit ≤ 0x20) || unit == 0x85 || unit == 0xA0 ||
    unit == 0x1680 || (0x2000 ≤ unit && unit ≤ 0x200A) || unit == 0x2028 || unit == 0x2029 ||
    unit == 0x202F || unit == 0x205F || unit == 0x3000

/-- `str.strip` -/
def strip (line : Text) : Text := (line.dropWhile isSpace).rdropWhile isSpace

/-- `=` -/
def equals : UInt16 := 0x3D

/-- The body of the loop of `load_env_file`. Between the lines of a file there may
be two boundaries, but an empty line is skipped. -/
def loadLine (result : List (Text × Text)) (rawLine : Text) : List (Text × Text) :=
  let line := strip rawLine
  if line.isEmpty || line.head? == some 0x23 || !line.contains equals then result
  else
    Dict.set (line.takeWhile (· != equals)) ((line.dropWhile (· != equals)).drop 1) result

/-- The entries of an environment file. -/
def parse (text : Text) : List (Text × Text) := (text.splitOnP isLineBoundary).foldl loadLine []

/-- Entries in the order of their keys, which are different. -/
def sortedItems (env : List (Text × Text)) : List (Text × Text) :=
  Sorter.insertion.sort (fun a b => decide (a.1.codePoints ≤ b.1.codePoints)) env

/-- What `write_env_file` writes. -/
def render (env : List (Text × Text)) : Text :=
  (sortedItems env).flatMap (fun item => item.1 ++ equals :: item.2 ++ [10])

/-! What is read from a file can be written again. -/

theorem isSurrogate_eq_false {unit : UInt16} (h : unit.toNat < 0xD800 ∨ 0xE000 ≤ unit.toNat) :
    Text.isSurrogate unit = false := by
  simp only [Text.isSurrogate, Text.isHighSurrogate, Text.isLowSurrogate, Bool.or_eq_false_iff,
    Bool.and_eq_false_iff, decide_eq_false_iff_not, UInt16.le_iff_toNat_le,
    UInt16.lt_iff_toNat_lt, UInt16.reduceToNat]
  omega

theorem isSurrogate_of_isLineBoundary (unit : UInt16) (h : isLineBoundary unit = true) :
    Text.isSurrogate unit = false := by
  simp only [isLineBoundary, Bool.or_eq_true, Bool.and_eq_true, decide_eq_true_eq, beq_iff_eq,
    UInt16.le_iff_toNat_le, ← UInt16.toNat_inj, UInt16.reduceToNat] at h
  exact isSurrogate_eq_false (by omega)

theorem isSurrogate_of_isSpace (unit : UInt16) (h : isSpace unit = true) :
    Text.isSurrogate unit = false := by
  simp only [isSpace, Bool.or_eq_true, Bool.and_eq_true, decide_eq_true_eq, beq_iff_eq,
    UInt16.le_iff_toNat_le, ← UInt16.toNat_inj, UInt16.reduceToNat] at h
  exact isSurrogate_eq_false (by omega)

theorem wellFormed_strip {line : Text} (h : line.wellFormed = true) :
    (strip line).wellFormed = true :=
  Text.wellFormed_rdropWhile isSurrogate_of_isSpace
    (Text.wellFormed_dropWhile isSurrogate_of_isSpace h)

/-- The two sides of the first `=`. -/
theorem wellFormed_sides {line : Text} (h : line.wellFormed = true) :
    Text.wellFormed (line.takeWhile (· != equals)) = true
      ∧ Text.wellFormed ((line.dropWhile (· != equals)).drop 1) = true := by
  rw [← List.takeWhile_append_dropWhile (p := (· != equals)) (l := line)] at h
  cases hdrop : line.dropWhile (· != equals) with
  | nil =>
    rw [hdrop, List.append_nil] at h
    exact ⟨h, rfl⟩
  | cons unit rest =>
    have hhead := List.head_dropWhile_not (· != equals) (l := line) (by simp [hdrop])
    simp only [hdrop, List.head_cons, bne_eq_false_iff_eq] at hhead
    rw [hdrop, Text.wellFormed_append_cons (by rw [hhead]; decide), Bool.and_eq_true] at h
    exact h

/-- Entries that can be written. -/
def WellFormed (env : List (Text × Text)) : Prop :=
  ∀ item ∈ env, item.1.wellFormed = true ∧ item.2.wellFormed = true

theorem WellFormed.set {env : List (Text × Text)} (h : WellFormed env) {key value : Text}
    (hkey : key.wellFormed = true) (hvalue : value.wellFormed = true) :
    WellFormed (Dict.set key value env) := by
  intro item hitem
  rcases Dict.mem_set hitem with rfl | hitem
  · exact ⟨hkey, hvalue⟩
  · exact h item hitem

theorem wellFormed_parse {text : Text} (h : text.wellFormed = true) : WellFormed (parse text) := by
  have hloop (lines : List Text) (result : List (Text × Text))
      (hlines : ∀ line ∈ lines, line.wellFormed = true) (hresult : WellFormed result) :
      WellFormed (lines.foldl loadLine result) := by
    induction lines generalizing result with
    | nil => exact hresult
    | cons line lines ih =>
      refine ih _ (fun l hl => hlines l (List.mem_cons_of_mem _ hl)) ?_
      unfold loadLine
      dsimp only
      split
      · exact hresult
      · obtain ⟨hkey, hvalue⟩ := wellFormed_sides (wellFormed_strip (hlines line List.mem_cons_self))
        exact hresult.set hkey hvalue
  refine hloop _ [] (fun line hline => ?_) (fun _ hitem => nomatch hitem)
  exact Text.wellFormed_of_mem_splitOnP isSurrogate_of_isLineBoundary h hline

theorem wellFormed_render {env : List (Text × Text)} (h : WellFormed env) :
    (render env).wellFormed = true := by
  have hsorted : WellFormed (sortedItems env) := fun item hitem =>
    h item (Sorter.insertion.mem_sort.mp hitem)
  unfold render
  generalize sortedItems env = items at hsorted ⊢
  induction items with
  | nil => rfl
  | cons item items ih =>
    obtain ⟨hkey, hvalue⟩ := hsorted item List.mem_cons_self
    have hline : Text.wellFormed (item.1 ++ equals :: item.2 ++ [10]) = true := by
      rw [Text.wellFormed_append_cons (by decide), Text.wellFormed_append_cons (by decide), hkey,
        hvalue]
      rfl
    rw [List.flatMap_cons, Text.wellFormed_append hline]
    exact ih (fun i hi => hsorted i (List.mem_cons_of_mem _ hi))

end Environment

namespace InstallRoot

/-- `load_env_file`; a file that is not there is empty. -/
def loadEnvFile (root : InstallRoot) : Option (List (Text × Text)) :=
  match root .env with
  | none => some []
  | some _ => (root.readText .env).map Environment.parse

theorem wellFormed_loadEnvFile {root : InstallRoot} {env : List (Text × Text)}
    (h : root.loadEnvFile = some env) : Environment.WellFormed env := by
  unfold loadEnvFile at h
  split at h
  · obtain rfl := Option.some.inj h
    exact fun _ hitem => nomatch hitem
  · obtain ⟨text, htext, rfl⟩ := Option.map_eq_some_iff.mp h
    exact Environment.wellFormed_parse (Option.mem_filter_iff.mp htext).2

def writeEnvFile (root : InstallRoot) (outcome : WriteOutcome) (env : List (Text × Text)) :
    Except InstallRoot InstallRoot :=
  root.writeText outcome .env (Environment.render env)

end InstallRoot

/-! ## The registry of providers -/

structure ProviderSpec where
  id : Text
  supportTier : Text
  caddyDnsModule : Text
  requiredEnvKeys : List Text
  optionalEnvKeys : List Text := []
  deriving DecidableEq, Repr

namespace ProviderRegistry

/-- `providers/dns-providers.json` -/
def providers : List ProviderSpec := [
  { id := Text.ofString "cloudflare"
    supportTier := Text.ofString "full"
    caddyDnsModule := Text.ofString "dns.providers.cloudflare"
    requiredEnvKeys := [Text.ofString "CLOUDFLARE_API_TOKEN"] },
  { id := Text.ofString "route53"
    supportTier := Text.ofString "full"
    caddyDnsModule := Text.ofString "dns.providers.route53"
    requiredEnvKeys := [Text.ofString "AWS_ACCESS_KEY_ID", Text.ofString "AWS_SECRET_ACCESS_KEY",
      Text.ofString "AWS_REGION"]
    optionalEnvKeys := [Text.ofString "AWS_SESSION_TOKEN"] },
  { id := Text.ofString "alidns"
    supportTier := Text.ofString "full"
    caddyDnsModule := Text.ofString "dns.providers.alidns"
    requiredEnvKeys := [Text.ofString "ALICLOUD_ACCESS_KEY_ID",
      Text.ofString "ALICLOUD_ACCESS_KEY_SECRET"] },
  { id := Text.ofString "dnspod"
    supportTier := Text.ofString "full"
    caddyDnsModule := Text.ofString "dns.providers.dnspod"
    requiredEnvKeys := [Text.ofString "DNSPOD_SECRET_ID", Text.ofString "DNSPOD_SECRET_KEY"]
    optionalEnvKeys := [Text.ofString "DNSPOD_TOKEN"] },
  { id := Text.ofString "gcloud"
    supportTier := Text.ofString "full"
    caddyDnsModule := Text.ofString "dns.providers.gcloud"
    requiredEnvKeys := [Text.ofString "GCP_PROJECT", Text.ofString "GCP_SERVICE_ACCOUNT_JSON"] }]

/-- `load_provider_registry` -/
def registry : List (Text × ProviderSpec) := providers.map (fun spec => (spec.id, spec))

/-- `validate_provider_env`: the required keys that have no value. An unknown
provider is an error. -/
def validateProviderEnv (providerId : Text) (env : List (Text × Text)) : Option (List Text) :=
  (registry.lookup providerId).map (fun spec =>
    spec.requiredEnvKeys.filter (fun key => ((env.lookup key).getD []).isEmpty))

end ProviderRegistry

/-! ## The manifest, and what is rendered from it -/

/-- A manifest. -/
abbrev Manifest : Type := List (String × Json)

namespace Python

variable (python : Python)

/-- What `write_manifest` writes. -/
def manifestText (manifest : Manifest) : Text := python.dumps (.obj manifest) ++ [10]

/-- An entry whose texts can be encoded. -/
def entryWellFormed : String × Json → Bool
  | (key, .str text) => (Text.ofString key).wellFormed && text.wellFormed
  | (key, _) => (Text.ofString key).wellFormed

theorem entryWellFormed_str {key : String} {text : Text}
    (hkey : (Text.ofString key).wellFormed = true) (htext : text.wellFormed = true) :
    entryWellFormed (key, .str text) = true := Bool.and_eq_true_iff.mpr ⟨hkey, htext⟩

/-- **What the results need of the interpreter**, for a family of manifests: each is
read back as it was written, also if a newline follows; and since the text of a
string is written as it is, up to escapes, the whole can be encoded exactly when
the texts in it can. All dictionaries of texts, integers and nulls are such a
family. -/
structure FaithfulOn (manifests : Manifest → Prop) : Prop where
  loads_dumps : ∀ manifest, manifests manifest →
    python.loads (python.manifestText manifest) = some (.obj manifest)
  wellFormed_dumps : ∀ manifest, manifests manifest →
    ((python.manifestText manifest).wellFormed = true ↔
      ∀ entry ∈ manifest, entryWellFormed entry = true)

/-- `read_manifest`, of which only a dictionary is of use. -/
def readManifest (root : InstallRoot) : Option Manifest :=
  ((root.readText (.managed .manifest)).bind python.loads).bind Json.fields?

def writeManifest (outcome : WriteOutcome) (manifest : Manifest) (root : InstallRoot) :
    Except InstallRoot InstallRoot :=
  root.writeText outcome (.managed .manifest) (python.manifestText manifest)

/-- The template of the Caddyfile, filled in: what comes before the module. -/
def caddyfileHead (wwwDomain : Text) : Text :=
  Text.ofString ":80 \x7b\n" ++
  Text.ofString "    redir https://" ++ wwwDomain ++ Text.ofString "\x7buri\x7d\n" ++
  Text.ofString "\x7d\n\n" ++
  wwwDomain ++ Text.ofString " \x7b\n" ++
  Text.ofString "    tls \x7b\n" ++
  Text.ofString "        dns "

/-- What follows it. -/
def caddyfileTail (edgeDomain : Text) (edgePort : ℤ) : Text :=
  Text.ofString "\n" ++
  Text.ofString "    \x7d\n" ++
  Text.ofString "    root * /var/lib/trojan-pro/site\n" ++
  Text.ofString "    file_server\n" ++
  Text.ofString "\x7d\n\n" ++
  Text.ofString "\x7b\n" ++
  Text.ofString "    layer4 \x7b\n" ++
  Text.ofString "        :443 \x7b\n" ++
  Text.ofString "            @edge tls sni " ++ edgeDomain ++ Text.ofString "\n" ++
  Text.ofString "            route @edge \x7b\n" ++
  Text.ofString "                proxy 127.0.0.1:" ++ Text.ofString (toString edgePort) ++
    Text.ofString "\n" ++
  Text.ofString "            \x7d\n" ++
  Text.ofString "        \x7d\n" ++
  Text.ofString "    \x7d\n" ++
  Text.ofString "\x7d\n"

def caddyfileText (wwwDomain edgeDomain dnsProviderModule : Text) (edgePort : ℤ) : Text :=
  caddyfileHead wwwDomain ++ dnsProviderModule ++ caddyfileTail edgeDomain edgePort

theorem caddyfileText_ne_nil (wwwDomain edgeDomain dnsProviderModule : Text) (edgePort : ℤ) :
    caddyfileText wwwDomain edgeDomain dnsProviderModule edgePort ≠ [] := by
  intro h
  have htail := (List.append_eq_nil_iff.mp h).2
  exact absurd (List.append_eq_nil_iff.mp htail).2 (by decide)

/-- The Caddyfile tells the module. -/
theorem caddyfileText_injective {wwwDomain edgeDomain dnsProviderModule dnsProviderModule' : Text}
    {edgePort : ℤ} (h : caddyfileText wwwDomain edgeDomain dnsProviderModule edgePort
      = caddyfileText wwwDomain edgeDomain dnsProviderModule' edgePort) :
    dnsProviderModule = dnsProviderModule' :=
  List.append_cancel_left (List.append_cancel_right h)

/-- `render_caddyfile` -/
def renderCaddyfile (manifest : Manifest) : Option Text := do
  let wwwDomain ← manifest.lookup "www_domain"
  let edgeDomain ← manifest.lookup "edge_domain"
  let edgePort ← (← manifest.lookup "trojan_local_port") |> python.int
  let dnsProviderModule ← manifest.lookup "dns_provider_module"
  return caddyfileText (python.str wwwDomain) (python.str edgeDomain)
    (python.str dnsProviderModule) edgePort

/-- The configuration of the server that a manifest stands for. -/
def trojanConfigPayload (manifest : Manifest) : Option (List (String × Json)) := do
  let localPort ← manifest.lookup "trojan_local_port"
  let edgeDomain ← manifest.lookup "edge_domain"
  return [("run_type", .str (Text.ofString "server")),
    ("local_addr", (manifest.lookup "trojan_local_addr").getD (.str (Text.ofString "127.0.0.1"))),
    ("local_port", localPort),
    ("remote_addr", .str (Text.ofString "127.0.0.1")),
    ("remote_port", .int 80),
    ("password_env",
      (manifest.lookup "trojan_password_env_key").getD (.str (Text.ofString "TROJAN_PASSWORD"))),
    ("ssl", .obj [
      ("cert", .str (Text.ofString "/etc/trojan-pro/certs/current/edge.crt")),
      ("key", .str (Text.ofString "/etc/trojan-pro/certs/current/edge.key")),
      ("sni", edgeDomain)])]

/-- `render_trojan_config` -/
def renderTrojanConfig (manifest : Manifest) : Option Text :=
  (trojanConfigPayload manifest).map (fun payload => python.dumps (.obj payload) ++ [10])

/-! ## The subcommands of `tp` -/

/-- `tp set-web-mode`, which takes an upstream for one of the modes. -/
inductive WebMode where
  | static
  | upstream
  deriving DecidableEq, Repr

/-- The manifest with another web mode. -/
def withWebMode (mode : WebMode) (upstream : Option Text) (manifest : Manifest) : Manifest :=
  match mode with
  | .upstream => Dict.set "web_upstream" (upstream.elim .null .str)
    (Dict.set "web_mode" (.str (Text.ofString "upstream")) manifest)
  | .static => Dict.remove "web_upstream"
    (Dict.set "web_mode" (.str (Text.ofString "static")) manifest)

def cmdSetWebMode (outcome : WriteOutcome) (mode : WebMode) (upstream : Option Text)
    (root : InstallRoot) : Except InstallRoot InstallRoot :=
  match python.readManifest root with
  | none => .error root
  | some manifest => python.writeManifest outcome (withWebMode mode upstream manifest) root

/-- `secrets.token_urlsafe(24)`: letters, digits, `-` and `_`. -/
structure Token where
  text : Text
  urlsafe : text.all (fun unit => (0x30 ≤ unit && unit ≤ 0x39) || (0x41 ≤ unit && unit ≤ 0x5A) ||
    (0x61 ≤ unit && unit ≤ 0x7A) || unit == 0x2D || unit == 0x5F) = true

theorem Token.wellFormed (token : Token) : token.text.wellFormed = true := by
  refine Text.wellFormed_of_forall (fun unit hunit => ?_)
  have hurlsafe := List.all_eq_true.mp token.urlsafe unit hunit
  simp only [Bool.or_eq_true, Bool.and_eq_true, decide_eq_true_eq, beq_iff_eq,
    UInt16.le_iff_toNat_le, ← UInt16.toNat_inj, UInt16.reduceToNat] at hurlsafe
  exact Environment.isSurrogate_eq_false (by omega)

def cmdRotatePassword (outcome : WriteOutcome) (token : Token) (root : InstallRoot) :
    Except InstallRoot InstallRoot :=
  match root.loadEnvFile with
  | none => .error root
  | some env =>
    root.writeEnvFile outcome (Dict.set (Text.ofString "TROJAN_PASSWORD") token.text env)

/-- The manifest with another provider. -/
def withProvider (provider : Text) (spec : ProviderSpec) (manifest : Manifest) : Manifest :=
  Dict.set "support_tier" (.str spec.supportTier)
    (Dict.set "dns_provider_module" (.str spec.caddyDnsModule)
      (Dict.set "dns_provider" (.str provider) manifest))

def cmdReconfigureDnsProvider (outcome : WriteOutcome) (provider : Text) (root : InstallRoot) :
    Except InstallRoot InstallRoot :=
  match python.readManifest root, root.loadEnvFile with
  | some manifest, some env =>
    match ProviderRegistry.validateProviderEnv provider env,
        ProviderRegistry.registry.lookup provider with
    | some [], some spec => python.writeManifest outcome (withProvider provider spec manifest) root
    | _, _ => .error root
  | _, _ => .error root

/-- What is read besides the manifest to export a bundle: the rules, the metadata
of their snapshot, and the time. -/
structure ExportInputs where
  directRules : List ParsedRule
  proxyRules : List ParsedRule
  rejectRules : List ParsedRule
  sourceMeta : List (String × Json)
  generatedAt : Text

/-- The bundle for the clients of an installation. -/
def clientBundle (inputs : ExportInputs) (manifest : Manifest) : Option Json := do
  let edgeDomain ← manifest.lookup "edge_domain"
  let serverPort ← python.int ((manifest.lookup "bundle_server_port").getD (.int 443))
  let options : ClientBundle.BundleOptions := {
    sourceMeta := inputs.sourceMeta
    serverHost := python.str edgeDomain
    serverPort := serverPort
    sni := python.str edgeDomain
    profileName := python.str
      ((manifest.lookup "bundle_profile_name").getD (.str (Text.ofString "Managed Edge")))
    generatedAt := inputs.generatedAt }
  (ClientBundle.buildBundle python.toLower options inputs.directRules inputs.proxyRules
    inputs.rejectRules).toOption

/-- `tp export-client-bundle`, whose output may be directed anywhere. The inputs
are nothing if one of them cannot be read. -/
def cmdExportClientBundle (outcome : WriteOutcome) (inputs : Option ExportInputs)
    (output : Place) (root : InstallRoot) : Except InstallRoot InstallRoot :=
  match python.readManifest root, inputs with
  | some manifest, some inputs =>
    match python.clientBundle inputs manifest with
    | some bundle => root.writeText outcome output (python.dumps bundle ++ [10])
    | none => .error root
  | _, _ => .error root

end Python
