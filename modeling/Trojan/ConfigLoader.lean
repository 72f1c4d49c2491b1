import Trojan.Config
import Trojan.Util.Json
import Trojan.Util.LengthPrefixed
import Trojan.Util.Utf16

/-!
# Loading the configuration

`Config::load` and `Config::populate` (`core/config.cpp`), for the settings that the
modelled code reads. A configuration is read into a property tree, where every value
is a string and an array is a node whose children have no keys; each setting is then
fetched from its path with a default, which is also taken if the string does not
convert. Only two things end the loading with an exception: an unknown `run_type`,
and a port of `ssl.alpn_port_override` that is not one.

The passwords are the values under `password`, and they are kept by their SHA-224.
No other path is read for them. The reader of JSON and the digest are parameters.
-/

/-- `boost::property_tree::ptree` -/
inductive Ptree where
  | node (data : Bytes) (children : List (Bytes × Ptree))

namespace Ptree

def data : Ptree → Bytes
  | .node data _ => data

def children : Ptree → List (Bytes × Ptree)
  | .node _ children => children

/-- `get_child_optional`, for the keys of a path. -/
def getChildOptional (tree : Ptree) : List String → Option Ptree
  | [] => some tree
  | key :: path => (tree.children.lookup (ascii key)).bind (fun child => child.getChildOptional path)

/-- White space, for a stream. -/
def isSpace (b : UInt8) : Bool := b == 32 || (9 ≤ b && b ≤ 13)

/-- What a stream reads after white space, if only white space follows. -/
def trimmed (data : Bytes) : Bytes :=
  ((data.dropWhile isSpace).reverse.dropWhile isSpace).reverse

def isDigit (b : UInt8) : Bool := 48 ≤ b && b ≤ 57

/-- The value of a string of digits. -/
def digitsValue (digits : Bytes) : ℕ :=
  digits.foldl (fun value b => 10 * value + (b.toNat - 48)) 0

/-- A number in decimal: whether there is a minus sign, and its digits' value. -/
def extractDecimal (data : Bytes) : Option (Bool × ℕ) :=
  let (negative, digits) := match trimmed data with
    | 45 :: digits => (true, digits)
    | 43 :: digits => (false, digits)
    | digits => (false, digits)
  if digits.isEmpty || !digits.all isDigit then none else some (negative, digitsValue digits)

/-- `get_value_optional<uint16_t>`; an unsigned number may have a sign. -/
def toUInt16 (data : Bytes) : Option UInt16 :=
  (extractDecimal data).bind (fun (negative, value) =>
    if 65535 < value then none
    else some (if negative then 0 - UInt16.ofNat value else UInt16.ofNat value))

/-- `get_value_optional<int>` -/
def toInt (data : Bytes) : Option ℤ :=
  (extractDecimal data).bind (fun (negative, value) =>
    if negative then (if 2147483648 < value then none else some (-value))
    else (if 2147483647 < value then none else some value))

/-- `get_value_optional<bool>`: a number first, then a word. -/
def toBool (data : Bytes) : Option Bool :=
  match extractDecimal data with
  | some (_, 0) => some false
  | some (false, 1) => some true
  | some _ => none
  | none =>
    if trimmed data = ascii "true" then some true
    else if trimmed data = ascii "false" then some false
    else none

variable (tree : Ptree) (path : List String)

/-- `get(path, string)` -/
def getString (default : Bytes) : Bytes := ((tree.getChildOptional path).map data).getD default

def getUInt16 (default : UInt16) : UInt16 :=
  ((tree.getChildOptional path).bind (fun child => toUInt16 child.data)).getD default

def getInt (default : ℤ) : ℤ :=
  ((tree.getChildOptional path).bind (fun child => toInt child.data)).getD default

def getBool (default : Bool) : Bool :=
  ((tree.getChildOptional path).bind (fun child => toBool child.data)).getD default

/-- The children at a path, if there is one. -/
def childrenAt : List (Bytes × Ptree) := ((tree.getChildOptional path).map children).getD []

end Ptree

/-! ## JSON as a property tree -/

mutual

/-- The tree that a JSON value is read into; not for a number with a fraction. -/
def ptreeOf : Json → Option Ptree
  | .null => some (.node (ascii "null") [])
  | .bool value => some (.node (ascii (if value then "true" else "false")) [])
  | .int value => some (.node (ascii (toString value)) [])
  | .double _ => none
  | .str value => some (.node value.utf8 [])
  | .arr items => (ptreesOfItems items).map (.node [])
  | .obj fields => (ptreesOfFields fields).map (.node [])

def ptreesOfItems : List Json → Option (List (Bytes × Ptree))
  | [] => some []
  | item :: items =>
    (ptreeOf item).bind (fun tree => (ptreesOfItems items).map (([], tree) :: ·))

def ptreesOfFields : List (String × Json) → Option (List (Bytes × Ptree))
  | [] => some []
  | (key, value) :: fields =>
    (ptreeOf value).bind (fun tree => (ptreesOfFields fields).map ((ascii key, tree) :: ·))

end

namespace Config

/-- `map[key] = value`, in a map ordered by its keys. -/
def mapInsert {V : Type} (key : Bytes) (value : V) : List (Bytes × V) → List (Bytes × V)
  | [] => [(key, value)]
  | entry :: rest =>
    if key = entry.1 then (key, value) :: rest
    else if key < entry.1 then (key, value) :: entry :: rest
    else entry :: mapInsert key value rest

/-- `"%02x"` -/
def hexByte (b : UInt8) : Bytes :=
  let digit (n : ℕ) : UInt8 := UInt8.ofNat (if n < 10 then 48 + n else 87 + n)
  [digit (b.toNat / 16), digit (b.toNat % 16)]

/-- **`Config::SHA224`**, of a digest. -/
def sha224 (digest : Bytes → Bytes) (message : Bytes) : Bytes := (digest message).flatMap hexByte

def readRunType (name : Bytes) : Option RunType :=
  if name = ascii "server" then some .server
  else if name = ascii "forward" then some .forward
  else if name = ascii "nat" then some .nat
  else if name = ascii "client" then some .client
  else none

/-- The loop over the names of protocols. The length is cut down to a byte. -/
def readAlpn (items : List (Bytes × Ptree)) : Bytes :=
  items.foldl (fun alpn item =>
    alpn ++ [UInt8.ofNat item.2.data.length] ++ item.2.data) []

/-- The body of the loop over the ports for protocols, which may throw. -/
def readAlpnPorts (items : List (Bytes × Ptree)) : Option (List (Bytes × UInt16)) :=
  items.foldl (fun ports item => ports.bind (fun ports =>
    (Ptree.toUInt16 item.2.data).map (fun port => mapInsert item.1 port ports))) (some [])

/-- **`Config::populate`**: the configuration in a tree, nothing if it throws. -/
def populate (digest : Bytes → Bytes) (tree : Ptree) : Option Config := do
  let runType ← readRunType (tree.getString ["run_type"] (ascii "client"))
  let alpnPortOverride ← readAlpnPorts (tree.childrenAt ["ssl", "alpn_port_override"])
  return {
    runType := runType
    remoteAddr := tree.getString ["remote_addr"] []
    remotePort := tree.getUInt16 ["remote_port"] 0
    targetAddr := tree.getString ["target_addr"] []
    targetPort := tree.getUInt16 ["target_port"] 0
    password := (tree.childrenAt ["password"]).foldl (fun passwords item =>
      mapInsert (sha224 digest item.2.data) item.2.data passwords) []
    ssl := {
      alpn := readAlpn (tree.childrenAt ["ssl", "alpn"])
      alpnPortOverride := alpnPortOverride }
    tcp := { preferIpv4 := tree.getBool ["tcp", "prefer_ipv4"] false }
    abuseControl := {
      enabled := tree.getBool ["abuse_control", "enabled"] true
      perIpMaxConnections := tree.getInt ["abuse_control", "per_ip_max_connections"] 64
      authFailWindowSeconds := tree.getInt ["abuse_control", "auth_fail_window_seconds"] 60
      authFailMax := tree.getInt ["abuse_control", "auth_fail_max"] 20
      cooldownSeconds := tree.getInt ["abuse_control", "cooldown_seconds"] 60
      fallbackMaxActive := tree.getInt ["abuse_control", "fallback_max_active"] 32 }
    externalFront := {
      enabled := tree.getBool ["external_front", "enabled"] false
      enableTrustedFrontListener :=
        tree.getBool ["external_front", "enable_trusted_front_listener"] false
      trustedFrontListenerUseMtls :=
        tree.getBool ["external_front", "trusted_front_listener_use_mtls"] false
      requireTrustedFrontLoopbackSource :=
        tree.getBool ["external_front", "require_trusted_front_loopback_source"] true } }

/-- **`Config::load`**, of the content of the file. -/
def load (readJson : Bytes → Option Ptree) (digest : Bytes → Bytes) (content : Bytes) :
    Option Config :=
  (readJson content).bind (populate digest)

/-! ## The names of protocols -/

/-- The names of protocols that are configured, in order. -/
def alpnNames (tree : Ptree) : List Bytes :=
  (tree.childrenAt ["ssl", "alpn"]).map (fun item => item.2.data)

/-- The loop writes every name behind its length. -/
theorem readAlpn_eq_write (items : List (Bytes × Ptree)) :
    readAlpn items = LengthPrefixed.write UInt8.ofNat (items.map (fun item => item.2.data)) := by
  have hloop (alpn : Bytes) :
      items.foldl (fun alpn item =>
          alpn ++ [UInt8.ofNat item.2.data.length] ++ item.2.data) alpn
        = alpn ++ LengthPrefixed.write UInt8.ofNat (items.map (fun item => item.2.data)) := by
    induction items generalizing alpn with
    | nil => exact (List.append_nil alpn).symm
    | cons item items ih =>
      rw [List.foldl_cons, ih]
      simp [LengthPrefixed.write, List.append_assoc]
  exact hloop []

/-- A length survives in a byte exactly if it is less than 256. -/
theorem toNat_ofNat_eq_iff (n : ℕ) : (UInt8.ofNat n).toNat = n ↔ n < 256 := by
  rw [UInt8.toNat_ofNat']
  exact ⟨fun h => h ▸ Nat.mod_lt n (by decide), Nat.mod_eq_of_lt⟩

/-- What is loaded for `ssl.alpn`. -/
theorem alpn_of_populate {digest : Bytes → Bytes} {tree : Ptree} {config : Config}
    (h : populate digest tree = some config) :
    config.ssl.alpn = LengthPrefixed.write UInt8.ofNat (alpnNames tree) := by
  simp only [populate, Option.bind_eq_bind, Option.bind_eq_some_iff, Option.pure_def,
    Option.some.injEq] at h
  obtain ⟨runType, -, ports, -, rfl⟩ := h
  exact readAlpn_eq_write _

/-- **The names that are configured are the names that are offered** – what the wire
format makes of `ssl.alpn` – exactly if all of them are shorter than 256 bytes. No name
is refused for its length. -/
theorem read_alpn_iff {digest : Bytes → Bytes} {tree : Ptree} {config : Config}
    (h : populate digest tree = some config) :
    LengthPrefixed.read UInt8.toNat config.ssl.alpn = some (alpnNames tree)
      ↔ ∀ name ∈ alpnNames tree, name.length < 256 := by
  rw [alpn_of_populate h]
  exact LengthPrefixed.read_write_iff.trans
    (forall₂_congr fun name _ => toNat_ofNat_eq_iff name.length)

/-- A configuration with a list of protocols and nothing else. -/
def alpnTree (names : List Bytes) : Ptree :=
  .node [] [(ascii "ssl", .node [] [(ascii "alpn",
    .node [] (names.map (fun name => ([], .node name []))))])]

theorem alpnNames_alpnTree (names : List Bytes) : alpnNames (alpnTree names) = names := by
  show (names.map (fun name => (([] : Bytes), Ptree.node name []))).map (fun item => item.2.data)
    = names
  rw [List.map_map]
  exact List.map_id names

/-- Names of any length are accepted. -/
theorem exists_populate_alpnTree (names : List Bytes) :
    ∃ config, populate id (alpnTree names) = some config := ⟨_, rfl⟩

/-- The names that every example configures. -/
theorem read_alpn_h2 : ∃ config, populate id (alpnTree [ascii "h2", ascii "http/1.1"])
      = some config
    ∧ LengthPrefixed.read UInt8.toNat config.ssl.alpn
      = some (alpnNames (alpnTree [ascii "h2", ascii "http/1.1"])) :=
  ⟨_, rfl, (@read_alpn_iff id (alpnTree [ascii "h2", ascii "http/1.1"]) _ rfl).mpr (by decide)⟩

/-- **A name of 256 bytes** is accepted, and offered as the empty name and what its bytes
happen to say. -/
theorem read_alpn_long : ∃ config, populate id (alpnTree [List.replicate 256 97]) = some config
    ∧ LengthPrefixed.read UInt8.toNat config.ssl.alpn
      ≠ some (alpnNames (alpnTree [List.replicate 256 97])) := by
  obtain ⟨config, hconfig⟩ := exists_populate_alpnTree [List.replicate 256 97]
  refine ⟨config, hconfig, fun h => ?_⟩
  -- a name that is read is as long as its byte says, and the byte says 0
  rw [alpn_of_populate hconfig, alpnNames_alpnTree] at h
  obtain ⟨hlength, -⟩ := LengthPrefixed.eq_of_read_cons h
  rw [List.length_replicate] at hlength
  exact absurd hlength (by decide)

/-! ## The passwords -/

/-- What a map holds after an assignment. -/
theorem mem_mapInsert {V : Type} {key : Bytes} {value : V} {map : List (Bytes × V)}
    {entry : Bytes × V} (h : entry ∈ mapInsert key value map) :
    entry = (key, value) ∨ entry ∈ map := by
  induction map with
  | nil => exact .inl (List.mem_singleton.mp h)
  | cons first rest ih =>
    unfold mapInsert at h
    split at h
    · exact (List.mem_cons.mp h).imp_right (List.mem_cons_of_mem first)
    · split at h
      · exact List.mem_cons.mp h
      · rcases List.mem_cons.mp h with rfl | h
        · exact .inr List.mem_cons_self
        · exact (ih h).imp_right (List.mem_cons_of_mem first)

/-- A hexadecimal digit is not a carriage return. -/
theorem ne_cr_of_mem_hexByte {b c : UInt8} (h : c ∈ hexByte b) : c ≠ 13 := by
  have hdigit {n : ℕ} (hn : n < 16) : UInt8.ofNat (if n < 10 then 48 + n else 87 + n) ≠ 13 := by
    intro heq
    have hnat := congrArg UInt8.toNat heq
    rw [UInt8.toNat_ofNat'] at hnat
    change _ = 13 at hnat
    split at hnat <;> omega
  have hb := b.toNat_lt
  rcases List.mem_cons.mp h with rfl | h
  · exact hdigit (by omega)
  · obtain rfl := List.mem_singleton.mp h
    exact hdigit (by omega)

/-- **The key of a password has no carriage return**, being hexadecimal. -/
theorem ne_cr_of_mem_password {digest : Bytes → Bytes} {tree : Ptree} {config : Config}
    (h : populate digest tree = some config) {entry : Bytes × Bytes}
    (hentry : entry ∈ config.password) {b : UInt8} (hb : b ∈ entry.1) : b ≠ 13 := by
  simp only [populate, Option.bind_eq_bind, Option.bind_eq_some_iff, Option.pure_def,
    Option.some.injEq] at h
  obtain ⟨runType, -, ports, -, rfl⟩ := h
  have hkeys (items : List (Bytes × Ptree)) (passwords : List (Bytes × Bytes))
      (hold : ∀ entry ∈ passwords, ∀ b ∈ entry.1, b ≠ 13) :
      ∀ entry ∈ items.foldl (fun passwords item =>
        mapInsert (sha224 digest item.2.data) item.2.data passwords) passwords,
        ∀ b ∈ entry.1, b ≠ 13 := by
    -- the loop assigns to the map, so the keys of what it began with stay
    induction items generalizing passwords with
    | nil => exact hold
    | cons item items ih =>
      refine ih _ (fun entry hentry b hb => ?_)
      rcases mem_mapInsert hentry with rfl | hentry
      · obtain ⟨c, -, hc⟩ := List.mem_flatMap.mp hb
        exact ne_cr_of_mem_hexByte hc
      · exact hold entry hentry b hb
  exact hkeys _ [] (fun _ hnil => absurd hnil List.not_mem_nil) entry hentry b hb

/-- Only what is under `password` is a password. -/
theorem password_of_populate {digest : Bytes → Bytes} {tree : Ptree} {config : Config}
    (h : populate digest tree = some config) (hnone : tree.getChildOptional ["password"] = none) :
    config.password = [] := by
  simp only [populate, Option.bind_eq_bind, Option.bind_eq_some_iff, Option.pure_def,
    Option.some.injEq] at h
  obtain ⟨runType, -, ports, -, rfl⟩ := h
  simp [Ptree.childrenAt, hnone]

end Config
