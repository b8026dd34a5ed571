import WebSocketSH.Client

/-! Configuration of the client: `Endpoint::configure` with the `Client` overrides of
`configure_tcp_endpoint` and `configure_tls_endpoint`, over the YAML node it reads and the
exceptions yaml-cpp throws on it. The success `configure` reports is decided by the `encoding`
key alone: it tests the pointer `std::make_shared` returns, which is never null, and not the
one the override returned, so a missing or negative port does not make it fail. A port above
65535 wraps in the `uint16_t` cast before it reaches `_host_uri`. -/
namespace WebSocketSH

/-- A `YAML::Node` as the configuration code reads it. The keys of a map are scalars. -/
inductive Yaml where
  | null
  | scalar (text : String)
  | sequence (items : List Yaml)
  | map (entries : List (String × Yaml))
deriving Inhabited

/-- The yaml-cpp exceptions that escape `configure`. -/
inductive YamlError where
  /-- `YAML::BadSubscript`: a key looked up in a scalar. -/
  | badSubscript
  /-- `YAML::TypedBadConversion`: `as<T>()` on a node that does not convert to `T`. -/
  | badConversion
  /-- `YAML::InvalidNode`: `as<T>()` on a node that does not exist. -/
  | invalidNode
deriving DecidableEq, Repr

/-- What configuration consumes from outside the repository: yaml-cpp's conversion of a scalar
to `int` (`none` where the text is no `int`), and whether the SSL context `configure_client`
prepares comes up for a hostname and a list of extra certificate authorities (the default
verify paths load, each authority is found and loads, the verify mode and callback are set). -/
structure Collaborators where
  scalarToInt : String → Option Int
  scalarToInt_range : ∀ text n, scalarToInt text = some n → -2 ^ 31 ≤ n ∧ n < 2 ^ 31
  contextReady : (hostname : String) → (extraCertificateAuthorities : List String) → Bool

/-- Collaborators for runs on fixed inputs: a scalar of digits reads as the number they spell
when that fits an `int` (other text is not checked), and every SSL context comes up. -/
def Collaborators.plain : Collaborators where
  scalarToInt text :=
    if decimalValue text.data < 2 ^ 31 then some (decimalValue text.data) else none
  scalarToInt_range text n found := by
    dsimp only at found
    split at found
    · cases found; omega
    · cases found
  contextReady _ _ := true

/-- The fields configuration writes: whether the endpoint's `_encoding` is set (to the JSON
encoding), and the client's `_use_security`, `_host_uri` and `_jwt_token`. -/
structure Settings where
  jsonEncoding : Bool
  useSecurity : Bool
  hostUri : String
  jwtToken : Option String
deriving DecidableEq, Repr, Inhabited

/-- A client as its constructor leaves it: no encoding, `_host_uri("<undefined>")` and no
token; `_use_security` is not initialised. -/
def Settings.init (useSecurity : Bool) : Settings :=
  ⟨false, useSecurity, "<undefined>", none⟩

def yamlEncodingKey : String := "encoding"
def yamlEncodingJson : String := "json"
def yamlPortKey : String := "port"
def yamlHostKey : String := "host"
def yamlSecurityKey : String := "security"
def yamlAuthKey : String := "authentication"
def yamlClientTokenKey : String := "token"
def yamlCertAuthoritiesKey : String := "cert_authorities"
def websocketTlsUriPrefix : String := "wss://"
def websocketTcpUriPrefix : String := "ws://"
def defaultHostname : String := "localhost"

namespace Yaml

/-- `operator[]` of a const node with a string key: the value of the first entry under the key
in a map; `none`, an invalid node that tests false, where a map lacks the key and on null or a
sequence, which a string does not index; `BadSubscript` on a scalar. -/
def get : Yaml → String → Except YamlError (Option Yaml)
  | .map entries, key => .ok (entries.lookup key)
  | .scalar _, _ => .error .badSubscript
  | _, _ => .ok none

/-- `as<std::string>(fallback)`: the text of a scalar, `"null"` for null, else the fallback. -/
def asStringOr (fallback : String) : Yaml → String
  | .null => "null"
  | .scalar text => text
  | _ => fallback

/-- `as<std::string>()` on a node that exists: a sequence or a map does not convert. -/
def asString : Yaml → Except YamlError String
  | .null => .ok "null"
  | .scalar text => .ok text
  | _ => .error .badConversion

/-- `as<int>()` on a node that exists: only a scalar converts, through yaml-cpp's parser. -/
def asInt (env : Collaborators) : Yaml → Except YamlError Int
  | .scalar text => match env.scalarToInt text with
    | some n => .ok n
    | none => .error .badConversion
  | _ => .error .badConversion

@[simp] theorem get_map (entries : List (String × Yaml)) (key : String) :
    (map entries).get key = .ok (entries.lookup key) := rfl

end Yaml

/-- `Endpoint::parse_port`: the port `as<int>()` converts (it is called twice, to the same
value), `-1` when the key is absent. The handler catches only `YAML::InvalidNode`, so the
`TypedBadConversion` of a port that is no `int` escapes. -/
def Endpoint.parsePort (env : Collaborators) (configuration : Yaml) : Except YamlError Int := do
  match ← configuration.get yamlPortKey with
  | some portNode => portNode.asInt env
  | none => pure (-1)

/-- `parse_hostname`. -/
def parseHostname (configuration : Yaml) : Except YamlError String := do
  match ← configuration.get yamlHostKey with
  | some hostNode => pure (hostNode.asStringOr defaultHostname)
  | none => pure defaultHostname

namespace Client

/-- `Client::_load_auth_config`. -/
def loadAuthConfig (authNode : Yaml) (settings : Settings) : Except YamlError Settings := do
  match ← authNode.get yamlClientTokenKey with
  | some tokenNode => pure { settings with jwtToken := some (← tokenNode.asString) }
  | none => pure settings

/-- The loop of `configure_tls_endpoint` over `configuration["cert_authorities"]`: the items of
a sequence as strings; no iteration over an absent node, null or a scalar; over a map each
iterator value is a key-value pair whose node part does not exist, so `as` throws. -/
def extraCertificateAuthorities (configuration : Yaml) : Except YamlError (List String) := do
  match ← configuration.get yamlCertAuthoritiesKey with
  | some (.sequence items) => items.mapM Yaml.asString
  | some (.map (_ :: _)) => throw .invalidNode
  | _ => pure []

/-- `Client::configure_client`: `_host_uri` is set first, with the scheme `_use_security`
selects, and stays set when the SSL context then fails to come up. -/
def configureClient (env : Collaborators) (hostname : String) (port : UInt16)
    (extraCertificateAuthorities : List String) (settings : Settings) : Bool × Settings :=
  let uriPrefix := if settings.useSecurity then websocketTlsUriPrefix else websocketTcpUriPrefix
  (env.contextReady hostname extraCertificateAuthorities,
    { settings with hostUri := uriPrefix ++ hostname ++ ":" ++ toString port.toNat })

/-- The body `configure_tcp_endpoint` and `configure_tls_endpoint` share; they differ in the
kind of client and in the extra certificate authorities handed to `configure_client`. The
result says whether the pointer returned is not `nullptr`. -/
def configureEndpoint (env : Collaborators) (useSecurity : Bool)
    (extraCa : Yaml → Except YamlError (List String)) (configuration : Yaml)
    (settings : Settings) : Except YamlError (Bool × Settings) := do
  let settings := { settings with useSecurity }
  let port ← Endpoint.parsePort env configuration
  if port < 0 then
    return (false, settings)
  else
    let hostname ← parseHostname configuration
    let settings ← (match ← configuration.get yamlAuthKey with
      | some authNode => loadAuthConfig authNode settings
      | none => pure settings)
    let extra ← extraCa configuration
    return configureClient env hostname (UInt16.ofNat port.toNat) extra settings

/-- `Client::configure_tcp_endpoint`. -/
def configureTcpEndpoint (env : Collaborators) (configuration : Yaml) (settings : Settings) :
    Except YamlError (Bool × Settings) :=
  configureEndpoint env false (fun _ => pure []) configuration settings

/-- `Client::configure_tls_endpoint`. -/
def configureTlsEndpoint (env : Collaborators) (configuration : Yaml) (settings : Settings) :
    Except YamlError (Bool × Settings) :=
  configureEndpoint env true extraCertificateAuthorities configuration settings

end Client

/-- The encoding check of `Endpoint::configure`: no `encoding` key, or one whose text, lowered
character by character with `::tolower`, is `json`. -/
def jsonRequested : Option Yaml → Bool
  | none => true
  | some encodeNode => (encodeNode.asStringOr "").toLower == yamlEncodingJson

/-- `configuration["security"] && configuration["security"].as<std::string>() == "none"`. -/
def securityDisabled (configuration : Yaml) : Except YamlError Bool := do
  match ← configuration.get yamlSecurityKey with
  | some securityNode => return (← securityNode.asString) == "none"
  | none => pure false

/-- `std::make_shared<T>(argument)`: a new object built from `argument`, never a null pointer
(an allocation failure throws, which the model leaves out). -/
def makeShared {α : Type} (argument : α) : Option α := some argument

/-- `Endpoint::configure` with the `Client` overrides (each sets `_use_security` again). The
success reported is `_tcp_endpoint != nullptr` (or the TLS one): a test of what `make_shared`
returned, not of the pointer the override returned. -/
def Endpoint.configure (env : Collaborators) (configuration : Yaml) (settings : Settings) :
    Except YamlError (Bool × Settings) := do
  let encodeNode ← configuration.get yamlEncodingKey
  if !jsonRequested encodeNode then
    return (false, settings)
  else
    let settings := { settings with jsonEncoding := true }
    if !settings.jsonEncoding then
      return (false, settings)
    else
      let disabled ← securityDisabled configuration
      if disabled then
        let (tcpClient, settings) ← Client.configureTcpEndpoint env configuration settings
        return ((makeShared tcpClient).isSome, settings)
      else
        let (tlsClient, settings) ← Client.configureTlsEndpoint env configuration settings
        return ((makeShared tlsClient).isSome, settings)

section Except
variable {ε α β : Type} {x : Except ε α} {f : α → Except ε β} {b : β}

@[simp] theorem except_pure (a : α) : (pure a : Except ε α) = .ok a := rfl

@[simp] theorem except_ok_bind (a : α) : (Except.ok a >>= f) = f a := rfl

/-- A pipeline of `Except` steps succeeds exactly when its first step does and the rest does
from the value that step returned. -/
theorem except_bind_eq_ok : x >>= f = .ok b ↔ ∃ a, x = .ok a ∧ f a = .ok b := by
  cases x <;> simp [bind, Except.bind]

end Except

section Configure
variable {env : Collaborators} {configuration : Yaml} {settings settings' : Settings}

/-- Loading the authentication configuration changes the token and nothing else. -/
theorem loadAuthConfig_frame {authNode : Yaml}
    (loaded : Client.loadAuthConfig authNode settings = .ok settings') :
    ∃ token, settings' = { settings with jwtToken := token } := by
  obtain ⟨tokenNode, -, loaded⟩ := except_bind_eq_ok.mp loaded
  cases tokenNode with
  | none => exact ⟨settings.jwtToken, (Except.ok.inj loaded).symm⟩
  | some tokenNode =>
    obtain ⟨token, -, loaded⟩ := except_bind_eq_ok.mp loaded
    exact ⟨some token, (Except.ok.inj loaded).symm⟩

/-- A negative port, the `-1` of a missing one among them, makes the shared body return
`nullptr` having set only `_use_security`. -/
theorem configureEndpoint_of_negative_port {useSecurity : Bool}
    {extraCa : Yaml → Except YamlError (List String)} {n : Int}
    (port : Endpoint.parsePort env configuration = .ok n) (negative : n < 0) :
    Client.configureEndpoint env useSecurity extraCa configuration settings =
      .ok (false, { settings with useSecurity }) := by
  simp [Client.configureEndpoint, port, negative]

/-- Once the port parsed to a non-negative `n`, the shared body leaves in `_host_uri` the scheme
of `useSecurity`, the hostname, and `n` reduced modulo 2^16 by the `uint16_t` cast. -/
theorem configureEndpoint_hostUri {useSecurity created : Bool}
    {extraCa : Yaml → Except YamlError (List String)} {n : Int}
    (configured : Client.configureEndpoint env useSecurity extraCa configuration settings =
      .ok (created, settings'))
    (port : Endpoint.parsePort env configuration = .ok n) (nonneg : 0 ≤ n) :
    settings'.useSecurity = useSecurity ∧ ∃ hostname, parseHostname configuration = .ok hostname ∧
      settings'.hostUri = (if useSecurity then websocketTlsUriPrefix else websocketTcpUriPrefix) ++
        hostname ++ ":" ++ toString (n.toNat % 2 ^ 16) := by
  simp only [Client.configureEndpoint, port, except_ok_bind, if_neg (not_lt.mpr nonneg)]
    at configured
  obtain ⟨hostname, named, configured⟩ := except_bind_eq_ok.mp configured
  obtain ⟨authNode, -, configured⟩ := except_bind_eq_ok.mp configured
  obtain ⟨authed, authorized, configured⟩ := except_bind_eq_ok.mp configured
  obtain ⟨extra, -, configured⟩ := except_bind_eq_ok.mp configured
  obtain ⟨token, rfl⟩ :
      ∃ token, authed = { settings with useSecurity := useSecurity, jwtToken := token } := by
    cases authNode with
    | none => exact ⟨settings.jwtToken, (Except.ok.inj authorized).symm⟩
    | some authNode => exact loadAuthConfig_frame authorized
  simp only [except_pure, Except.ok.injEq, Client.configureClient, Prod.mk.injEq] at configured
  obtain ⟨-, rfl⟩ := configured
  exact ⟨rfl, hostname, named, by simp [UInt16.toNat, UInt16.ofNat]⟩

/-- What a `configure` that returns has done: refused the encoding and changed nothing, or
accepted it and run the body of one of the overrides, reporting success whatever that body
returned. -/
theorem configure_cases {ok : Bool}
    (configured : Endpoint.configure env configuration settings = .ok (ok, settings')) :
    ∃ encodeNode, configuration.get yamlEncodingKey = .ok encodeNode ∧
      (jsonRequested encodeNode = false ∧ ok = false ∧ settings' = settings ∨
        jsonRequested encodeNode = true ∧ ok = true ∧
          ∃ useSecurity extraCa created, Client.configureEndpoint env useSecurity extraCa
            configuration { settings with jsonEncoding := true } = .ok (created, settings')) := by
  obtain ⟨encodeNode, found, configured⟩ := except_bind_eq_ok.mp configured
  refine ⟨encodeNode, found, ?_⟩
  cases requested : jsonRequested encodeNode
  · simp only [requested, Bool.not_false, if_true, except_pure, Except.ok.injEq,
      Prod.mk.injEq] at configured
    exact .inl ⟨rfl, configured.1.symm, configured.2.symm⟩
  · simp only [requested, Bool.not_true, Bool.false_eq_true, if_false] at configured
    obtain ⟨disabled, -, configured⟩ := except_bind_eq_ok.mp configured
    refine .inr ⟨rfl, ?_⟩
    cases disabled <;>
    · obtain ⟨⟨created, result⟩, endpoint, configured⟩ := except_bind_eq_ok.mp configured
      simp only [makeShared, Option.isSome_some, except_pure, Except.ok.injEq,
        Prod.mk.injEq] at configured
      obtain ⟨rfl, rfl⟩ := configured
      exact ⟨rfl, _, _, created, endpoint⟩

/-- `configure` reports success exactly when the encoding check passes, whatever the port, the
host and the SSL context make of the rest; a refused encoding leaves every field as it was. -/
theorem configure_reports_encoding {ok : Bool}
    (configured : Endpoint.configure env configuration settings = .ok (ok, settings')) :
    ∃ encodeNode, configuration.get yamlEncodingKey = .ok encodeNode ∧
      ok = jsonRequested encodeNode ∧ (ok = false → settings' = settings) := by
  obtain ⟨encodeNode, found, ⟨refused, rfl, unchanged⟩ | ⟨accepted, rfl, -⟩⟩ :=
    configure_cases configured
  · exact ⟨encodeNode, found, refused.symm, fun _ => unchanged⟩
  · exact ⟨encodeNode, found, accepted.symm, nofun⟩

/-- A TLS configuration with a port and a host and no `encoding` key reports success. -/
theorem configure_reports_encoding_over_tls :
    ∃ settings', Endpoint.configure .plain
        (.map [("port", .scalar "8080"), ("host", .scalar "example.org")]) (Settings.init false) =
          .ok (true, settings') ∧
      ∃ encodeNode, Yaml.get (.map [("port", .scalar "8080"), ("host", .scalar "example.org")])
          yamlEncodingKey = .ok encodeNode ∧ true = jsonRequested encodeNode ∧
        (true = false → settings' = Settings.init false) :=
  ⟨_, rfl, configure_reports_encoding (rfl : Endpoint.configure .plain
    (.map [("port", .scalar "8080"), ("host", .scalar "example.org")]) (Settings.init false) =
      .ok (true, _))⟩

/-- Whenever `configure` reports success and the port parsed to a non-negative `n`, the client
dials the scheme `_use_security` selects, the hostname, and `n` reduced modulo 2^16. -/
theorem configure_hostUri {n : Int}
    (configured : Endpoint.configure env configuration settings = .ok (true, settings'))
    (port : Endpoint.parsePort env configuration = .ok n) (nonneg : 0 ≤ n) :
    ∃ hostname, parseHostname configuration = .ok hostname ∧
      settings'.hostUri = (if settings'.useSecurity then websocketTlsUriPrefix
        else websocketTcpUriPrefix) ++ hostname ++ ":" ++ toString (n.toNat % 2 ^ 16) := by
  obtain ⟨-, -, ⟨-, never, -⟩ | ⟨-, -, useSecurity, extraCa, created, endpoint⟩⟩ :=
    configure_cases configured
  · cases never
  · obtain ⟨same, dialed⟩ := configureEndpoint_hostUri endpoint port nonneg
    rwa [same]

/-- The port 70000 reaches `_host_uri` as 4464. -/
theorem configure_hostUri_of_wide_port :
    ∃ settings', Endpoint.configure .plain
        (.map [("port", .scalar "70000"), ("security", .scalar "none")]) (Settings.init true) =
          .ok (true, settings') ∧ settings'.hostUri = "ws://localhost:4464" ∧
      ∃ hostname, parseHostname (.map [("port", .scalar "70000"), ("security", .scalar "none")]) =
          .ok hostname ∧ settings'.hostUri = (if settings'.useSecurity then websocketTlsUriPrefix
            else websocketTcpUriPrefix) ++ hostname ++ ":" ++ toString ((70000 : Int).toNat % 2 ^ 16) :=
  ⟨_, rfl, rfl, configure_hostUri (rfl : Endpoint.configure .plain
      (.map [("port", .scalar "70000"), ("security", .scalar "none")]) (Settings.init true) =
        .ok (true, _))
    (rfl : Endpoint.parsePort .plain
      (.map [("port", .scalar "70000"), ("security", .scalar "none")]) = .ok 70000)
    (by decide)⟩

/-- With the encoding accepted and the port missing or negative, `configure` reports success
and leaves `_host_uri` as it was. -/
theorem configure_of_negative_port {encodeNode : Option Yaml} {disabled : Bool} {n : Int}
    (found : configuration.get yamlEncodingKey = .ok encodeNode)
    (accepted : jsonRequested encodeNode = true)
    (security : securityDisabled configuration = .ok disabled)
    (port : Endpoint.parsePort env configuration = .ok n) (negative : n < 0) :
    Endpoint.configure env configuration settings =
      .ok (true, { settings with jsonEncoding := true, useSecurity := !disabled }) := by
  cases disabled <;>
    simp [Endpoint.configure, found, accepted, security, Client.configureTcpEndpoint,
      Client.configureTlsEndpoint, configureEndpoint_of_negative_port port negative, makeShared]

theorem configure_succeeds_without_port (env : Collaborators) (useSecurity : Bool) :
    Endpoint.configure env (.map [("security", .scalar "none")]) (Settings.init useSecurity) =
      .ok (true, ⟨true, false, "<undefined>", none⟩) := by
  have found : Yaml.get (.map [("security", .scalar "none")]) yamlEncodingKey = .ok none := rfl
  have security : securityDisabled (.map [("security", .scalar "none")]) = .ok true := rfl
  have port : Endpoint.parsePort env (.map [("security", .scalar "none")]) = .ok (-1) := rfl
  exact configure_of_negative_port found rfl security port (by decide)

end Configure

end WebSocketSH
