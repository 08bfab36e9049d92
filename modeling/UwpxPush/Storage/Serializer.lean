import UwpxPush.Storage.Configuration
import UwpxPush.Tcp.Grammar

/-!
# The serializer

The records of `storage::Configuration` with all their fields, and their conversions to and
from JSON.  A document that is converted is converted back to one with the same strings, and
with the same ports where these are integers of 16 bits.
-/

namespace UwpxPush

namespace Storage

/-- The XMPP account and its server. -/
structure XmppConfiguration extends UwpxPush.XmppConfiguration where
  password : String
  port : UInt16
  host : String
  deriving DecidableEq

/-- The files of the TLS key and of its certificate. -/
structure TlsConfiguration where
  serverKeyPath : String
  serverCertPath : String
  deriving DecidableEq

/-- The port that the server listens on. -/
structure TcpConfiguration where
  port : UInt16
  tls : TlsConfiguration
  deriving DecidableEq

/-- The Redis server. -/
structure DbConfiguration where
  url : String
  deriving DecidableEq

/-- The configuration file. -/
structure Configuration where
  wns : WnsConfiguration
  xmpp : XmppConfiguration
  tcp : TcpConfiguration
  db : DbConfiguration
  deriving DecidableEq

/-! ### Conversions -/

/-- The conversion to `uint16_t`, which casts every number and boolean. -/
def toPort : Json → Except String UInt16
  | .integer i => .ok (UInt16.ofInt i)
  | .float m e => .ok (UInt16.ofInt (Json.castFloat m e))
  | .boolean b => .ok (if b then 1 else 0)
  | j => .error ("type must be number, but is " ++ j.typeName)

/-- `j.at(key)`. -/
def atKey (key : String) : Json → Except String Json
  | j@(.object _) =>
      if j.contains key then .ok (j.field key)
      else .error ("key '" ++ key ++ "' not found")
  | j => .error ("cannot use at() with " ++ j.typeName)

/-- `j.at(key).get_to(..)` with the conversion of a type. -/
def getTo {α : Type} (convert : Json → Except String α) (j : Json) (key : String) :
    Except String α := do
  convert (← atKey key j)

end Storage

open Storage

namespace WnsConfiguration

def toJson (c : WnsConfiguration) : Json :=
  (Json.null.set "packetId" (.string c.packetId)).set "clientSecret" (.string c.clientSecret)

def fromJson (j : Json) : Except String WnsConfiguration := do
  let packetId ← getTo Json.toStr j "packetId"
  let clientSecret ← getTo Json.toStr j "clientSecret"
  return { packetId, clientSecret }

end WnsConfiguration

namespace Storage

namespace XmppConfiguration

def toJson (c : XmppConfiguration) : Json :=
  (((Json.null.set "bareJid" (.string c.bareJid)).set "password" (.string c.password)).set
    "port" (.integer c.port.toNat)).set "host" (.string c.host)

def fromJson (j : Json) : Except String XmppConfiguration := do
  let bareJid ← getTo Json.toStr j "bareJid"
  let password ← getTo Json.toStr j "password"
  let port ← getTo toPort j "port"
  let host ← getTo Json.toStr j "host"
  return { bareJid, password, port, host }

end XmppConfiguration

namespace TlsConfiguration

def toJson (c : TlsConfiguration) : Json :=
  (Json.null.set "serverCertPath" (.string c.serverCertPath)).set
    "serverKeyPath" (.string c.serverKeyPath)

def fromJson (j : Json) : Except String TlsConfiguration := do
  let serverCertPath ← getTo Json.toStr j "serverCertPath"
  let serverKeyPath ← getTo Json.toStr j "serverKeyPath"
  return { serverKeyPath, serverCertPath }

end TlsConfiguration

namespace TcpConfiguration

def toJson (c : TcpConfiguration) : Json :=
  (Json.null.set "port" (.integer c.port.toNat)).set "tls" c.tls.toJson

def fromJson (j : Json) : Except String TcpConfiguration := do
  let port ← getTo toPort j "port"
  let tls ← getTo TlsConfiguration.fromJson j "tls"
  return { port, tls }

end TcpConfiguration

namespace DbConfiguration

def toJson (c : DbConfiguration) : Json :=
  Json.null.set "url" (.string c.url)

def fromJson (j : Json) : Except String DbConfiguration := do
  let url ← getTo Json.toStr j "url"
  return { url }

end DbConfiguration

namespace Configuration

def toJson (c : Configuration) : Json :=
  (((Json.null.set "wns" c.wns.toJson).set "xmpp" c.xmpp.toJson).set "tcp" c.tcp.toJson).set
    "db" c.db.toJson

def fromJson (j : Json) : Except String Configuration := do
  let wns ← getTo WnsConfiguration.fromJson j "wns"
  let xmpp ← getTo XmppConfiguration.fromJson j "xmpp"
  let tcp ← getTo TcpConfiguration.fromJson j "tcp"
  let db ← getTo DbConfiguration.fromJson j "db"
  return { wns, xmpp, tcp, db }

end Configuration

/-! ### What is accepted -/

variable {j : Json} {key : String}

/-- `at` finds the keys that an object has. -/
theorem atKey_eq_ok_iff {v : Json} :
  atKey key j = .ok v ↔ j.contains key = true ∧ j.field key = v
  := by
  cases j with
  | object fields =>
      rw [atKey]
      split
      · next h => simp [h]
      · next h => simp [h]
  | _ => exact ⟨nofun, fun h => by cases h.1⟩

/-- A conversion that refuses `null` needs no look at whether the key is there. -/
theorem getTo_eq_ok_iff {α : Type} {convert : Json → Except String α} {a : α}
    (hnull : convert .null ≠ .ok a) :
  getTo convert j key = .ok a ↔ convert (j.field key) = .ok a
  := by
  rw [getTo, Except.bind_eq_ok_iff]
  constructor
  · rintro ⟨v, hv, h⟩
    obtain ⟨-, rfl⟩ := atKey_eq_ok_iff.mp hv
    exact h
  · intro h
    refine ⟨j.field key, atKey_eq_ok_iff.mpr ⟨?_, rfl⟩, h⟩
    apply contains_of_field rfl
    intro hfield
    exact hnull (hfield ▸ h)

theorem toStr_eq_ok_iff {v : Json} {s : String} :
  v.toStr = .ok s ↔ v = .string s
  := by
  cases v with
  | string t => simp [Json.toStr]
  | _ =>
      constructor
      · rintro ⟨⟩
      · rintro ⟨⟩

/-- A string is read where the field holds it. -/
theorem getTo_toStr_eq_ok_iff {s : String} :
  getTo Json.toStr j key = .ok s ↔ j.field key = .string s
  := by
  have hnull : Json.toStr .null ≠ .ok s := nofun
  rw [getTo_eq_ok_iff hnull, toStr_eq_ok_iff]

/-- A port is read where the field converts to it. -/
theorem getTo_toPort_eq_ok_iff {port : UInt16} :
  getTo toPort j key = .ok port ↔ toPort (j.field key) = .ok port
  := getTo_eq_ok_iff nofun

end Storage

open Storage

variable {j : Json}

theorem WnsConfiguration.fromJson_eq_ok_iff {c : WnsConfiguration} :
  fromJson j = .ok c
    ↔ j.field "packetId" = .string c.packetId ∧ j.field "clientSecret" = .string c.clientSecret
  := by
  simp only [fromJson, Except.bind_eq_ok_iff, getTo_toStr_eq_ok_iff]
  constructor
  · rintro ⟨packetId, hpacketId, clientSecret, hclientSecret, ⟨⟩⟩
    exact ⟨hpacketId, hclientSecret⟩
  · rintro ⟨hpacketId, hclientSecret⟩
    exact ⟨_, hpacketId, _, hclientSecret, rfl⟩

namespace Storage

theorem XmppConfiguration.fromJson_eq_ok_iff {c : XmppConfiguration} :
  fromJson j = .ok c
    ↔ j.field "bareJid" = .string c.bareJid ∧ j.field "password" = .string c.password
      ∧ toPort (j.field "port") = .ok c.port ∧ j.field "host" = .string c.host
  := by
  simp only [fromJson, Except.bind_eq_ok_iff, getTo_toStr_eq_ok_iff, getTo_toPort_eq_ok_iff]
  constructor
  · rintro ⟨bareJid, hbareJid, password, hpassword, port, hport, host, hhost, ⟨⟩⟩
    exact ⟨hbareJid, hpassword, hport, hhost⟩
  · rintro ⟨hbareJid, hpassword, hport, hhost⟩
    exact ⟨_, hbareJid, _, hpassword, _, hport, _, hhost, rfl⟩

theorem TlsConfiguration.fromJson_eq_ok_iff {c : TlsConfiguration} :
  fromJson j = .ok c
    ↔ j.field "serverCertPath" = .string c.serverCertPath
      ∧ j.field "serverKeyPath" = .string c.serverKeyPath
  := by
  simp only [fromJson, Except.bind_eq_ok_iff, getTo_toStr_eq_ok_iff]
  constructor
  · rintro ⟨serverCertPath, hcert, serverKeyPath, hkey, ⟨⟩⟩
    exact ⟨hcert, hkey⟩
  · rintro ⟨hcert, hkey⟩
    exact ⟨_, hcert, _, hkey, rfl⟩

theorem TcpConfiguration.fromJson_eq_ok_iff {c : TcpConfiguration} :
  fromJson j = .ok c
    ↔ toPort (j.field "port") = .ok c.port ∧ TlsConfiguration.fromJson (j.field "tls") = .ok c.tls
  := by
  have htls : ∀ tls, getTo TlsConfiguration.fromJson j "tls" = .ok tls
      ↔ TlsConfiguration.fromJson (j.field "tls") = .ok tls := fun tls => getTo_eq_ok_iff nofun
  simp only [fromJson, Except.bind_eq_ok_iff, getTo_toPort_eq_ok_iff, htls]
  constructor
  · rintro ⟨port, hport, tls, htls, ⟨⟩⟩
    exact ⟨hport, htls⟩
  · rintro ⟨hport, htls⟩
    exact ⟨_, hport, _, htls, rfl⟩

theorem DbConfiguration.fromJson_eq_ok_iff {c : DbConfiguration} :
  fromJson j = .ok c ↔ j.field "url" = .string c.url
  := by
  simp only [fromJson, Except.bind_eq_ok_iff, getTo_toStr_eq_ok_iff]
  constructor
  · rintro ⟨url, hurl, ⟨⟩⟩
    exact hurl
  · intro hurl
    exact ⟨_, hurl, rfl⟩

/-- A configuration is read where each of its parts is. -/
theorem Configuration.fromJson_eq_ok_iff {c : Configuration} :
  fromJson j = .ok c
    ↔ WnsConfiguration.fromJson (j.field "wns") = .ok c.wns
      ∧ XmppConfiguration.fromJson (j.field "xmpp") = .ok c.xmpp
      ∧ TcpConfiguration.fromJson (j.field "tcp") = .ok c.tcp
      ∧ DbConfiguration.fromJson (j.field "db") = .ok c.db
  := by
  have hwns : ∀ c, getTo WnsConfiguration.fromJson j "wns" = .ok c
      ↔ WnsConfiguration.fromJson (j.field "wns") = .ok c := fun c => getTo_eq_ok_iff nofun
  have hxmpp : ∀ c, getTo XmppConfiguration.fromJson j "xmpp" = .ok c
      ↔ XmppConfiguration.fromJson (j.field "xmpp") = .ok c := fun c => getTo_eq_ok_iff nofun
  have htcp : ∀ c, getTo TcpConfiguration.fromJson j "tcp" = .ok c
      ↔ TcpConfiguration.fromJson (j.field "tcp") = .ok c := fun c => getTo_eq_ok_iff nofun
  have hdb : ∀ c, getTo DbConfiguration.fromJson j "db" = .ok c
      ↔ DbConfiguration.fromJson (j.field "db") = .ok c := fun c => getTo_eq_ok_iff nofun
  simp only [fromJson, Except.bind_eq_ok_iff, hwns, hxmpp, htcp, hdb]
  constructor
  · rintro ⟨wns, hwns, xmpp, hxmpp, tcp, htcp, db, hdb, ⟨⟩⟩
    exact ⟨hwns, hxmpp, htcp, hdb⟩
  · rintro ⟨hwns, hxmpp, htcp, hdb⟩
    exact ⟨_, hwns, _, hxmpp, _, htcp, _, hdb, rfl⟩

/-! ### Round trips -/

/-- A cast keeps the lower 16 bits. -/
theorem toNat_ofInt (i : Int) :
  (UInt16.ofInt i).toNat = (i % 2 ^ 16).toNat
  := by
  have hlt : (i % 2 ^ 16).toNat < 2 ^ 16 := by omega
  rw [UInt16.ofInt, UInt16.toNat_ofNat', Nat.mod_eq_of_lt hlt]

theorem ofInt_toNat (port : UInt16) :
  UInt16.ofInt port.toNat = port
  := by
  have hlt := port.toNat_lt
  apply UInt16.toNat_inj.mp
  rw [toNat_ofInt]
  omega

/-- The account is read back as it was written. -/
theorem XmppConfiguration.fromJson_toJson (c : XmppConfiguration) :
  fromJson c.toJson = .ok c
  := by
  simp [fromJson_eq_ok_iff, toJson, Json.field_set, toPort, ofInt_toNat]

theorem TlsConfiguration.fromJson_toJson (c : TlsConfiguration) :
  fromJson c.toJson = .ok c
  := by
  simp [fromJson_eq_ok_iff, toJson, Json.field_set]

/-- The port and the TLS files are read back as they were written. -/
theorem TcpConfiguration.fromJson_toJson (c : TcpConfiguration) :
  fromJson c.toJson = .ok c
  := by
  simp [fromJson_eq_ok_iff, toJson, Json.field_set, toPort, ofInt_toNat,
    TlsConfiguration.fromJson_toJson]

theorem DbConfiguration.fromJson_toJson (c : DbConfiguration) :
  fromJson c.toJson = .ok c
  := by
  simp [fromJson_eq_ok_iff, toJson, Json.field_set]

end Storage

theorem WnsConfiguration.fromJson_toJson (c : WnsConfiguration) :
  fromJson c.toJson = .ok c
  := by
  simp [fromJson_eq_ok_iff, toJson, Json.field_set]

namespace Storage

/-- A configuration is read back from its document. -/
theorem Configuration.fromJson_toJson (c : Configuration) :
  fromJson c.toJson = .ok c
  := by
  simp [fromJson_eq_ok_iff, toJson, Json.field_set, WnsConfiguration.fromJson_toJson,
    XmppConfiguration.fromJson_toJson, TcpConfiguration.fromJson_toJson,
    DbConfiguration.fromJson_toJson]

/-! ### Agreement of documents -/

/-- The value at the end of a path of keys. -/
def follow (j : Json) (path : List String) : Json :=
  path.foldl (fun j key => j.field key) j

/-- The paths of the strings of a configuration. -/
def stringPaths : List (List String) :=
  [["wns", "packetId"], ["wns", "clientSecret"], ["xmpp", "bareJid"], ["xmpp", "password"],
    ["xmpp", "host"], ["tcp", "tls", "serverCertPath"], ["tcp", "tls", "serverKeyPath"],
    ["db", "url"]]

/-- The paths of the ports of a configuration. -/
def portPaths : List (List String) :=
  [["xmpp", "port"], ["tcp", "port"]]

/-- The documents have the same strings, and the ports of the second are the numbers that are
written in the first. -/
def Agree (j j' : Json) : Prop :=
  (∀ path ∈ stringPaths, (follow j path).IsStr ∧ follow j' path = follow j path)
    ∧ ∀ path ∈ portPaths, ∃ i, follow j' path = .integer i ∧ (follow j path).IsNumber i

/-- The value is cast to a port. -/
def IsArithmetic : Json → Prop
  | .boolean _ => True
  | .integer _ => True
  | .float _ _ => True
  | _ => False

/-- The document has a string or a value that is cast to a port wherever one is read. -/
def IsConfiguration (j : Json) : Prop :=
  (∀ path ∈ stringPaths, (follow j path).IsStr) ∧ ∀ path ∈ portPaths, IsArithmetic (follow j path)

/-- The ports are integers of 16 bits. -/
def HasPorts (j : Json) : Prop :=
  ∀ path ∈ portPaths, ∃ n : Nat, n < 2 ^ 16 ∧ (follow j path).IsNumber n

/-! ### Ports -/

/-- A number that is an integer of 16 bits is cast to itself. -/
theorem toPort_of_isNumber {v : Json} {n : Nat} (h : v.IsNumber n) (hn : n < 2 ^ 16) :
  ∃ port : UInt16, toPort v = .ok port ∧ port.toNat = n
  := by
  cases v with
  | integer i =>
      obtain rfl : i = n := h
      refine ⟨_, rfl, ?_⟩
      rw [toNat_ofInt]
      omega
  | float m e =>
      refine ⟨_, rfl, ?_⟩
      rw [toNat_ofInt, Json.castFloat, Json.truncate_of_isNumber h, if_pos (by omega)]
      omega
  | _ => exact h.elim

/-- A port is the number that is written if and only if that is an integer of 16 bits. -/
theorem isNumber_port_iff {v : Json} {port : UInt16} (h : toPort v = .ok port) :
  v.IsNumber port.toNat ↔ ∃ n : Nat, n < 2 ^ 16 ∧ v.IsNumber n
  := by
  constructor
  · intro hnumber
    exact ⟨port.toNat, port.toNat_lt, hnumber⟩
  · rintro ⟨n, hn, hnumber⟩
    obtain ⟨port', hport, rfl⟩ := toPort_of_isNumber hnumber hn
    cases h.symm.trans hport
    exact hnumber

/-- Numbers and booleans convert to a port, and nothing else does. -/
theorem toPort_cases (v : Json) :
  (∃ port, toPort v = .ok port) ↔ IsArithmetic v
  := by
  cases v with
  | boolean b => exact ⟨fun _ => trivial, fun _ => ⟨_, rfl⟩⟩
  | integer i => exact ⟨fun _ => trivial, fun _ => ⟨_, rfl⟩⟩
  | float m e => exact ⟨fun _ => trivial, fun _ => ⟨_, rfl⟩⟩
  | _ => exact ⟨nofun, False.elim⟩

/-! ### Documents -/

/-- What is read from a document, path by path. -/
theorem Configuration.fromJson_eq_ok_iff_follow {c : Configuration} :
  fromJson j = .ok c
    ↔ (follow j ["wns", "packetId"] = .string c.wns.packetId
        ∧ follow j ["wns", "clientSecret"] = .string c.wns.clientSecret)
      ∧ (follow j ["xmpp", "bareJid"] = .string c.xmpp.bareJid
        ∧ follow j ["xmpp", "password"] = .string c.xmpp.password
        ∧ toPort (follow j ["xmpp", "port"]) = .ok c.xmpp.port
        ∧ follow j ["xmpp", "host"] = .string c.xmpp.host)
      ∧ (toPort (follow j ["tcp", "port"]) = .ok c.tcp.port
        ∧ follow j ["tcp", "tls", "serverCertPath"] = .string c.tcp.tls.serverCertPath
        ∧ follow j ["tcp", "tls", "serverKeyPath"] = .string c.tcp.tls.serverKeyPath)
      ∧ follow j ["db", "url"] = .string c.db.url
  := by
  rw [fromJson_eq_ok_iff, WnsConfiguration.fromJson_eq_ok_iff,
    XmppConfiguration.fromJson_eq_ok_iff, TcpConfiguration.fromJson_eq_ok_iff,
    TlsConfiguration.fromJson_eq_ok_iff, DbConfiguration.fromJson_eq_ok_iff]
  exact Iff.rfl

/-- A document is read if and only if it is a configuration. -/
theorem Configuration.exists_fromJson_iff :
  (∃ c, Configuration.fromJson j = .ok c) ↔ IsConfiguration j
  := by
  simp only [Configuration.fromJson_eq_ok_iff_follow, IsConfiguration, stringPaths, portPaths,
    List.forall_mem_cons, ← toPort_cases, Json.IsStr]
  constructor
  · rintro ⟨c, ⟨hpacketId, hclientSecret⟩, ⟨hbareJid, hpassword, hport, hhost⟩,
      ⟨hport', hcert, hkey⟩, hurl⟩
    exact ⟨⟨⟨_, hpacketId⟩, ⟨_, hclientSecret⟩, ⟨_, hbareJid⟩, ⟨_, hpassword⟩, ⟨_, hhost⟩,
      ⟨_, hcert⟩, ⟨_, hkey⟩, ⟨_, hurl⟩, nofun⟩, ⟨_, hport⟩, ⟨_, hport'⟩, nofun⟩
  · rintro ⟨⟨⟨packetId, hpacketId⟩, ⟨clientSecret, hclientSecret⟩, ⟨bareJid, hbareJid⟩,
      ⟨password, hpassword⟩, ⟨host, hhost⟩, ⟨serverCertPath, hcert⟩, ⟨serverKeyPath, hkey⟩,
      ⟨url, hurl⟩, -⟩, ⟨port, hport⟩, ⟨port', hport'⟩, -⟩
    exact ⟨⟨⟨packetId, clientSecret⟩, ⟨⟨bareJid⟩, password, port, host⟩,
      ⟨port', ⟨serverKeyPath, serverCertPath⟩⟩, ⟨url⟩⟩, ⟨hpacketId, hclientSecret⟩,
      ⟨hbareJid, hpassword, hport, hhost⟩, ⟨hport', hcert, hkey⟩, hurl⟩

/-- Where the port of the XMPP server stands in the file. -/
theorem Configuration.follow_xmpp_port (c : Configuration) :
  follow c.toJson ["xmpp", "port"] = .integer c.xmpp.port.toNat
  := by
  simp [follow, toJson, XmppConfiguration.toJson, Json.field_set]

/-- A document agrees with the one of the configuration that is read from it if and only if
its ports are integers of 16 bits. -/
theorem Configuration.agree_iff {c : Configuration} (h : fromJson j = .ok c) :
  Agree j c.toJson ↔ HasPorts j
  := by
  obtain ⟨⟨hpacketId, hclientSecret⟩, ⟨hbareJid, hpassword, hport, hhost⟩, ⟨hport', hcert, hkey⟩,
    hurl⟩ := fromJson_eq_ok_iff_follow.mp h
  obtain ⟨⟨hpacketId', hclientSecret'⟩, ⟨hbareJid', hpassword', -, hhost'⟩, ⟨-, hcert', hkey'⟩,
    hurl'⟩ := fromJson_eq_ok_iff_follow.mp (fromJson_toJson c)
  have hxmpp := follow_xmpp_port c
  have htcp : follow c.toJson ["tcp", "port"] = .integer c.tcp.port.toNat := by
    simp [follow, toJson, TcpConfiguration.toJson, Json.field_set]
  have hports : (∀ path ∈ portPaths, ∃ i, follow c.toJson path = .integer i
      ∧ (follow j path).IsNumber i) ↔ HasPorts j := by
    simp only [portPaths, HasPorts, List.forall_mem_cons, hxmpp, htcp, Json.integer.injEq,
      exists_eq_left', isNumber_port_iff hport, isNumber_port_iff hport', List.not_mem_nil,
      false_implies, implies_true]
  rw [Agree, hports]
  apply and_iff_right
  have hstring : ∀ {v v' : Json} {s : String}, v = .string s → v' = .string s →
      v.IsStr ∧ v' = v := by
    rintro v v' s rfl rfl
    exact ⟨⟨s, rfl⟩, rfl⟩
  simp only [stringPaths, List.forall_mem_cons]
  exact ⟨hstring hpacketId hpacketId', hstring hclientSecret hclientSecret',
    hstring hbareJid hbareJid', hstring hpassword hpassword', hstring hhost hhost',
    hstring hcert hcert', hstring hkey hkey', hstring hurl hurl', nofun⟩

end Storage

open Storage

/-- A configuration is read back from its document; and a document agrees with the one of the
configuration that is read from it if and only if the ports of a document that is read are
integers of 16 bits. -/
theorem configuration_agrees_iff (c₀ : Storage.Configuration) (j : Json) :
  Configuration.fromJson c₀.toJson = .ok c₀
    ∧ ((∀ c, Configuration.fromJson j = .ok c → Agree j c.toJson)
      ↔ (IsConfiguration j → HasPorts j))
  := by
  use Configuration.fromJson_toJson c₀
  constructor
  · intro h hread
    obtain ⟨c, hc⟩ := Configuration.exists_fromJson_iff.mpr hread
    exact (Configuration.agree_iff hc).mp (h c hc)
  · intro h c hc
    exact (Configuration.agree_iff hc).mpr (h (Configuration.exists_fromJson_iff.mp ⟨c, hc⟩))

/-- A configuration whose XMPP port is `2 ^ 16 + 5222`. -/
def Sample.configuration : Json :=
  .object [("db", .object [("url", .string "tcp://127.0.0.1")]),
    ("tcp", .object [("port", .integer 1997),
      ("tls", .object [("serverCertPath", .string "domain.cert"),
        ("serverKeyPath", .string "domain.key")])]),
    ("wns", .object [("clientSecret", .string "secret"), ("packetId", .string "packet")]),
    ("xmpp", .object [("bareJid", .string "push@example.org"), ("host", .string "example.org"),
      ("password", .string "password"), ("port", .integer 70758)])]

/-- The port is read as another one. -/
theorem not_configuration_agrees :
  let c : Storage.Configuration :=
    ⟨⟨"packet", "secret"⟩, ⟨⟨"push@example.org"⟩, "password", 5222, "example.org"⟩,
      ⟨1997, ⟨"domain.key", "domain.cert"⟩⟩, ⟨"tcp://127.0.0.1"⟩⟩
  Configuration.fromJson Sample.configuration = .ok c
    ∧ ¬∀ c, Configuration.fromJson Sample.configuration = .ok c →
      Agree Sample.configuration c.toJson
  := by
  intro c
  have hread : Configuration.fromJson Sample.configuration = .ok c := rfl
  use hread
  intro h
  obtain ⟨i, hi, hnumber⟩ := (h c hread).2 ["xmpp", "port"] List.mem_cons_self
  have heq : i = 70758 := hnumber.symm
  have heq' : 5222 = i := Json.integer.inj ((Configuration.follow_xmpp_port c).symm.trans hi)
  omega

end UwpxPush
