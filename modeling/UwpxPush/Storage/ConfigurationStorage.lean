import UwpxPush.Storage.Serializer

/-!
# The configuration file

`ConfigurationStorage` reads the configuration from a file, or writes the default one where
there is no file.  The disk may refuse to open a file for writing, and it may take only the
beginning of what is written.  The beginning of the default configuration is no document, and
what is no document is read as the default configuration; so whatever the disk has taken, the
file that was written is read as if it were still missing (`Unspoilt.construct`).
-/

namespace UwpxPush

namespace Storage

/-! ### The default configuration -/

def Configuration.defaults : Configuration where
  wns :=
    { packetId := "The UWP package ID starting with: 'ms-app://...'"
      clientSecret := "The secret obtained from the Devcenter." }
  xmpp :=
    { bareJid := "The bare JID of the push XMPP client (e.g. 'pushServer@xmpp.example.com')."
      password := "The password for the push XMPP client."
      port := 5222
      host := "The hostname of the XMPP server." }
  tcp :=
    { port := 1997
      tls :=
        { serverKeyPath := "Path to your 'domain.key' file."
          serverCertPath := "Path to your 'domain.cert' file." } }
  db := { url := "" }

/-! ### Files -/

/-- What a path leads to. -/
inductive Entry where
  | text (s : String)
  /-- It cannot be opened, or is a directory. -/
  | unreadable
  /-- `std::filesystem::exists` throws, as it does where the path cannot be followed. -/
  | hidden (what : String)
  deriving DecidableEq

/-- What the files are, by their names. -/
abbrev Files : Type :=
  String → Option Entry

/-- What the disk does with what is written to a file. -/
inductive Disk where
  /-- The file is not opened. -/
  | refuses
  /-- So many characters of it are written at most. -/
  | takes (n : ℕ)
  deriving DecidableEq

/-- An exception that leaves `operator>>`. -/
inductive ReadError where
  | parseError
  /-- An exception of another type, as for a number that overflows. -/
  | other (what : String)
  deriving DecidableEq

/-- The paths of the file system and the streams of the JSON library. -/
structure Streams where
  /-- The name of the file that a path leads to. -/
  resolve : String → String
  /-- `operator>>`, which leaves what follows the first value. -/
  read : String → Except ReadError Json
  /-- `operator<<` with the width 1. -/
  write : Json → String

/-- The default configuration is read back, and its beginnings are no documents. -/
structure Streams.ReadsDefaults (streams : Streams) : Prop where
  whole : streams.read (streams.write Configuration.defaults.toJson)
    = .ok Configuration.defaults.toJson
  torn : ∀ n < (streams.write Configuration.defaults.toJson).toList.length,
    streams.read (String.ofList ((streams.write Configuration.defaults.toJson).toList.take n))
      = .error .parseError

/-! ### The serializer -/

namespace Serializer

/-- The document that is read, or none where `read_in` returns `false`. -/
def readIn (streams : Streams) : Entry → Except String (Option Json)
  | .text s =>
      match streams.read s with
      | .ok j => .ok (some j)
      | .error .parseError => .ok none
      | .error (.other what) => .error what
  | _ => .ok none

def writeOut (streams : Streams) (jsInt : Json) (file : String) (disk : Disk) (files : Files) :
    Files :=
  match disk with
  | .refuses => files
  | .takes n =>
      Function.update files file
        (some (.text (String.ofList ((streams.write jsInt).toList.take n))))

end Serializer

/-! ### The constructor -/

namespace ConfigurationStorage

/-- The configuration of a document that was read, or the default one. -/
def ofDocument : Option Json → Except String Configuration
  | none => .ok Configuration.defaults
  | some j => Configuration.fromJson j

/-- The configuration that is there once the file has been looked at. -/
def load (streams : Streams) : Option Entry → Except String Configuration
  | none => .ok Configuration.defaults
  | some (.hidden what) => .error what
  | some entry => do ofDocument (← Serializer.readIn streams entry)

def writeConfiguration (streams : Streams) (file : String) (disk : Disk) (files : Files) :
    Files :=
  Serializer.writeOut streams Configuration.defaults.toJson file disk files

/-- `ConfigurationStorage(configFilePath)`, which has an exception or a configuration. -/
def construct (streams : Streams) (configFilePath : String) (disk : Disk) (files : Files) :
    Except String Configuration × Files :=
  let file := streams.resolve configFilePath
  (load streams (files file),
    if files file = none then writeConfiguration streams file disk files else files)

end ConfigurationStorage

/-! ### Files that were written -/

/-- The files are those of the user, but that some of those that are missing have been written
to: they hold the beginning of the default configuration, or all of it. -/
def Unspoilt (streams : Streams) (users files : Files) : Prop :=
  ∀ file, files file = users file
    ∨ users file = none ∧ ∃ n, files file = some (.text (String.ofList
      ((streams.write Configuration.defaults.toJson).toList.take n)))

section

variable {streams : Streams} {users files : Files} {file : String}

theorem load_text (s : String) :
  ConfigurationStorage.load streams (some (.text s))
    = Serializer.readIn streams (.text s) >>= ConfigurationStorage.ofDocument
  := rfl

/-- Whatever has been taken of the default configuration, it is the one that is loaded. -/
theorem load_written (h : streams.ReadsDefaults) (n : ℕ) :
  ConfigurationStorage.load streams (some (.text (String.ofList
      ((streams.write Configuration.defaults.toJson).toList.take n))))
    = .ok Configuration.defaults
  := by
  rw [load_text, Serializer.readIn]
  rcases Nat.lt_or_ge n (streams.write Configuration.defaults.toJson).toList.length with hn | hn
  · rw [h.torn n hn]
    rfl
  · rw [List.take_of_length_le hn, String.ofList_toList, h.whole]
    exact Configuration.fromJson_toJson Configuration.defaults

namespace Unspoilt

theorem refl (files : Files) :
  Unspoilt streams files files
  := fun _ => .inl rfl

/-- What is loaded is what the user's files say. -/
theorem load (hu : Unspoilt streams users files) (h : streams.ReadsDefaults) (file : String) :
  ConfigurationStorage.load streams (files file) = ConfigurationStorage.load streams (users file)
  := by
  rcases hu file with hsame | ⟨hmissing, n, hwritten⟩
  · rw [hsame]
  · rw [hwritten, hmissing]
    exact load_written h n

theorem write (hu : Unspoilt streams users files) (hmissing : users file = none)
    (disk : Disk) :
  Unspoilt streams users (ConfigurationStorage.writeConfiguration streams file disk files)
  := by
  cases disk with
  | refuses => exact hu
  | takes n =>
      intro other
      rw [ConfigurationStorage.writeConfiguration, Serializer.writeOut]
      by_cases hother : other = file
      · subst hother
        rw [Function.update_self]
        exact .inr ⟨hmissing, n, rfl⟩
      · rw [Function.update_of_ne hother]
        apply hu

/-- The constructor has what the user's files say, and leaves these as they are. -/
theorem construct (hu : Unspoilt streams users files) (h : streams.ReadsDefaults)
    (configFilePath : String) (disk : Disk) :
  (ConfigurationStorage.construct streams configFilePath disk files).1
      = ConfigurationStorage.load streams (users (streams.resolve configFilePath))
    ∧ Unspoilt streams users
      (ConfigurationStorage.construct streams configFilePath disk files).2
  := by
  use hu.load h (streams.resolve configFilePath)
  rw [ConfigurationStorage.construct]
  dsimp only
  split
  · next hmissing =>
      apply hu.write
      rcases hu (streams.resolve configFilePath) with hsame | ⟨husers, -⟩
      · rw [← hsame, hmissing]
      · exact husers
  · exact hu

end Unspoilt

end

end Storage

end UwpxPush
