import Mathlib.Tactic.Common

/-!
# The configuration

The part of `storage::Configuration` that the server reads while it runs.
-/

namespace UwpxPush

/-- The credentials of the server at the WNS service. -/
structure WnsConfiguration where
  packetId : String
  clientSecret : String
  deriving DecidableEq

/-- The account of the server, from which the events of the nodes come. -/
structure XmppConfiguration where
  bareJid : String
  deriving DecidableEq

/-- What the server reads of its configuration. -/
structure Configuration where
  wns : WnsConfiguration
  xmpp : XmppConfiguration
  deriving DecidableEq

end UwpxPush
