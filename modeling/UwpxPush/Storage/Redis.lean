import UwpxPush.World

/-!
# Redis commands

The commands of `sw::redis::Redis` that the server uses, as programs, and their runs.
-/

namespace UwpxPush

namespace Redis

/-- The elements of a list, from the first to the last. -/
def lrange (key : String) : Server (List String) :=
  invoke (.lrange key)

/-- The string under a key. -/
def get (key : String) : Server (Option String) :=
  invoke (.get key)

/-- Store a string without a deadline. -/
def set (key value : String) : Server Unit :=
  invoke (.set key value)

/-- Delete a key. -/
def del (key : String) : Server Unit :=
  invoke (.del key)

/-- Append to a list, which is created where there is none. -/
def rpush (key : String) (values : List String) : Server Unit :=
  invoke (.rpush key values)

/-- Set the time to live of a key. -/
def expire (key : String) (seconds : Nat) : Server Unit :=
  invoke (.expire key seconds)

/-- Set the time at which a key is deleted. -/
def expireat (key : String) (seconds : Int) : Server Unit :=
  invoke (.expireat key seconds)

end Redis

namespace Server

variable (oracle : Oracle) (w : World)

/-- A single call is performed. -/
theorem run_invoke (c : Call) :
  run oracle (invoke c) w = World.perform oracle c w
  := Program.run_invoke _ c w

@[simp]
theorem run_lrange (key : String) :
  run oracle (Redis.lrange key) w = w.reading (w.redis.range key)
  := run_invoke oracle w (.lrange key)

@[simp]
theorem run_get (key : String) :
  run oracle (Redis.get key) w = w.reading (w.redis.get key)
  := run_invoke oracle w (.get key)

@[simp]
theorem run_set (key value : String) :
  run oracle (Redis.set key value) w = (.ok (), { w with redis := w.redis.set key value })
  := run_invoke oracle w (.set key value)

@[simp]
theorem run_del (key : String) :
  run oracle (Redis.del key) w = (.ok (), { w with redis := w.redis.del key })
  := run_invoke oracle w (.del key)

@[simp]
theorem run_rpush (key : String) (values : List String) :
  run oracle (Redis.rpush key values) w = w.writing (w.redis.push key values)
  := run_invoke oracle w (.rpush key values)

@[simp]
theorem run_expire (key : String) (seconds : Nat) :
  run oracle (Redis.expire key seconds) w
    = (.ok (), { w with
        redis := w.redis.expireAt key (w.redis.clock + seconds * second) })
  := run_invoke oracle w (.expire key seconds)

@[simp]
theorem run_expireat (key : String) (seconds : Int) :
  run oracle (Redis.expireat key seconds) w
    = (.ok (), { w with redis := w.redis.expireAt key (seconds * second) })
  := run_invoke oracle w (.expireat key seconds)

end Server

end UwpxPush
