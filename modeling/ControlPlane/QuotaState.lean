/-
# Shared quota counters (`app/quota_state_service.py`)

The requests of a team in a minute and its tokens of a day are counted in Redis.  An increment
is one script: it counts up a key of the minute and a key of the day, which expire some time
after the window, and writes a hash with both counts for older readers.  A reader takes the two
keys, and falls back to the hash when there is neither.
-/
import ControlPlane.Enrichment
import ControlPlane.Redis
import ControlPlane.Timestamp

namespace ControlPlane

open Redis (Command Database Failure LuaNumbers intText)

/-! ## The clock -/

/-- A reading of the clock: seconds since 1970, in a year of four digits. -/
structure Reading where
  seconds : ℚ
  nonneg : 0 ≤ seconds
  lt : seconds < 253402300800

namespace Reading

variable (t : Reading)

/-- `int(now)`: the clock is past 1970, so that rounding towards zero rounds down. -/
def whole : ℤ := ⌊t.seconds⌋

/-- `_minute_bucket(now)`. -/
def minuteBucket : ℤ := t.whole - t.whole % 60

/-- The number of the day. -/
def day : ℤ := t.whole / 86400

end Reading

/-- A date as `strftime("%Y-%m-%d")` writes it. -/
def dateText (day : ℤ) : String :=
  let (year, month, dayOfMonth) := Timestamp.civil day
  String.ofList (Timestamp.pad 4 year ++ '-' :: (Timestamp.pad 2 month ++
    '-' :: Timestamp.pad 2 dayOfMonth))

/-- `datetime.now(UTC).strftime("%Y-%m-%d")`. -/
def Reading.today (t : Reading) : String := dateText t.day

/-! ## Keys -/

/-- The prefix of the keys of quotas. -/
def redisKeyPrefix : String := "ai:tenant:"

/-- The prefix of the keys of costs. -/
def finopsKeyPrefix : String := "ai:finops:"

/-- The hash of a team, as it was kept before the counters. -/
def hashKey (team : String) : String := redisKeyPrefix ++ team

/-- The counter of the requests of a minute. -/
def rpmKey (team : String) (bucket : ℤ) : String :=
  redisKeyPrefix ++ team ++ ":rpm:" ++ intText bucket

/-- The counter of the tokens of a day. -/
def tokensKey (team today : String) : String := redisKeyPrefix ++ team ++ ":tokens:" ++ today

/-- The costs of the month. -/
def costKey (team : String) : String := finopsKeyPrefix ++ team ++ ":month_to_date_cost_usd"

/-! ## The scripts -/

section Scripts

variable (lua : LuaNumbers) (now : ℚ)

/-- A number as the argument of a command. -/
def numberArgument : Option ℚ → Command String
  | some q => pure (lua.argument q)
  | none => .fail (.script "command arguments must be strings or integers")

/-- `if … then redis.call('EXPIRE', …) end`. -/
def expireIf (condition : Bool) (key : String) (ttl : Option ℚ) : Command Unit :=
  if condition then do
    let seconds ← numberArgument lua ttl
    let _ ← Redis.expire now key seconds
    pure ()
  else pure ()

/-- `_READ_QUOTA_LUA`. -/
def readQuotaLua (key nowText today : String) : Command (ℤ × ℤ) := do
  let state ← Redis.hgetall now key
  if state = [] then pure (0, 0)
  else do
    let windowStart := (lua.tonumber ((state.lookup "window_start").getD "0")).getD 0
    let rpm := (lua.tonumber ((state.lookup "requests_last_minute").getD "0")).getD 0
    let tokens := (lua.tonumber ((state.lookup "tokens_today").getD "0")).getD 0
    let tokensDay := (state.lookup "tokens_day").getD ""
    let current ← LuaNumbers.number (lua.tonumber nowText)
    let rpm := if 60 ≤ current - windowStart then 0 else rpm
    let tokens := if tokensDay ≠ today then 0 else tokens
    pure (LuaNumbers.reply rpm, LuaNumbers.reply tokens)

/-- `_INCR_QUOTA_LUA`. -/
def incrQuotaLua (rpmKey tokensKey hashKey nowText today deltaText rpmTtlText tokensTtlText :
    String) : Command (ℤ × ℤ) := do
  let tokenDelta := lua.tonumber deltaText
  let rpmTtl := lua.tonumber rpmTtlText
  let tokensTtl := lua.tonumber tokensTtlText
  let rpm ← lua.ofInt <$> Redis.incr now rpmKey
  expireIf lua now (rpm = 1) rpmKey rpmTtl
  let delta ← numberArgument lua tokenDelta
  let tokens ← lua.ofInt <$> Redis.incrBy now tokensKey delta
  expireIf lua now (some tokens = tokenDelta) tokensKey tokensTtl
  let current ← LuaNumbers.number (lua.tonumber nowText)
  let _ ← Redis.hset now hashKey
    [("window_start", lua.tostring (current - (current - ⌊current / 60⌋ * 60))),
      ("requests_last_minute", lua.tostring rpm), ("tokens_today", lua.tostring tokens),
      ("tokens_day", today)]
  let ttl₁ ← LuaNumbers.number rpmTtl
  let ttl₂ ← LuaNumbers.number tokensTtl
  expireIf lua now true hashKey (some (max ttl₁ ttl₂))
  pure (LuaNumbers.reply rpm, LuaNumbers.reply tokens)

end Scripts

/-! ## Reading and counting -/

/-- The configuration of a replica, and whether the server answers it. -/
structure QuotaRedis where
  /-- `QUOTA_REDIS_URL` -/
  quotaRedisUrl : String
  reachable : Bool := true

/-- `get_quota_redis_url`. -/
def getQuotaRedisUrl (redis : QuotaRedis) : Option String :=
  let url := strip redis.quotaRedisUrl
  if url = "" then none else some url

section Service

variable (py : PyRuntime) (isDigitText : String → Bool) (lua : LuaNumbers) (redis : QuotaRedis)

/-- `_as_int`; `isDigitText` is `str.isdigit`. -/
def asInt : Option String → Command (Option ℤ)
  | none => pure none
  | some s =>
    if isDigitText (String.ofList ((strip s).toList.dropWhile (· = '-'))) then
      match py.intOfStr s with
      | some n => pure (some n)
      | none => .fail (.client "invalid literal for int() with base 10")
    else pure none

/-- The month's cost, from the text of its key. -/
def monthCost (raw : Option String) : Command ℚ := do
  match ← asInt py isDigitText raw with
  | some n => pure n
  | none => match raw with
    | some s => pure ((py.floatOfStr s).getD 0)
    | none => pure 0

/-- The commands of `read_quota_state`. -/
def readCounters (team : String) (t : Reading) : Command (ℤ × ℤ × ℚ) := do
  let rpmCounter ← Redis.get t.seconds (rpmKey team t.minuteBucket) >>= asInt py isDigitText
  let tokensCounter ← Redis.get t.seconds (tokensKey team t.today) >>= asInt py isDigitText
  let (rpm, tokens) ←
    if rpmCounter.isSome ∨ tokensCounter.isSome then
      pure (rpmCounter.getD 0, tokensCounter.getD 0)
    else readQuotaLua lua t.seconds (hashKey team) (py.reprFloat t.seconds) t.today
  let cost ← Redis.get t.seconds (costKey team) >>= monthCost py isDigitText
  pure (rpm, tokens, cost)

/-- The snapshot when the server or a value fails. -/
def unavailableSnapshot (team : String) : QuotaStateSnapshot :=
  { team := team, source := .unavailable, unavailable := true }

/-- `read_quota_state`. -/
def readQuotaState (team : String) (t : Reading) (db : Database) :
    Option QuotaStateSnapshot × Database :=
  if getQuotaRedisUrl redis = none then (none, db)
  else if redis.reachable then
    match readCounters py isDigitText lua team t db with
    | (.ok (rpm, tokens, cost), db') =>
      (some { team := team, requestsLastMinute := rpm, tokensToday := tokens,
              monthToDateCostUsd := cost, source := .redis }, db')
    | (.error _, db') => (some (unavailableSnapshot team), db')
  else (some (unavailableSnapshot team), db)

/-- `incr_quota_counters`. -/
def incrQuotaCounters (team : String) (tokens : ℤ) (t : Reading) (db : Database) :
    Option QuotaStateSnapshot × Database :=
  if getQuotaRedisUrl redis = none then (none, db)
  else if redis.reachable then
    match incrQuotaLua lua t.seconds (rpmKey team t.minuteBucket) (tokensKey team t.today)
      (hashKey team) (py.reprFloat t.seconds) t.today (intText (max tokens 0)) "120" "172800" db
    with
    | (.ok (rpm, tokenTotal), db') =>
      (some { team := team, requestsLastMinute := rpm, tokensToday := tokenTotal,
              source := .redis }, db')
    | (.error _, db') => (some (unavailableSnapshot team), db')
  else (some (unavailableSnapshot team), db)

end Service

/-! ## Sequences of calls -/

/-- A call of the quota service. -/
inductive QuotaCall where
  | incr (team : String) (tokens : ℤ)
  | read (team : String)

/-- A call of a replica at an instant. -/
structure QuotaEvent where
  call : QuotaCall
  replica : QuotaRedis
  time : Reading

section Events

variable (py : PyRuntime) (isDigitText : String → Bool) (lua : LuaNumbers)

/-- What a call returns and leaves. -/
def QuotaEvent.serve (e : QuotaEvent) (db : Database) : Option QuotaStateSnapshot × Database :=
  match e.call with
  | .incr team tokens => incrQuotaCounters py lua e.replica team tokens e.time db
  | .read team => readQuotaState py isDigitText lua e.replica team e.time db

/-- The database after a series of calls. -/
def serveAll (events : List QuotaEvent) (db : Database) : Database :=
  events.foldl (fun db e => (e.serve py isDigitText lua db).2) db

end Events

end ControlPlane
