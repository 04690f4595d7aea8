import OxyRoute.Lib.F64

/-!
# Rate limit settings

The parsing half of `rate_limit.rs`: the rate, its window and the key strategy of a route.

## Main definitions

- `RateLimitConfig.parse` — `count/window` with a key strategy
- `RateLimiter` — the limiter a route is given
-/

namespace OxyRoute

/-- `RateLimitKeyStrategy`. -/
inductive RateLimitKeyStrategy
  | ip
  | trustedForwardedIp
  | header (name : String)
  | global
  deriving DecidableEq, Repr

/-- `RateLimitKeyStrategy::parse`. -/
def RateLimitKeyStrategy.parse (s : String) : RateLimitKeyStrategy :=
  let trimmed := Text.trim s
  if Text.eqIgnoreAsciiCase trimmed "ip" ∨ Text.eqIgnoreAsciiCase trimmed "client" then .ip
  else if Text.eqIgnoreAsciiCase trimmed "trusted-forwarded-ip" ∨
      Text.eqIgnoreAsciiCase trimmed "forwarded-ip" then .trustedForwardedIp
  else if Text.eqIgnoreAsciiCase trimmed "global" then .global
  else
    match Text.dropLeading "header:".toList trimmed.toList with
    | some hdr => .header (Text.toAsciiLowercase (String.ofList (Text.trimChars hdr)))
    | none => .ip

/-- `RateLimitConfig`. -/
structure RateLimitConfig where
  limit : ℕ
  windowSecs : F64
  keyStrategy : RateLimitKeyStrategy
  deriving DecidableEq, Repr

/-- The window of a rate, trimmed and in lower case. -/
def parseWindow (rateStr winStr : String) : Except String F64 :=
  if winStr ∈ ["s", "sec", "second", "seconds"] then .ok (.finite 1)
  else if winStr ∈ ["m", "min", "minute", "minutes"] then .ok (.finite 60)
  else if winStr ∈ ["h", "hr", "hour", "hours"] then .ok (.finite 3600)
  else if winStr ∈ ["d", "day", "days"] then .ok (.finite 86400)
  else if winStr.toList.getLast? = some 's' then
    match F64.parse (String.ofList winStr.toList.dropLast) with
    | some w => .ok w
    | none => .error ("invalid window duration in '" ++ rateStr ++ "'")
  else .error ("unknown rate limit window in '" ++ rateStr ++ "'")

/-- `RateLimitConfig::parse`. -/
def RateLimitConfig.parse (rateStr : String) (keyStr : Option String) :
    Except String RateLimitConfig :=
  match (Text.trimChars rateStr.toList).splitOn '/' with
  | [count, window] => do
    let limit ← match Text.parseU64 (String.ofList (Text.trimChars count)) with
      | some n => pure n
      | none => throw ("invalid rate limit count in '" ++ rateStr ++ "'")
    if limit = 0 then throw "rate limit count must be greater than 0"
    let windowSecs ← parseWindow rateStr
      (Text.toAsciiLowercase (String.ofList (Text.trimChars window)))
    if windowSecs.nonPositive then throw "rate limit window duration must be greater than 0"
    return ⟨limit, windowSecs, (keyStr.map RateLimitKeyStrategy.parse).getD .ip⟩
  | _ => .error ("invalid rate limit format: '" ++ rateStr ++
      "' (expected 'limit/window', e.g. '100/minute')")

/-- `RateLimiter`: its settings. The buckets it fills belong to the state of the requests. -/
structure RateLimiter where
  limit : ℕ
  windowSecs : F64
  refillRatePerSec : F64
  keyStrategy : RateLimitKeyStrategy
  deriving DecidableEq, Repr

/-- `RateLimiter::new`. -/
def RateLimiter.new (config : RateLimitConfig) : RateLimiter where
  limit := config.limit
  windowSecs := config.windowSecs
  refillRatePerSec := (F64.ofNat config.limit).div config.windowSecs
  keyStrategy := config.keyStrategy

end OxyRoute
