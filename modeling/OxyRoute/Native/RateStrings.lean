import OxyRoute.Native.RateLimit

/-!
# Rate strings

Which strings are accepted as a rate. Of a window only the comparison with zero is asked, which a
window that is not a number passes.

## Main definitions

- `WindowValue` — named units and numbers of seconds
- `WrittenRate` — a count and a window

## Main results

- `parse_eq_ok_iff` — what is accepted
-/

namespace OxyRoute

/-- A window in lower case: a named unit, or a number of seconds. -/
inductive WindowValue : String → F64 → Prop
  | second {w} : w ∈ ["s", "sec", "second", "seconds"] → WindowValue w (.finite 1)
  | minute {w} : w ∈ ["m", "min", "minute", "minutes"] → WindowValue w (.finite 60)
  | hour {w} : w ∈ ["h", "hr", "hour", "hours"] → WindowValue w (.finite 3600)
  | day {w} : w ∈ ["d", "day", "days"] → WindowValue w (.finite 86400)
  | number {num : List Char} {x} : F64.parse (String.ofList num) = some x →
      WindowValue (String.ofList (num ++ ['s'])) x

/-- The trimmed rate is a count and a window with one slash between them. -/
def WrittenRate (rateStr : String) (n : ℕ) (x : F64) : Prop :=
  ∃ count window : List Char, '/' ∉ count ∧ '/' ∉ window ∧
    Text.trimChars rateStr.toList = count ++ '/' :: window ∧
    Text.parseU64 (String.ofList (Text.trimChars count)) = some n ∧
    WindowValue (Text.toAsciiLowercase (String.ofList (Text.trimChars window))) x

/-- No unit is a number of seconds. -/
theorem parse_of_unit : ∀ w ∈ ["s", "sec", "second", "seconds", "m", "min", "minute", "minutes",
    "h", "hr", "hour", "hours", "d", "day", "days"], w.toList.getLast? = some 's' →
      F64.parse (String.ofList w.toList.dropLast) = none := by
  decide +kernel

theorem parseWindow_eq_ok_iff {rateStr w : String} {x : F64} :
    parseWindow rateStr w = .ok x ↔ WindowValue w x := by
  constructor
  · intro h
    unfold parseWindow at h
    split at h
    · next hw =>
      cases h
      exact .second hw
    · split at h
      · next hw =>
        cases h
        exact .minute hw
      · split at h
        · next hw =>
          cases h
          exact .hour hw
        · split at h
          · next hw =>
            cases h
            exact .day hw
          · split at h
            · next hlast =>
              cases hparse : F64.parse (String.ofList w.toList.dropLast) with
              | none =>
                rw [hparse] at h
                cases h
              | some y =>
                rw [hparse] at h
                cases h
                have hw : w = String.ofList (w.toList.dropLast ++ ['s']) := by
                  rw [List.dropLast_append_getLast? _ hlast, String.ofList_toList]
                rw [hw]
                exact .number hparse
            · cases h
  · intro h
    cases h with
    | second hw => rw [parseWindow, if_pos hw]
    | minute hw =>
      have hs : ∀ w ∈ ["m", "min", "minute", "minutes"], w ∉ ["s", "sec", "second", "seconds"] := by
        decide
      rw [parseWindow, if_neg (hs _ hw), if_pos hw]
    | hour hw =>
      have hs : ∀ w ∈ ["h", "hr", "hour", "hours"], w ∉ ["s", "sec", "second", "seconds"] ∧
          w ∉ ["m", "min", "minute", "minutes"] := by decide
      rw [parseWindow, if_neg (hs _ hw).1, if_neg (hs _ hw).2, if_pos hw]
    | day hw =>
      have hs : ∀ w ∈ ["d", "day", "days"], w ∉ ["s", "sec", "second", "seconds"] ∧
          w ∉ ["m", "min", "minute", "minutes"] ∧ w ∉ ["h", "hr", "hour", "hours"] := by decide
      rw [parseWindow, if_neg (hs _ hw).1, if_neg (hs _ hw).2.1, if_neg (hs _ hw).2.2, if_pos hw]
    | @number num _ hparse =>
      have hlast : (String.ofList (num ++ ['s'])).toList.getLast? = some 's' := by simp
      have hdrop : (String.ofList (num ++ ['s'])).toList.dropLast = num := by simp
      have hno := parse_of_unit (String.ofList (num ++ ['s']))
      rw [hlast, hdrop, hparse] at hno
      simp only [List.mem_cons, List.not_mem_nil, or_false, reduceCtorEq, imp_false, not_true,
        not_or] at hno
      rw [parseWindow]
      simp only [List.mem_cons, List.not_mem_nil, or_false, hno, if_false, hlast, if_true, hdrop,
        hparse]

/-- A rate is accepted if it is written as one, its count is positive and its window is not known
to be zero or less. -/
theorem parse_eq_ok_iff {rateStr : String} {keyStr : Option String} {cfg : RateLimitConfig} :
    RateLimitConfig.parse rateStr keyStr = .ok cfg ↔
      WrittenRate rateStr cfg.limit cfg.windowSecs ∧ 1 ≤ cfg.limit ∧
        cfg.windowSecs.nonPositive = false ∧
        cfg.keyStrategy = (keyStr.map RateLimitKeyStrategy.parse).getD .ip := by
  constructor
  · intro h
    unfold RateLimitConfig.parse at h
    split at h
    · next count window hsplit =>
      obtain ⟨hcount, hwindow, htrim⟩ := Text.splitOn_eq_pair_iff.mp hsplit
      simp only [bind, Except.bind, pure, Except.pure, throw, throwThe, MonadExceptOf.throw] at h
      cases hlimit : Text.parseU64 (String.ofList (Text.trimChars count)) with
      | none =>
        rw [hlimit] at h
        cases h
      | some limit =>
        simp only [hlimit] at h
        by_cases hzero : limit = 0
        · simp only [hzero, if_true] at h
          cases h
        · simp only [hzero, if_false] at h
          cases hvalue : parseWindow rateStr
              (Text.toAsciiLowercase (String.ofList (Text.trimChars window))) with
          | error e =>
            rw [hvalue] at h
            cases h
          | ok windowSecs =>
            simp only [hvalue] at h
            by_cases hpositive : windowSecs.nonPositive = true
            · simp only [hpositive, if_true] at h
              cases h
            · simp only [hpositive] at h
              cases h
              exact ⟨⟨count, window, hcount, hwindow, htrim, hlimit,
                parseWindow_eq_ok_iff.mp hvalue⟩, Nat.pos_of_ne_zero hzero,
                Bool.eq_false_iff.mpr hpositive, rfl⟩
    · cases h
  · rintro ⟨⟨count, window, hcount, hwindow, htrim, hlimit, hvalue⟩, hpos, hpositive, hkey⟩
    have hsplit := Text.splitOn_eq_pair_iff.mpr ⟨hcount, hwindow, htrim⟩
    have hzero : ¬ cfg.limit = 0 := Nat.one_le_iff_ne_zero.mp hpos
    have hok : parseWindow rateStr _ = .ok cfg.windowSecs := parseWindow_eq_ok_iff.mpr hvalue
    obtain ⟨limit, windowSecs, key⟩ := cfg
    obtain rfl : key = _ := hkey
    simp only at hlimit hzero hpositive hok
    rw [RateLimitConfig.parse, hsplit]
    simp [hlimit, hzero, hok, hpositive, bind, Except.bind, pure, Except.pure]

/-- A count is a `u64`. -/
theorem WrittenRate.lt {rateStr : String} {n : ℕ} {x : F64} (h : WrittenRate rateStr n x) :
    n < 2 ^ 64 := by
  obtain ⟨count, -, -, -, -, hcount, -⟩ := h
  have hsize : UInt64.size = 2 ^ 64 := by decide
  exact hsize ▸ Text.lt_of_parseU64 hcount

/-- A finite window is a double. -/
theorem WrittenRate.le {rateStr : String} {n : ℕ} {q : ℚ} (h : WrittenRate rateStr n (.finite q)) :
    q ≤ 2 ^ (1024 : ℤ) := by
  obtain ⟨-, window, -, -, -, -, hwindow⟩ := h
  generalize Text.toAsciiLowercase (String.ofList (Text.trimChars window)) = w at hwindow
  cases hwindow with
  | second => decide +kernel
  | minute => decide +kernel
  | hour => decide +kernel
  | day => decide +kernel
  | number hparse => exact F64.le_of_parse hparse

end OxyRoute
