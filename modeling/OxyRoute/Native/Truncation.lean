import OxyRoute.Lib.Boundaries
import OxyRoute.Native.Dispatch
import OxyRoute.Native.Limiter

/-!
# Truncated texts

The request path cuts two kinds of text at a number of bytes. A rate limiting key is cut at the
last character boundary before the limit. The detail of a 500 response in debug mode is cut at the
limit itself, so a text with a character across it makes both versions of the response panic.

## Main definitions

- `walkBack`, `truncateKeyLoop` — `truncate_key` with its loop
- `sendInternalErrorSync` — `send_internal_error_sync`
- `TruncatesKey`, `TruncatesDetail` — what the cut texts are

## Main results

- `truncateKeyLoop_eq` — the loop ends with the longest beginning
- `truncations_iff` — for which texts nothing panics
-/

namespace OxyRoute

open String (utf8Len)
open Text (LongestWithin)

/-- The loop of `truncate_key`: the last boundary up to `end`, and the start of the text if there
is none. -/
def walkBack (key : List Char) : ℕ → ℕ
  | 0 => 0
  | e + 1 => if Text.isCharBoundary (e + 1) key then e + 1 else walkBack key e

/-- `truncate_key` with its loop; none where slicing panics. -/
def truncateKeyLoop (key : String) : Option String :=
  if key.utf8ByteSize ≤ maxKeyLen then some key
  else (Text.takeBytes (walkBack key.toList maxKeyLen) key.toList).map String.ofList

/-- The loop ends on a boundary, and slicing there gives the longest beginning. -/
theorem takeBytes_walkBack (key : List Char) (n : ℕ) :
    ∃ kept, Text.takeBytes (walkBack key n) key = some kept ∧ LongestWithin n key kept := by
  induction n with
  | zero =>
    refine ⟨[], ?_, .zero key⟩
    rw [walkBack, Text.takeBytes]
  | succ n ih =>
    rw [walkBack]
    by_cases hboundary : Text.isCharBoundary (n + 1) key = true
    · obtain ⟨kept, hkept⟩ := Option.isSome_iff_exists.mp hboundary
      rw [if_pos hboundary]
      exact ⟨kept, hkept, .of_takeBytes hkept⟩
    · obtain ⟨kept, hkept, hlongest⟩ := ih
      rw [if_neg hboundary]
      exact ⟨kept, hkept, hlongest.succ (Bool.not_eq_true _ ▸ hboundary)⟩

theorem longestWithin_beginningWithin (n : ℕ) (cs : List Char) :
    LongestWithin n cs (beginningWithin n cs) where
  isPrefix := beginningWithin_prefix n cs
  within := by
    rw [← String.utf8ByteSize_ofList]
    exact utf8ByteSize_beginningWithin n cs
  longest := by
    induction cs generalizing n with
    | nil => exact fun u hu _ => hu.trans List.nil_prefix
    | cons c cs ih =>
      intro u hu hlen
      cases u with
      | nil => exact List.nil_prefix
      | cons d u =>
        obtain ⟨rfl, hrest⟩ := List.cons_prefix_cons.mp hu
        rw [String.utf8Len_cons] at hlen
        rw [beginningWithin, if_pos (by omega)]
        exact List.cons_prefix_cons.mpr ⟨rfl, ih _ u hrest (by omega)⟩

/-- The loop cuts as the recursion on characters does, and never panics. -/
theorem truncateKeyLoop_eq (key : String) : truncateKeyLoop key = some (truncateKey key) := by
  rw [truncateKeyLoop, truncateKey]
  by_cases h : key.utf8ByteSize ≤ maxKeyLen
  · rw [if_pos h, if_pos h]
  · obtain ⟨kept, hkept, hlongest⟩ := takeBytes_walkBack key.toList maxKeyLen
    rw [if_neg h, if_neg h, hkept,
      hlongest.unique (longestWithin_beginningWithin maxKeyLen key.toList)]
    rfl

/-- A key of at most 256 bytes is kept, of a longer one the longest beginning. -/
structure TruncatesKey (key kept : String) : Prop where
  short : key.utf8ByteSize ≤ maxKeyLen → kept = key
  long : maxKeyLen < key.utf8ByteSize → LongestWithin maxKeyLen key.toList kept.toList

theorem truncateKey_truncatesKey (key : String) : TruncatesKey key (truncateKey key) where
  short h := if_pos h
  long h := by
    rw [truncateKey, if_neg (not_le.mpr h), String.toList_ofList]
    exact longestWithin_beginningWithin maxKeyLen key.toList

/-- A text of at most 4000 bytes is the detail, of a longer one a beginning of at most 4000 bytes
with an ellipsis. -/
structure TruncatesDetail (d detail : String) : Prop where
  short : d.utf8ByteSize ≤ 4000 → detail = d
  long : 4000 < d.utf8ByteSize → ∃ kept : String, kept.toList <+: d.toList ∧
    kept.utf8ByteSize ≤ 4000 ∧ detail = kept ++ "…"

/-- The detail is made if slicing does not cut a character. -/
theorem debugDetail_eq_none_iff {d : String} :
    debugDetail d = none ↔ ¬ (d.utf8ByteSize ≤ 4000 ∨ (⟨4000⟩ : String.Pos.Raw).IsValid d) := by
  rw [debugDetail, ← Text.isCharBoundary_iff, not_or, not_le, Bool.not_eq_true,
    Text.isCharBoundary, Option.isSome_eq_false_iff, Option.isNone_iff_eq_none]
  by_cases h : 4000 < d.utf8ByteSize
  · rw [if_pos h, Option.map_eq_none_iff]
    exact (and_iff_right h).symm
  · rw [if_neg h]
    exact iff_of_false (Option.some_ne_none d) fun hlong => h hlong.1

theorem truncatesDetail_of_debugDetail {d detail : String} (h : debugDetail d = some detail) :
    TruncatesDetail d detail := by
  rw [debugDetail] at h
  by_cases hlong : 4000 < d.utf8ByteSize
  · rw [if_pos hlong] at h
    obtain ⟨cs, hcs, rfl⟩ := Option.map_eq_some_iff.mp h
    obtain ⟨hbegin, hlen⟩ := Text.takeBytes_eq_some_iff.mp hcs
    refine ⟨fun hshort => absurd hlong (not_lt.mpr hshort), fun _ => ?_⟩
    refine ⟨String.ofList cs, ?_, ?_, String.ofList_append⟩
    · rwa [String.toList_ofList]
    · rw [String.utf8ByteSize_ofList, hlen]
  · rw [if_neg hlong] at h
    exact ⟨fun _ => (Option.some.inj h).symm, fun h' => absurd h' hlong⟩

section

variable {m : Matchit} {Ref W : Type} (rt : Runtime m Ref W) (req : HttpRequest Ref)

/-- `send_internal_error_sync`: the same detail and the same body as in `send_internal_error`. -/
def sendInternalErrorSync (err : PyErr Ref) : Dispatch m Ref W Unit :=
  sendInternalError rt req err

/-- The 500 response with a detail. -/
def sendDetail (detail : String) : Dispatch m Ref W Unit :=
  orRaise (sendText rt req 500 (rt.jsonToString (.ofMembers
    [("error", .str "internal server error"), ("detail", .str detail)]))
    "application/json; charset=utf-8")

/-- A computation that ends as the 500 response with the detail of the error does. -/
def AnswersDetail (err : PyErr Ref) (c : Dispatch m Ref W Unit) (w : World m Ref W) : Prop :=
  ∃ detail, TruncatesDetail (rt.displayErr err) detail ∧ c.run w = (sendDetail rt req detail).run w

variable {rt req}

/-- Sending a response does not panic. -/
theorem orRaise_ne_panicked {α : Type} (c : PyResult m Ref W α) (w : World m Ref W) :
    ((orRaise c).run w).result ≠ .error .panicked := by
  rcases hc : c.run w with ⟨r, w', l⟩
  cases r with
  | ok a =>
    rw [orRaise, Routine.handle_run_ok hc]
    exact fun h => nomatch h
  | error e =>
    rw [orRaise, Routine.handle_run_error hc]
    exact fun h => nomatch h

theorem answersDetail_iff (hdebug : rt.debug = true) {err : PyErr Ref} {w : World m Ref W} :
    AnswersDetail rt req err (sendInternalError rt req err) w ↔
      debugDetail (rt.displayErr err) ≠ none := by
  rw [sendInternalError, if_pos hdebug]
  cases hdetail : debugDetail (rt.displayErr err) with
  | none =>
    refine iff_of_false ?_ (fun h => h rfl)
    rintro ⟨detail, -, hrun⟩
    exact orRaise_ne_panicked _ w (congrArg Routine.Ending.result hrun.symm)
  | some detail =>
    exact iff_of_true ⟨detail, truncatesDetail_of_debugDetail hdetail, rfl⟩
      (Option.some_ne_none detail)

/-- **Truncation.** For every key, and every error of a request in debug mode: the key is cut as
described, and both versions of the 500 response have the detail as described, if and only if the
text of the error has at most 4000 bytes or a character boundary there. -/
theorem truncations_iff (rt : Runtime m Ref W) (req : HttpRequest Ref) (key : String)
    (err : PyErr Ref) (w : World m Ref W) :
    ((∃ kept, truncateKeyLoop key = some kept ∧ TruncatesKey key kept) ∧
      AnswersDetail { rt with debug := true } req err
        (sendInternalError { rt with debug := true } req err) w ∧
      AnswersDetail { rt with debug := true } req err
        (sendInternalErrorSync { rt with debug := true } req err) w) ↔
    (rt.displayErr err).utf8ByteSize ≤ 4000 ∨
      (⟨4000⟩ : String.Pos.Raw).IsValid (rt.displayErr err) := by
  have hkey : ∃ kept, truncateKeyLoop key = some kept ∧ TruncatesKey key kept :=
    ⟨truncateKey key, truncateKeyLoop_eq key, truncateKey_truncatesKey key⟩
  rw [and_iff_right hkey, sendInternalErrorSync, and_self, answersDetail_iff rfl]
  exact (not_congr debugDetail_eq_none_iff).trans not_not

end

theorem utf8Len_replicate (k : ℕ) : utf8Len (List.replicate k 'é') = 2 * k := by
  have hsize : 'é'.utf8Size = 2 := rfl
  induction k with
  | zero => rfl
  | succ k ih =>
    rw [List.replicate_succ, String.utf8Len_cons, ih, hsize]
    omega

/-- Slicing after an odd number of bytes cuts one of the characters of two bytes. -/
theorem takeBytes_replicate_odd (n k : ℕ) :
    Text.takeBytes (2 * n + 1) (List.replicate k 'é') = none := by
  rw [Option.eq_none_iff_forall_ne_some]
  intro cs hcs
  obtain ⟨hbegin, hlen⟩ := Text.takeBytes_eq_some_iff.mp hcs
  rw [(List.prefix_replicate_iff.mp hbegin).2, utf8Len_replicate] at hlen
  omega

/-- The message of `ValueError("a" + 1994 * "é")`. -/
def accents : String := "a" ++ String.ofList (List.replicate 1994 'é')

/-- Debug mode; an error is printed with its class. -/
def verboseRuntime : Runtime segmentMatcher String Unit :=
  { plainRuntime segmentMatcher with
    displayErr := fun err => match err with
      | .valueError msg => "ValueError: " ++ msg
      | _ => "error"
    debug := true }

/-- Its text has 4001 bytes, and byte 4000 is inside a character. -/
theorem debugDetail_accents :
    debugDetail (verboseRuntime.displayErr (.valueError accents)) = none := by
  have htext : (verboseRuntime.displayErr (.valueError accents)).toList =
      "ValueError: a".toList ++ List.replicate 1994 'é' := by
    show ("ValueError: " ++ ("a" ++ String.ofList (List.replicate 1994 'é'))).toList = _
    rw [← String.append_assoc, String.toList_append, String.toList_ofList]
    rfl
  have hhead : utf8Len "ValueError: a".toList = 13 := rfl
  have hsize : (verboseRuntime.displayErr (.valueError accents)).utf8ByteSize = 4001 := by
    rw [← String.ofList_toList (s := verboseRuntime.displayErr _), String.utf8ByteSize_ofList,
      htext, String.utf8Len_append, hhead, utf8Len_replicate]
  have hbytes : 4000 = utf8Len "ValueError: a".toList + (2 * 1993 + 1) := by rw [hhead]
  rw [debugDetail, if_pos (by omega), htext, hbytes, Text.takeBytes_append,
    takeBytes_replicate_odd]
  rfl

/-- An application without routes. -/
def idleApp : World segmentMatcher String Unit := ⟨AppState.new true, ()⟩

/-- The error makes the response panic. -/
theorem accents_panic :
    (sendInternalError verboseRuntime (plainRequest "GET" "/") (.valueError accents)).run
        idleApp = ⟨.error .panicked, idleApp, []⟩ ∧
      ¬ AnswersDetail verboseRuntime (plainRequest "GET" "/") (.valueError accents)
        (sendInternalError verboseRuntime (plainRequest "GET" "/") (.valueError accents))
        idleApp := by
  constructor
  · have hdebug : verboseRuntime.debug = true := rfl
    rw [sendInternalError, if_pos hdebug, debugDetail_accents]
    rfl
  · rw [answersDetail_iff rfl, not_not]
    exact debugDetail_accents

end OxyRoute
