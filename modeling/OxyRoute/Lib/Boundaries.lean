import Mathlib.Data.String.Basic
import OxyRoute.Lib.Text

/-!
# Character boundaries

Beginnings of texts by their length in bytes. A beginning ends on a character boundary: slicing a
text at a byte gives the beginning of exactly that length, if there is one.

## Main definitions

- `Text.isCharBoundary` — `str::is_char_boundary`
- `Text.LongestWithin` — the longest beginning of at most so many bytes

## Main results

- `Text.takeBytes_eq_some_iff` — what slicing gives
- `Text.isCharBoundary_iff` — the boundaries are the valid positions
- `Text.LongestWithin.succ`, `Text.LongestWithin.unique`
-/

namespace Text

open String (utf8Len)

variable {s t cs : List Char} {n : ℕ}

/-- Slicing gives the beginning of that length. -/
theorem takeBytes_eq_some_iff : takeBytes n s = some cs ↔ cs <+: s ∧ utf8Len cs = n := by
  fun_induction takeBytes n s generalizing cs with
  | case1 s =>
    rw [Option.some_inj, String.utf8Len_eq_zero]
    exact ⟨fun h => h ▸ ⟨List.nil_prefix, rfl⟩, fun h => h.2.symm⟩
  | case2 n =>
    refine iff_of_false (Option.some_ne_none cs).symm ?_
    rintro ⟨hbegin, hlen⟩
    rw [List.prefix_nil.mp hbegin] at hlen
    cases hlen
  | case3 n c s h ih =>
    rw [Option.map_eq_some_iff]
    constructor
    · rintro ⟨rest, hrest, rfl⟩
      obtain ⟨hbegin, hlen⟩ := ih.mp hrest
      refine ⟨List.cons_prefix_cons.mpr ⟨rfl, hbegin⟩, ?_⟩
      rw [String.utf8Len_cons]
      omega
    · rintro ⟨hbegin, hlen⟩
      cases cs with
      | nil => cases hlen
      | cons d rest =>
        obtain ⟨rfl, hrest⟩ := List.cons_prefix_cons.mp hbegin
        rw [String.utf8Len_cons] at hlen
        exact ⟨rest, ih.mpr ⟨hrest, by omega⟩, rfl⟩
  | case4 n c s h =>
    refine iff_of_false (Option.some_ne_none cs).symm ?_
    rintro ⟨hbegin, hlen⟩
    cases cs with
    | nil => cases hlen
    | cons d rest =>
      obtain ⟨rfl, -⟩ := List.cons_prefix_cons.mp hbegin
      rw [String.utf8Len_cons] at hlen
      omega

/-- Slicing after a beginning. -/
theorem takeBytes_append (s t : List Char) (n : ℕ) :
    takeBytes (utf8Len s + n) (s ++ t) = (takeBytes n t).map (s ++ ·) := by
  induction s with
  | nil =>
    rw [String.utf8Len_nil, Nat.zero_add]
    exact Option.map_id'.symm
  | cons c s ih =>
    have hpos := c.utf8Size_pos
    obtain ⟨k, hk⟩ : ∃ k, utf8Len (c :: s) + n = k + 1 :=
      ⟨utf8Len (c :: s) + n - 1, by rw [String.utf8Len_cons]; omega⟩
    have hk' : utf8Len s + c.utf8Size + n = k + 1 := hk
    have hrest : k + 1 - c.utf8Size = utf8Len s + n := by omega
    rw [hk, List.cons_append, takeBytes, if_pos (by omega), hrest, ih, Option.map_map]
    rfl

/-- `str::is_char_boundary`: slicing there cuts no character. -/
def isCharBoundary (n : ℕ) (s : List Char) : Bool := (takeBytes n s).isSome

/-- The boundaries of a text are its valid positions. -/
theorem isCharBoundary_iff {text : String} :
    isCharBoundary n text.toList = true ↔ (⟨n⟩ : String.Pos.Raw).IsValid text := by
  rw [isCharBoundary, Option.isSome_iff_exists, String.Pos.Raw.isValid_iff_exists_take_toList]
  constructor
  · rintro ⟨cs, hcs⟩
    obtain ⟨hbegin, hlen⟩ := takeBytes_eq_some_iff.mp hcs
    refine ⟨cs.length, ?_⟩
    rw [← List.prefix_iff_eq_take.mp hbegin, String.utf8ByteSize_ofList, hlen]
  · rintro ⟨i, hi⟩
    refine ⟨text.toList.take i, takeBytes_eq_some_iff.mpr ⟨List.take_prefix _ _, ?_⟩⟩
    rw [← String.utf8ByteSize_ofList, ← hi]

/-- The longest beginning of at most `n` bytes. -/
structure LongestWithin (n : ℕ) (s t : List Char) : Prop where
  isPrefix : t <+: s
  within : utf8Len t ≤ n
  longest : ∀ u, u <+: s → utf8Len u ≤ n → u <+: t

namespace LongestWithin

theorem unique {t' : List Char} (h : LongestWithin n s t) (h' : LongestWithin n s t') : t = t' := by
  have hle : t' <+: t := h.longest t' h'.isPrefix h'.within
  exact (h'.longest t h.isPrefix h.within).eq_of_length_le hle.length_le

theorem zero (s : List Char) : LongestWithin 0 s [] where
  isPrefix := List.nil_prefix
  within := le_rfl
  longest u _ hu := by
    have hnil : u = [] := String.utf8Len_eq_zero.mp (Nat.le_zero.mp hu)
    exact hnil ▸ List.nil_prefix

/-- A beginning of exactly `n` bytes. -/
theorem of_takeBytes (h : takeBytes n s = some t) : LongestWithin n s t where
  isPrefix := (takeBytes_eq_some_iff.mp h).1
  within := (takeBytes_eq_some_iff.mp h).2.le
  longest u hu hlen := by
    obtain ⟨ht, htlen⟩ := takeBytes_eq_some_iff.mp h
    rcases List.prefix_or_prefix_of_prefix hu ht with hut | htu
    · exact hut
    · -- a longer one has more bytes
      obtain ⟨rest, rfl⟩ := htu
      rw [String.utf8Len_append] at hlen
      have hrest : rest = [] := String.utf8Len_eq_zero.mp (by omega)
      simp only [hrest, List.append_nil, List.prefix_rfl]

/-- One byte more makes no difference where it would cut a character. -/
theorem succ (h : LongestWithin n s t) (hcut : isCharBoundary (n + 1) s = false) :
    LongestWithin (n + 1) s t where
  isPrefix := h.isPrefix
  within := h.within.trans (Nat.le_succ n)
  longest u hu hlen := by
    apply h.longest u hu
    by_contra hgt
    have htake : takeBytes (n + 1) s = some u := takeBytes_eq_some_iff.mpr ⟨hu, by omega⟩
    rw [isCharBoundary, htake] at hcut
    cases hcut

end LongestWithin

end Text
