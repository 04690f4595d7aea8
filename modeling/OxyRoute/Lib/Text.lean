import Mathlib.Data.List.DropRight

/-!
# Text

The string operations of the Rust standard library that programs over headers and small
configuration strings use, on Lean strings.

## Main definitions

- `Text.trim`, `Text.splitOnce`, `Text.joinWith` — trimming, splitting and joining
- `Text.words` — the non-empty parts between separators
- `Text.toAsciiLowercase`, `Text.eqIgnoreAsciiCase` — ASCII case
- `Text.parseU64` — `u64::from_str`
-/

namespace Text

/-- `char::is_whitespace`: the Unicode property `White_Space`. -/
def isWhitespace (c : Char) : Bool :=
  let n := c.toNat
  (9 ≤ n && n ≤ 13) || n == 0x20 || n == 0x85 || n == 0xa0 || n == 0x1680 ||
    (0x2000 ≤ n && n ≤ 0x200a) || n == 0x2028 || n == 0x2029 || n == 0x202f || n == 0x205f ||
    n == 0x3000

/-- `char::is_ascii_whitespace`. -/
def isAsciiWhitespace (c : Char) : Bool :=
  c == ' ' || c == '\t' || c == '\n' || c == '\r' || c.toNat == 12

/-- `char::is_control`. -/
def isControl (c : Char) : Bool := c.toNat < 32 || (127 ≤ c.toNat && c.toNat ≤ 159)

/-- `str::trim`, on characters. -/
def trimChars (s : List Char) : List Char := (s.dropWhile isWhitespace).rdropWhile isWhitespace

/-- `str::trim`. -/
def trim (s : String) : String := String.ofList (trimChars s.toList)

/-- `str::to_ascii_lowercase`. -/
def toAsciiLowercase (s : String) : String := String.ofList (s.toList.map Char.toLower)

/-- `str::to_ascii_uppercase`. -/
def toAsciiUppercase (s : String) : String := String.ofList (s.toList.map Char.toUpper)

/-- `str::eq_ignore_ascii_case`. -/
def eqIgnoreAsciiCase (a b : String) : Bool := toAsciiLowercase a = toAsciiLowercase b

/-- The characters before and after the first one that satisfies `p`. -/
def splitOnce (p : Char → Bool) : List Char → Option (List Char × List Char)
  | [] => none
  | c :: s => if p c then some ([], s) else (splitOnce p s).map fun q => (c :: q.1, q.2)

/-- The characters before and after the last one that satisfies `p`. -/
def rsplitOnce (p : Char → Bool) (s : List Char) : Option (List Char × List Char) :=
  (splitOnce p s.reverse).map fun q => (q.2.reverse, q.1.reverse)

/-- The characters of the first `n` bytes; none where a character is cut. -/
def takeBytes : ℕ → List Char → Option (List Char)
  | 0, _ => some []
  | _ + 1, [] => none
  | n + 1, c :: s =>
    if c.utf8Size ≤ n + 1 then (takeBytes (n + 1 - c.utf8Size) s).map (c :: ·) else none
  termination_by _ s => s.length

/-- `str::strip_prefix`, on characters. -/
def dropLeading : List Char → List Char → Option (List Char)
  | [], s => some s
  | _ :: _, [] => none
  | p :: ps, c :: s => if p = c then dropLeading ps s else none

/-- `[T]::join` for strings. -/
def joinWith (sep : String) : List String → String
  | [] => ""
  | [s] => s
  | s :: l => s ++ sep ++ joinWith sep l

/-- The digits of a number in base ten, most significant first. -/
def digitsValue (s : List Char) : ℕ := s.foldl (fun n c => 10 * n + (c.toNat - '0'.toNat)) 0

/-- `u64::from_str`: an optional plus sign and decimal digits, below `2 ^ 64`. -/
def parseU64 (s : String) : Option ℕ :=
  let digits := match s.toList with
    | '+' :: rest => rest
    | rest => rest
  if digits ≠ [] ∧ digits.all Char.isDigit ∧ digitsValue digits < UInt64.size then
    some (digitsValue digits)
  else none

theorem lt_of_parseU64 {s : String} {n : ℕ} (h : parseU64 s = some n) : n < UInt64.size := by
  unfold parseU64 at h
  obtain ⟨hvalid, hn⟩ := Option.ite_none_right_eq_some.mp h
  rw [← Option.some.inj hn]
  exact hvalid.2.2

/-- The code of a letter in upper case changes by 32, other characters stay. -/
theorem toNat_toLower (c : Char) :
    c.toLower.toNat = if 65 ≤ c.toNat ∧ c.toNat ≤ 90 then c.toNat + 32 else c.toNat := by
  by_cases h : c.val ≥ 'A'.val ∧ c.val ≤ 'Z'.val
  · have hlow : c.toLower.val = c.val + ('a'.val - 'A'.val) := by
      delta Char.toLower
      rw [dif_pos h]
    have hhi : c.toNat ≤ 90 := h.2
    have hrange : 65 ≤ c.toNat ∧ c.toNat ≤ 90 := h
    rw [if_pos hrange]
    show c.toLower.val.toNat = _
    rw [hlow, UInt32.toNat_add]
    show (c.toNat + 32) % 2 ^ 32 = _
    omega
  · have hrange : ¬ (65 ≤ c.toNat ∧ c.toNat ≤ 90) := h
    delta Char.toLower
    rw [dif_neg h, if_neg hrange]

/-- The code of a letter in lower case changes by 32, other characters stay. -/
theorem toNat_toUpper (c : Char) :
    c.toUpper.toNat = if 97 ≤ c.toNat ∧ c.toNat ≤ 122 then c.toNat - 32 else c.toNat := by
  by_cases h : c.val ≥ 'a'.val ∧ c.val ≤ 'z'.val
  · have hup : c.toUpper.val = c.val + ('A'.val - 'a'.val) := by
      delta Char.toUpper
      rw [dif_pos h]
    have hhi : c.toNat ≤ 122 := h.2
    have hrange : 97 ≤ c.toNat ∧ c.toNat ≤ 122 := h
    rw [if_pos hrange]
    show c.toUpper.val.toNat = _
    have hsub : ('A'.val - 'a'.val).toNat = 4294967264 := rfl
    rw [hup, UInt32.toNat_add, hsub]
    show (c.toNat + 4294967264) % 4294967296 = _
    omega
  · have hrange : ¬ (97 ≤ c.toNat ∧ c.toNat ≤ 122) := h
    delta Char.toUpper
    rw [dif_neg h, if_neg hrange]

theorem toLower_toLower (c : Char) : c.toLower.toLower = c.toLower := by
  apply Char.toNat_inj.mp
  rw [toNat_toLower, if_neg]
  rw [toNat_toLower]
  split
  · omega
  · assumption

theorem toAsciiLowercase_idem (s : String) :
    toAsciiLowercase (toAsciiLowercase s) = toAsciiLowercase s := by
  unfold toAsciiLowercase
  rw [String.toList_ofList, List.map_map]
  refine congrArg String.ofList (List.map_congr_left fun c _ => ?_)
  exact toLower_toLower c

/-- A character before the letters is no lower case of another one. -/
theorem toLower_eq_iff {c d : Char} (hd : d.toNat < 65) : c.toLower = d ↔ c = d := by
  rw [← Char.toNat_inj, ← Char.toNat_inj, toNat_toLower]
  split
  · omega
  · rfl

/-- A character before the letters is no upper case of another one. -/
theorem toUpper_eq_iff {c d : Char} (hd : d.toNat < 65) : c.toUpper = d ↔ c = d := by
  rw [← Char.toNat_inj, ← Char.toNat_inj, toNat_toUpper]
  split
  · omega
  · rfl

theorem eqIgnoreAsciiCase_refl (a : String) : eqIgnoreAsciiCase a a = true := by
  simp [eqIgnoreAsciiCase]

/-- The first separator is found after characters that are none. -/
theorem splitOnce_append {p : Char → Bool} {before : List Char} {c : Char}
    (hbefore : ∀ d ∈ before, p d = false) (hc : p c = true) (after : List Char) :
    splitOnce p (before ++ c :: after) = some (before, after) := by
  induction before with
  | nil => rw [List.nil_append, splitOnce, if_pos hc]
  | cons d before ih =>
    have hd : ¬ p d = true := Bool.eq_false_iff.mp (hbefore d List.mem_cons_self)
    rw [List.cons_append, splitOnce, if_neg hd,
      ih fun d hd => hbefore d (List.mem_cons_of_mem _ hd)]
    rfl

theorem eq_of_splitOnce {p : Char → Bool} {s before after : List Char}
    (h : splitOnce p s = some (before, after)) : ∃ c, p c = true ∧ s = before ++ c :: after := by
  induction s generalizing before with
  | nil => cases h
  | cons d s ih =>
    rw [splitOnce] at h
    split at h
    · next hd =>
      cases h
      exact ⟨d, hd, rfl⟩
    · obtain ⟨q, hq, heq⟩ := Option.map_eq_some_iff.mp h
      cases heq
      obtain ⟨c, hc, rfl⟩ := ih hq
      exact ⟨c, hc, rfl⟩

theorem splitOnce_eq_none {p : Char → Bool} {s : List Char} (h : ∀ c ∈ s, p c = false) :
    splitOnce p s = none := by
  induction s with
  | nil => rfl
  | cons c s ih =>
    have hc : ¬ p c = true := Bool.eq_false_iff.mp (h c List.mem_cons_self)
    rw [splitOnce, if_neg hc, ih fun d hd => h d (List.mem_cons_of_mem _ hd)]
    rfl

theorem forall_of_splitOnce_eq_none {p : Char → Bool} {s : List Char} (h : splitOnce p s = none) :
    ∀ c ∈ s, p c = false := by
  induction s with
  | nil => simp
  | cons c s ih =>
    rw [splitOnce] at h
    split at h
    · cases h
    · next hc =>
      intro d hd
      rcases List.mem_cons.mp hd with rfl | hd
      · exact Bool.eq_false_iff.mpr hc
      · exact ih (Option.map_eq_none_iff.mp h) d hd

/-- No separator is before the first one. -/
theorem forall_before_of_splitOnce {p : Char → Bool} {s : List Char} {q : List Char × List Char}
    (h : splitOnce p s = some q) : ∀ c ∈ q.1, p c = false := by
  induction s generalizing q with
  | nil => cases h
  | cons c s ih =>
    rw [splitOnce] at h
    split at h
    · cases h
      simp
    · next hc =>
      obtain ⟨q', hq', rfl⟩ := Option.map_eq_some_iff.mp h
      intro d hd
      rcases List.mem_cons.mp hd with rfl | hd
      · exact Bool.eq_false_iff.mpr hc
      · exact ih hq' d hd

/-- The last separator is found before characters that are none. -/
theorem rsplitOnce_append {p : Char → Bool} {after : List Char} {c : Char} (before : List Char)
    (hc : p c = true) (hafter : ∀ d ∈ after, p d = false) :
    rsplitOnce p (before ++ c :: after) = some (before, after) := by
  have hreverse : (before ++ c :: after).reverse = after.reverse ++ c :: before.reverse := by simp
  rw [rsplitOnce, hreverse,
    splitOnce_append (fun d hd => hafter d (List.mem_reverse.mp hd)) hc, Option.map_some,
    List.reverse_reverse, List.reverse_reverse]

/-- No separator is in a part between separators. -/
theorem forall_mem_splitOnP {α : Type*} (p : α → Bool) {s part : List α}
    (h : part ∈ s.splitOnP p) : ∀ c ∈ part, p c = false := by
  induction s generalizing part with
  | nil =>
    rw [List.splitOnP_nil, List.mem_singleton] at h
    rintro c hc
    rw [h] at hc
    cases hc
  | cons d s ih =>
    rw [List.splitOnP_cons_eq_if_modifyHead] at h
    by_cases hd : p d = true
    · rw [if_pos hd] at h
      rcases List.mem_cons.mp h with rfl | h
      · intro c hc
        cases hc
      · exact ih h
    · rw [if_neg hd] at h
      have hd : p d = false := Bool.eq_false_iff.mpr hd
      cases hs : s.splitOnP p with
      | nil => exact absurd hs (List.splitOnP_ne_nil p s)
      | cons first rest =>
        rw [hs, List.modifyHead_cons] at h
        rcases List.mem_cons.mp h with rfl | h
        · have hfirst := ih (hs ▸ List.mem_cons_self)
          exact List.forall_mem_cons.mpr ⟨hd, hfirst⟩
        · exact ih (hs ▸ List.mem_cons_of_mem first h)

/-- Two parts between separators are what is before and after the only one. -/
theorem splitOn_eq_pair_iff {α : Type*} [DecidableEq α] {sep : α} {s before after : List α} :
    s.splitOn sep = [before, after] ↔
      sep ∉ before ∧ sep ∉ after ∧ s = before ++ sep :: after := by
  constructor
  · intro h
    have hno : ∀ part ∈ s.splitOn sep, sep ∉ part := by
      intro part hpart hin
      have hfalse := forall_mem_splitOnP (· == sep) hpart sep hin
      simp at hfalse
    have hjoin : [sep].intercalate (s.splitOn sep) = s := List.intercalate_splitOn sep
    rw [h] at hno hjoin
    exact ⟨hno before (by simp), hno after (by simp), by simpa [List.intercalate] using hjoin.symm⟩
  · rintro ⟨hbefore, hafter, rfl⟩
    have hsplit : ([sep].intercalate [before, after]).splitOn sep = [before, after] :=
      List.splitOn_intercalate sep (by simp [hbefore, hafter]) (by simp)
    simpa [List.intercalate] using hsplit

-- ════════════════════════════════════════════════════════════════════════
-- Trimming and words
-- ════════════════════════════════════════════════════════════════════════

/-- The characters without those at both ends that satisfy `p`. -/
def strip (p : Char → Bool) (s : List Char) : List Char := (s.dropWhile p).rdropWhile p

/-- The non-empty parts between the characters that satisfy `p`. -/
def words (p : Char → Bool) (s : List Char) : List (List Char) :=
  (s.splitOnP p).filter (· ≠ [])

section

variable {p q : Char → Bool} {c : Char} {s : List Char}

theorem dropWhile_congr (h : ∀ c ∈ s, p c = q c) : s.dropWhile p = s.dropWhile q := by
  induction s with
  | nil => rfl
  | cons d s ih =>
    rw [List.dropWhile_cons, List.dropWhile_cons, h d List.mem_cons_self,
      ih fun c hc => h c (List.mem_cons_of_mem d hc)]

theorem rdropWhile_congr (h : ∀ c ∈ s, p c = q c) : s.rdropWhile p = s.rdropWhile q := by
  unfold List.rdropWhile
  rw [dropWhile_congr fun c hc => h c (List.mem_reverse.mp hc)]

theorem strip_congr (h : ∀ c ∈ s, p c = q c) : strip p s = strip q s := by
  unfold strip
  rw [← dropWhile_congr h]
  exact rdropWhile_congr fun c hc => h c (List.dropWhile_sublist p |>.subset hc)

theorem mem_dropWhile (hc : c ∈ s) (hp : p c = false) : c ∈ s.dropWhile p := by
  induction s with
  | nil => cases hc
  | cons d s ih =>
    rw [List.dropWhile_cons]
    split
    · next hd =>
      rcases List.mem_cons.mp hc with rfl | hc
      · exact absurd hd (Bool.eq_false_iff.mp hp)
      · exact ih hc
    · exact hc

theorem mem_rdropWhile (hc : c ∈ s) (hp : p c = false) : c ∈ s.rdropWhile p :=
  List.mem_reverse.mpr (mem_dropWhile (List.mem_reverse.mpr hc) hp)

/-- Only characters that satisfy `p` are taken off. -/
theorem mem_strip (hc : c ∈ s) (hp : p c = false) : c ∈ strip p s :=
  mem_rdropWhile (mem_dropWhile hc hp) hp

/-- Nothing is taken off before a character that stays. -/
theorem rdropWhile_append_cons (hc : p c = false) (before s : List Char) :
    (before ++ c :: s).rdropWhile p = before ++ c :: s.rdropWhile p := by
  induction s using List.reverseRecOn with
  | nil => exact List.rdropWhile_concat_neg p before c (Bool.eq_false_iff.mp hc)
  | append_singleton s d ih =>
    rw [← List.cons_append, ← List.append_assoc]
    by_cases hd : p d = true
    · rw [List.rdropWhile_concat_pos p _ d hd, ih, List.rdropWhile_concat_pos p s d hd]
    · rw [List.rdropWhile_concat_neg p _ d hd, List.rdropWhile_concat_neg p s d hd,
        List.append_assoc, List.cons_append]

theorem strip_cons (hc : p c = true) (s : List Char) : strip p (c :: s) = strip p s := by
  rw [strip, List.dropWhile_cons_of_pos hc, strip]

/-- The order in which the ends are taken off does not count. -/
theorem strip_rdropWhile (s : List Char) : strip p (s.rdropWhile p) = strip p s := by
  induction s using List.reverseRecOn with
  | nil => rfl
  | append_singleton s c ih =>
    by_cases hc : p c = true
    · have hdrop : strip p (s ++ [c]) = strip p s := by
        by_cases hall : ∀ d ∈ s, p d = true
        · have hone : s.dropWhile p = [] := List.dropWhile_eq_nil_iff.mpr hall
          rw [strip, strip, List.dropWhile_append, hone]
          simp [hc]
        · have hne : (s.dropWhile p).isEmpty = false := by
            rw [Bool.eq_false_iff, ne_eq, List.isEmpty_iff, List.dropWhile_eq_nil_iff]
            exact hall
          rw [strip, List.dropWhile_append, hne, if_neg Bool.false_ne_true,
            List.rdropWhile_concat_pos p _ c hc, strip]
      rw [List.rdropWhile_concat_pos p s c hc, ih, hdrop]
    · rw [List.rdropWhile_concat_neg p s c hc]

theorem strip_dropWhile (s : List Char) : strip p (s.dropWhile p) = strip p s := by
  induction s with
  | nil => rfl
  | cons c s ih =>
    by_cases hc : p c = true
    · rw [List.dropWhile_cons_of_pos hc, ih, strip_cons hc]
    · rw [List.dropWhile_cons_of_neg hc]

theorem strip_strip (s : List Char) : strip p (strip p s) = strip p s :=
  (strip_rdropWhile _).trans (strip_dropWhile s)

/-- Only the outer ends are stripped of what is before and after a character that stays. -/
theorem strip_append_cons {before after : List Char} (hc : p c = false) :
    strip p (before ++ c :: after) = before.dropWhile p ++ c :: after.rdropWhile p := by
  rw [strip, ← rdropWhile_append_cons hc]
  induction before with
  | nil => rw [List.nil_append, List.dropWhile_cons_of_neg (by simp [hc])]; rfl
  | cons d before ih =>
    by_cases hd : p d = true
    · rw [List.cons_append, List.dropWhile_cons_of_pos hd, List.dropWhile_cons_of_pos hd, ih]
    · rw [List.cons_append, List.dropWhile_cons_of_neg hd, List.dropWhile_cons_of_neg hd]
      rfl

/-- A text is split alike with and without what is taken off at its ends. -/
theorem splitOnce_strip {r : Char → Bool} (hr : ∀ c, r c = true → p c = false) (s : List Char) :
    (splitOnce r (strip p s)).map (fun q => (strip p q.1, strip p q.2)) =
      (splitOnce r s).map fun q => (strip p q.1, strip p q.2) := by
  cases hs : splitOnce r s with
  | none =>
    rw [splitOnce_eq_none]
    intro c hc
    refine forall_of_splitOnce_eq_none hs c ?_
    exact (List.dropWhile_sublist p).subset ((List.rdropWhile_prefix p _).sublist.subset hc)
  | some q =>
    obtain ⟨c, hc, heq⟩ := eq_of_splitOnce hs
    have hbefore := forall_before_of_splitOnce hs
    rw [heq, strip_append_cons (hr c hc), splitOnce_append _ hc, Option.map_some, Option.map_some,
      strip_dropWhile, strip_rdropWhile]
    exact fun d hd => hbefore d ((List.dropWhile_sublist p).subset hd)

theorem words_cons (hc : p c = true) : words p (c :: s) = words p s := by
  unfold words
  rw [List.splitOnP_cons_eq_if_modifyHead, if_pos hc]
  rfl

theorem words_concat (hc : p c = true) : words p (s ++ [c]) = words p s := by
  unfold words
  rw [List.splitOnP_append_cons s [] hc, List.filter_append, List.splitOnP_nil]
  exact List.append_nil _

theorem words_dropWhile (h : ∀ c, q c = true → p c = true) (s : List Char) :
    words p (s.dropWhile q) = words p s := by
  induction s with
  | nil => rfl
  | cons c s ih =>
    rw [List.dropWhile_cons]
    split
    · next hc => rw [ih, words_cons (h c hc)]
    · rfl

theorem words_rdropWhile (h : ∀ c, q c = true → p c = true) (s : List Char) :
    words p (s.rdropWhile q) = words p s := by
  induction s using List.reverseRecOn with
  | nil => rfl
  | append_singleton s c ih =>
    by_cases hc : q c = true
    · rw [List.rdropWhile_concat_pos q s c hc, ih, words_concat (h c hc)]
    · rw [List.rdropWhile_concat_neg q s c hc]

/-- The words stay when separators are taken off at the ends. -/
theorem words_strip (h : ∀ c, q c = true → p c = true) (s : List Char) :
    words p (strip q s) = words p s :=
  (words_rdropWhile h _).trans (words_dropWhile h s)

theorem words_congr (h : ∀ c ∈ s, p c = q c) : words p s = words q s := by
  have hsplit : s.splitOnP p = s.splitOnP q := by
    induction s with
    | nil => rfl
    | cons d s ih =>
      rw [List.splitOnP_cons_eq_if_modifyHead, List.splitOnP_cons_eq_if_modifyHead,
        h d List.mem_cons_self, ih fun c hc => h c (List.mem_cons_of_mem d hc)]
  rw [words, words, hsplit]

theorem mem_of_mem_splitOnP {part : List Char} (hpart : part ∈ s.splitOnP p) (hc : c ∈ part) :
    c ∈ s := by
  induction s generalizing part with
  | nil =>
    rw [List.splitOnP_nil, List.mem_singleton] at hpart
    rwa [hpart] at hc
  | cons d s ih =>
    rw [List.splitOnP_cons_eq_if_modifyHead] at hpart
    split at hpart
    · rcases List.mem_cons.mp hpart with rfl | hpart
      · cases hc
      · exact List.mem_cons_of_mem d (ih hpart hc)
    · obtain ⟨first, rest, hs⟩ := List.exists_cons_of_ne_nil (List.splitOnP_ne_nil p s)
      rw [hs, List.modifyHead_cons] at hpart
      rw [hs] at ih
      rcases List.mem_cons.mp hpart with rfl | hpart
      · rcases List.mem_cons.mp hc with rfl | hc
        · exact List.mem_cons_self
        · exact List.mem_cons_of_mem d (ih List.mem_cons_self hc)
      · exact List.mem_cons_of_mem d (ih (List.mem_cons_of_mem first hpart) hc)

theorem mem_of_mem_words {w : List Char} (hw : w ∈ words p s) (hc : c ∈ w) : c ∈ s :=
  mem_of_mem_splitOnP (List.mem_filter.mp hw).1 hc

/-- A character that separates no words is in one. -/
theorem exists_word (hc : c ∈ s) (hp : p c = false) : ∃ w ∈ words p s, c ∈ w := by
  have hpart : ∃ part ∈ s.splitOnP p, c ∈ part := by
    induction s with
    | nil => cases hc
    | cons d s ih =>
      rw [List.splitOnP_cons_eq_if_modifyHead]
      split
      · next hd =>
        rcases List.mem_cons.mp hc with rfl | hc
        · exact absurd hd (Bool.eq_false_iff.mp hp)
        · obtain ⟨part, hpart, hin⟩ := ih hc
          exact ⟨part, List.mem_cons_of_mem _ hpart, hin⟩
      · obtain ⟨first, rest, hs⟩ := List.exists_cons_of_ne_nil (List.splitOnP_ne_nil p s)
        rw [hs, List.modifyHead_cons]
        rcases List.mem_cons.mp hc with rfl | hc
        · exact ⟨_, List.mem_cons_self, List.mem_cons_self⟩
        · obtain ⟨part, hpart, hin⟩ := ih hc
          rw [hs] at hpart
          rcases List.mem_cons.mp hpart with rfl | hpart
          · exact ⟨_, List.mem_cons_self, List.mem_cons_of_mem d hin⟩
          · exact ⟨part, List.mem_cons_of_mem _ hpart, hin⟩
  obtain ⟨part, hpart, hin⟩ := hpart
  exact ⟨part, List.mem_filter.mpr ⟨hpart, decide_eq_true (List.ne_nil_of_mem hin)⟩, hin⟩

end

end Text
