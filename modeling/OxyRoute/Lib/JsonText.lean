import OxyRoute.Lib.Decimal
import OxyRoute.Lib.Json

/-!
# JSON texts

The grammar of RFC 8259 as a reader that takes a value from the front of a text. Numbers without
fraction and exponent are integers of any size, the others doubles. The members of an object come
in the order of the text.

## Main definitions

- `JsonText.number`, `JsonText.readString`, `JsonText.readValue` — the reader
- `JsonText.Reads` — a text starts with a value
- `JsonText.Denotes` — a text is one value, with white space around it
- `JsonText.PlainToken` — strings spelled character by character
- `JsonText.Spells`, `JsonText.Broken` — pieces of text that are read as a value in every place,
  and in none

## Main results

- `JsonText.Reads.unique` — no text is read in two ways
- `JsonText.spells_arr`, `JsonText.spells_obj` — how arrays and objects are spelled
- `JsonText.broken_arr`, `JsonText.broken_obj` — a broken item breaks the whole
- `JsonText.spellsIff_arr`, `JsonText.spellsIff_obj` — an array or object is read if its items are
-/

namespace JsonText

open Text

-- ════════════════════════════════════════════════════════════════════════
-- Numbers
-- ════════════════════════════════════════════════════════════════════════

/-- White space. -/
def isSpace (c : Char) : Bool := c == ' ' || c == '\t' || c == '\n' || c == '\r'

def skipSpace (s : List Char) : List Char := s.dropWhile isSpace

/-- The characters of numbers. -/
def isNumberChar (c : Char) : Bool :=
  c.isDigit || c == '-' || c == '+' || c == '.' || c == 'e' || c == 'E'

/-- A number without its minus sign. -/
def unsigned : List Char → List Char
  | '-' :: s => s
  | s => s

/-- At least one digit. -/
def isDigits (s : List Char) : Bool := s ≠ [] && s.all Char.isDigit

/-- Digits with an optional sign. -/
def isExponent : List Char → Bool
  | '-' :: s => isDigits s
  | '+' :: s => isDigits s
  | s => isDigits s

/-- What comes before the exponent, and the exponent. -/
def splitExponent (s : List Char) : List Char × Option (List Char) :=
  match splitOnce (fun c => c == 'e' || c == 'E') s with
  | some (mantissa, exponent) => (mantissa, some exponent)
  | none => (s, none)

/-- The integer part and the fraction. -/
def splitFraction (s : List Char) : List Char × Option (List Char) :=
  match splitOnce (· == '.') s with
  | some (whole, fraction) => (whole, some fraction)
  | none => (s, none)

/-- The integer part has no leading zero, and a fraction and an exponent have digits. -/
def IsNumber (s : List Char) : Prop :=
  Decimal.Numeral (splitFraction (splitExponent (unsigned s)).1).1 ∧
    (splitFraction (splitExponent (unsigned s)).1).2.all isDigits = true ∧
    (splitExponent (unsigned s)).2.all isExponent = true

/-- The text is a numeral. -/
def isNumeral : List Char → Bool
  | [] => false
  | c :: s => (s == [] || c != '0') && (c :: s).all Char.isDigit

theorem isNumeral_iff {s : List Char} : isNumeral s = true ↔ Decimal.Numeral s := by
  cases s with
  | nil =>
    constructor
    · rintro ⟨⟩
    · exact fun h => absurd rfl h.ne_nil
  | cons c s =>
    rw [isNumeral, Bool.and_eq_true, Bool.or_eq_true, beq_iff_eq, bne_iff_ne, List.all_eq_true]
    constructor
    · rintro ⟨hzero, hdigits⟩
      refine ⟨List.cons_ne_nil _ _, fun hlt hc => ?_, hdigits⟩
      rcases hzero with rfl | hzero
      · exact absurd hlt (lt_irrefl 1)
      · exact hzero (Option.some.inj hc)
    · intro h
      refine ⟨?_, h.digits⟩
      by_cases hs : s = []
      · exact .inl hs
      · have hlength : 1 < (c :: s).length :=
          Nat.succ_lt_succ (List.length_pos_iff.mpr hs)
        exact .inr fun hc => h.noLeadingZero hlength (congrArg some hc)

instance (s : List Char) : Decidable (Decimal.Numeral s) := decidable_of_iff _ isNumeral_iff

instance (s : List Char) : Decidable (IsNumber s) :=
  inferInstanceAs (Decidable (_ ∧ _ ∧ _))

/-- A number without fraction and exponent. -/
def isInteger (s : List Char) : Bool :=
  (splitExponent (unsigned s)).2.isNone && (splitFraction (unsigned s)).2.isNone

/-- The value of a number: an integer, or the nearest double. -/
def number (s : List Char) : Option Json :=
  if IsNumber s then
    if isInteger s then some (.int (Decimal.intValue s))
    else (F64.parse (String.ofList s)).map .float
  else none

/-- A number at the front of a text. -/
def readNumber (s : List Char) : Option (Json × List Char) :=
  (number (s.takeWhile isNumberChar)).map fun j => (j, s.dropWhile isNumberChar)

-- ════════════════════════════════════════════════════════════════════════
-- Strings
-- ════════════════════════════════════════════════════════════════════════

/-- A character of a string, or the code unit of a `\u` escape. -/
inductive Piece
  | char (c : Char)
  | unit (n : ℕ)

def hexValue (c : Char) : Option ℕ :=
  if c.isDigit then some (c.toNat - 48)
  else if 'a' ≤ c ∧ c ≤ 'f' then some (c.toNat - 87)
  else if 'A' ≤ c ∧ c ≤ 'F' then some (c.toNat - 55)
  else none

/-- Four hexadecimal digits. -/
def hexUnit (a b c d : Char) : Option ℕ := do
  return (((← hexValue a) * 16 + (← hexValue b)) * 16 + (← hexValue c)) * 16 + (← hexValue d)

/-- What a backslash and a character stand for. -/
def unescape : Char → Option Char
  | '"' => some '"'
  | '\\' => some '\\'
  | '/' => some '/'
  | 'b' => some (Char.ofNat 8)
  | 'f' => some (Char.ofNat 12)
  | 'n' => some '\n'
  | 'r' => some '\r'
  | 't' => some '\t'
  | _ => none

/-- A piece, and the rest of the string. -/
def consPiece (piece : Piece) (rest : Option (List Piece × List Char)) :
    Option (List Piece × List Char) :=
  rest.map fun p => (piece :: p.1, p.2)

/-- The pieces up to the closing quote, and what comes after it. -/
def readPieces : List Char → Option (List Piece × List Char)
  | [] => none
  | '"' :: s => some ([], s)
  | '\\' :: 'u' :: a :: b :: c :: d :: s =>
    (hexUnit a b c d).bind fun n => consPiece (.unit n) (readPieces s)
  | '\\' :: c :: s => (unescape c).bind fun c => consPiece (.char c) (readPieces s)
  | c :: s => if c.toNat < 32 ∨ c = '\\' then none else consPiece (.char c) (readPieces s)

def isHighSurrogate (n : ℕ) : Bool := 0xd800 ≤ n && n < 0xdc00

def isLowSurrogate (n : ℕ) : Bool := 0xdc00 ≤ n && n < 0xe000

/-- The character of a code unit. The grammar allows a lone surrogate, which stands for no
character. -/
def charOfUnit (n : ℕ) : Char :=
  if isHighSurrogate n || isLowSurrogate n then Char.ofNat 0xfffd else Char.ofNat n

/-- The characters of the pieces, surrogate pairs taken together. -/
def decodePieces : List Piece → List Char
  | [] => []
  | .char c :: pieces => c :: decodePieces pieces
  | .unit hi :: .unit lo :: pieces =>
    if isHighSurrogate hi && isLowSurrogate lo then
      Char.ofNat (0x10000 + (hi - 0xd800) * 0x400 + (lo - 0xdc00)) :: decodePieces pieces
    else charOfUnit hi :: decodePieces (.unit lo :: pieces)
  | .unit n :: pieces => charOfUnit n :: decodePieces pieces

/-- The rest of a string after its opening quote. -/
def readString (s : List Char) : Option (String × List Char) :=
  (readPieces s).map fun p => (String.ofList (decodePieces p.1), p.2)

-- ════════════════════════════════════════════════════════════════════════
-- Values
-- ════════════════════════════════════════════════════════════════════════

/-- A reader of something at the front of a text. -/
abbrev Reader (α : Type) := List Char → Option (α × List Char)

/-- One or more elements with commas between them, and the closing character. -/
def readSeq {α : Type} (element : Reader α) (close : Char) : ℕ → Reader (List α)
  | 0, _ => none
  | n + 1, s => do
    let (a, r) ← element s
    match skipSpace r with
    | [] => none
    | c :: r' =>
      if c = close then some ([a], r')
      else if c = ',' then (readSeq element close n (skipSpace r')).map fun p => (a :: p.1, p.2)
      else none

/-- A colon and the value of the member of this name. -/
def readMemberValue (value : Reader Json) (k : String) : Reader (String × Json) :=
  fun s => match skipSpace s with
    | ':' :: r => (value (skipSpace r)).map fun p => ((k, p.1), p.2)
    | _ => none

/-- A member of an object. -/
def readMember (value : Reader Json) : Reader (String × Json)
  | '"' :: s => (readString s).bind fun p => readMemberValue value p.1 p.2
  | _ => none

/-- The elements between two brackets, or none. -/
def readBrackets {α : Type} (element : Reader α) (close : Char) (n : ℕ) : Reader (List α) :=
  fun s => match skipSpace s with
    | [] => none
    | c :: r => if c = close then some ([], r) else readSeq element close n (c :: r)

/-- A value, with a reader for the values in it. -/
def readWith (value : Reader Json) (n : ℕ) : Reader Json
  | 'n' :: 'u' :: 'l' :: 'l' :: r => some (.null, r)
  | 't' :: 'r' :: 'u' :: 'e' :: r => some (.bool true, r)
  | 'f' :: 'a' :: 'l' :: 's' :: 'e' :: r => some (.bool false, r)
  | '"' :: r => (readString r).map fun p => (.str p.1, p.2)
  | '[' :: r => (readBrackets value ']' n r).map fun p => (.arr p.1, p.2)
  | '{' :: r => (readBrackets (readMember value) '}' n r).map fun p => (.obj p.1, p.2)
  | s => readNumber s

/-- A value that is no deeper, with arrays and objects no longer, than the fuel. -/
def readValue : ℕ → Reader Json
  | 0 => fun _ => none
  | n + 1 => readWith (readValue n) n

/-- With enough fuel the text starts with this, and the rest comes after it. -/
def ReadsBy {α : Type} (element : ℕ → Reader α) (s : List Char) (a : α) (r : List Char) : Prop :=
  ∃ n, element n s = some (a, r)

/-- The text starts with the value, and the rest comes after it. -/
abbrev Reads (s : List Char) (j : Json) (r : List Char) : Prop := ReadsBy readValue s j r

/-- The text is the value, with white space around it. -/
def Denotes (s : List Char) (j : Json) : Prop := ∃ r, Reads (skipSpace s) j r ∧ skipSpace r = []

/-- A text of the grammar. -/
def WellFormed (s : List Char) : Prop := ∃ j, Denotes s j

-- ════════════════════════════════════════════════════════════════════════
-- More fuel
-- ════════════════════════════════════════════════════════════════════════

/-- Whatever the one reader reads, the other reads alike. -/
def Extends {α : Type} (f g : Reader α) : Prop := ∀ s p, f s = some p → g s = some p

section

variable {α : Type} {f g : Reader α} {close : Char} {n n' : ℕ}

theorem readSeq_eq_some_iff {s r : List Char} {l : List α} :
    readSeq f close (n + 1) s = some (l, r) ↔ ∃ a r₁ c r₂, f s = some (a, r₁) ∧
      skipSpace r₁ = c :: r₂ ∧ (c = close ∧ l = [a] ∧ r = r₂ ∨ c ≠ close ∧ c = ',' ∧
        ∃ l', readSeq f close n (skipSpace r₂) = some (l', r) ∧ l = a :: l') := by
  constructor
  · intro h
    rw [readSeq] at h
    obtain ⟨⟨a, r₁⟩, ha, h⟩ := Option.bind_eq_some_iff.mp h
    dsimp only at h
    split at h
    · cases h
    · next c r₂ hr =>
      refine ⟨a, r₁, c, r₂, ha, hr, ?_⟩
      split at h
      · next hclose =>
        cases h
        exact .inl ⟨hclose, rfl, rfl⟩
      · next hclose =>
        split at h
        · next hcomma =>
          obtain ⟨p, hp, hl⟩ := Option.map_eq_some_iff.mp h
          cases hl
          exact .inr ⟨hclose, hcomma, p.1, hp, rfl⟩
        · cases h
  · rintro ⟨a, r₁, c, r₂, ha, hr, hrest⟩
    rw [readSeq, ha]
    dsimp only [Option.bind_eq_bind, Option.bind_some]
    rw [hr]
    dsimp only
    rcases hrest with ⟨hclose, rfl, rfl⟩ | ⟨hclose, hcomma, l', hl', rfl⟩
    · rw [if_pos hclose]
    · rw [if_neg hclose, if_pos hcomma, hl']
      rfl

theorem readSeq_extends (h : Extends f g) (hn : n ≤ n') :
    Extends (readSeq f close n) (readSeq g close n') := by
  induction n generalizing n' with
  | zero =>
    rintro s p ⟨⟩
  | succ n ih =>
    obtain ⟨n', rfl⟩ : ∃ k, n' = k + 1 := ⟨n' - 1, by omega⟩
    rintro s ⟨l, r⟩ hread
    obtain ⟨a, r₁, c, r₂, ha, hr, hrest⟩ := readSeq_eq_some_iff.mp hread
    apply readSeq_eq_some_iff.mpr
    refine ⟨a, r₁, c, r₂, h s _ ha, hr, ?_⟩
    rcases hrest with hlast | ⟨hclose, hcomma, l', hl', hl⟩
    · exact .inl hlast
    · exact .inr ⟨hclose, hcomma, l', ih (by omega) _ _ hl', hl⟩

theorem readBrackets_extends (h : Extends f g) (hn : n ≤ n') :
    Extends (readBrackets f close n) (readBrackets g close n') := by
  intro s p hread
  unfold readBrackets at hread ⊢
  split
  · next hs =>
    rw [hs] at hread
    cases hread
  · next c r hs =>
    rw [hs] at hread
    dsimp only at hread
    split
    · next hclose => rwa [if_pos hclose] at hread
    · next hclose =>
      rw [if_neg hclose] at hread
      exact readSeq_extends h hn _ _ hread

end

theorem readMember_extends {f g : Reader Json} (h : Extends f g) :
    Extends (readMember f) (readMember g) := by
  intro s p hread
  unfold readMember at hread ⊢
  split at hread
  · next s =>
    obtain ⟨q, hk, hread⟩ := Option.bind_eq_some_iff.mp hread
    refine Option.bind_eq_some_iff.mpr ⟨q, hk, ?_⟩
    unfold readMemberValue at hread ⊢
    split
    · next r hr =>
      rw [hr] at hread
      obtain ⟨v, hv, hp⟩ := Option.map_eq_some_iff.mp hread
      rw [h _ _ hv, Option.map_some, hp]
    · next hno =>
      split at hread
      · next r hr => exact absurd hr (hno r)
      · cases hread
  · cases hread

theorem readWith_extends {f g : Reader Json} {n n' : ℕ} (h : Extends f g) (hn : n ≤ n') :
    Extends (readWith f n) (readWith g n') := by
  have hmap {α : Type} {f g : Reader α} (h : Extends f g) (k : α → Json) {s : List Char}
      {p : Json × List Char} (hread : (f s).map (fun p => (k p.1, p.2)) = some p) :
      (g s).map (fun p => (k p.1, p.2)) = some p := by
    obtain ⟨q, hq, hp⟩ := Option.map_eq_some_iff.mp hread
    rw [h _ _ hq, Option.map_some, hp]
  intro s p hread
  unfold readWith at hread
  split at hread
  · exact hread
  · exact hread
  · exact hread
  · exact hread
  · exact hmap (readBrackets_extends h hn) .arr hread
  · exact hmap (readBrackets_extends (readMember_extends h) hn) .obj hread
  · next hnull htrue hfalse hstr harr hobj =>
    rw [readWith]
    · exact hread
    · exact hnull
    · exact htrue
    · exact hfalse
    · exact hstr
    · exact harr
    · exact hobj

theorem readValue_extends {n n' : ℕ} (hn : n ≤ n') : Extends (readValue n) (readValue n') := by
  induction n generalizing n' with
  | zero => rintro s p ⟨⟩
  | succ n ih =>
    obtain ⟨n', rfl⟩ : ∃ k, n' = k + 1 := ⟨n' - 1, by omega⟩
    exact readWith_extends (ih (by omega)) (by omega)

-- ════════════════════════════════════════════════════════════════════════
-- Elements
-- ════════════════════════════════════════════════════════════════════════

/-- The members of objects. -/
def member (n : ℕ) : Reader (String × Json) := readMember (readValue n)

/-- A character an element may start with: no white space, no closing bracket. -/
def Starts (s : List Char) : Prop :=
  ∃ c s', s = c :: s' ∧ isSpace c = false ∧ c ≠ ']' ∧ c ≠ '}'

/-- A reader of elements reads more with more fuel, and nothing that cannot start an element. -/
structure Elements {α : Type} (element : ℕ → Reader α) : Prop where
  grows : ∀ n n', n ≤ n' → Extends (element n) (element n')
  starts : ∀ n s p, element n s = some p → Starts s

theorem number_nil : number [] = none := by decide

/-- A number starts with a character of numbers. -/
theorem readNumber_starts {s : List Char} {p : Json × List Char} (h : readNumber s = some p) :
    Starts s := by
  unfold readNumber at h
  cases s with
  | nil =>
    rw [List.takeWhile_nil, number_nil] at h
    cases h
  | cons c s =>
    by_cases hc : isNumberChar c = true
    · refine ⟨c, s, rfl, ?_, ?_, ?_⟩
      · rw [Bool.eq_false_iff]
        intro hspace
        simp only [isSpace, Bool.or_eq_true, beq_iff_eq] at hspace
        rcases hspace with ((rfl | rfl) | rfl) | rfl
        all_goals exact absurd hc (by decide)
      · rintro rfl
        exact absurd hc (by decide)
      · rintro rfl
        exact absurd hc (by decide)
    · rw [List.takeWhile_cons_of_neg hc, number_nil] at h
      cases h

theorem elements_readValue : Elements readValue where
  grows n n' hn := readValue_extends hn
  starts n s p h := by
    have hstart {c : Char} {s : List Char} (hspace : isSpace c = false) (harr : c ≠ ']')
        (hobj : c ≠ '}') : Starts (c :: s) := ⟨c, s, rfl, hspace, harr, hobj⟩
    cases n with
    | zero => cases h
    | succ n =>
      unfold readValue readWith at h
      split at h
      · exact hstart (by decide) (by decide) (by decide)
      · exact hstart (by decide) (by decide) (by decide)
      · exact hstart (by decide) (by decide) (by decide)
      · exact hstart (by decide) (by decide) (by decide)
      · exact hstart (by decide) (by decide) (by decide)
      · exact hstart (by decide) (by decide) (by decide)
      · exact readNumber_starts h

theorem elements_member : Elements member where
  grows n n' hn := readMember_extends (readValue_extends hn)
  starts n s p h := by
    unfold member readMember at h
    split at h
    · exact ⟨_, _, rfl, by decide, by decide, by decide⟩
    · cases h

theorem Starts.skipSpace {s : List Char} (h : Starts s) : skipSpace s = s := by
  obtain ⟨c, s', rfl, hspace, -, -⟩ := h
  exact List.dropWhile_cons_of_neg (Bool.eq_false_iff.mp hspace)

theorem Starts.append {s : List Char} (h : Starts s) (r : List Char) : Starts (s ++ r) := by
  obtain ⟨c, s', rfl, hc⟩ := h
  exact ⟨c, s' ++ r, rfl, hc⟩

section

variable {α : Type} {element : ℕ → Reader α} {s r : List Char} {a : α}

/-- Nothing is read in two ways. -/
theorem ReadsBy.unique (helement : Elements element) {a' : α} {r' : List Char}
    (h : ReadsBy element s a r) (h' : ReadsBy element s a' r') : a = a' ∧ r = r' := by
  obtain ⟨n, hn⟩ := h
  obtain ⟨n', hn'⟩ := h'
  have hmax := helement.grows n (max n n') (le_max_left n n') s _ hn
  rw [helement.grows n' (max n n') (le_max_right n n') s _ hn'] at hmax
  cases hmax
  exact ⟨rfl, rfl⟩

theorem ReadsBy.starts (helement : Elements element) (h : ReadsBy element s a r) : Starts s :=
  h.elim fun n hn => helement.starts n s _ hn

/-- A sequence of elements. -/
def seq (element : ℕ → Reader α) (close : Char) (n : ℕ) : Reader (List α) :=
  readSeq (element n) close n

/-- The elements between brackets. -/
def brackets (element : ℕ → Reader α) (close : Char) (n : ℕ) : Reader (List α) :=
  readBrackets (element n) close n

variable {close : Char} {l : List α}

/-- A sequence is read element by element. -/
theorem seq_iff (helement : Elements element) :
    ReadsBy (seq element close) s l r ↔ ∃ a r₁ c r₂, ReadsBy element s a r₁ ∧
      skipSpace r₁ = c :: r₂ ∧ (c = close ∧ l = [a] ∧ r = r₂ ∨ c ≠ close ∧ c = ',' ∧
        ∃ l', ReadsBy (seq element close) (skipSpace r₂) l' r ∧ l = a :: l') := by
  constructor
  · rintro ⟨n, hn⟩
    cases n with
    | zero => cases hn
    | succ n =>
      obtain ⟨a, r₁, c, r₂, ha, hr, hrest⟩ := readSeq_eq_some_iff.mp hn
      refine ⟨a, r₁, c, r₂, ⟨_, ha⟩, hr, hrest.imp_right ?_⟩
      rintro ⟨hclose, hcomma, l', hl', rfl⟩
      have hmore := readSeq_extends (fun _ _ h => h) (Nat.le_succ n) _ _ hl'
      exact ⟨hclose, hcomma, l', ⟨n + 1, hmore⟩, rfl⟩
  · rintro ⟨a, r₁, c, r₂, ⟨n, ha⟩, hr, hrest⟩
    rcases hrest with hlast | ⟨hclose, hcomma, l', ⟨n', hl'⟩, rfl⟩
    · have hfirst := helement.grows n (n + 1) (Nat.le_succ n) s _ ha
      exact ⟨n + 1, readSeq_eq_some_iff.mpr ⟨a, r₁, c, r₂, hfirst, hr, .inl hlast⟩⟩
    · let k := max n n'
      have hfirst := helement.grows n (k + 1) (by omega) s _ ha
      have hmore : Extends (element n') (element (k + 1)) := helement.grows n' (k + 1) (by omega)
      have hrest := readSeq_extends hmore (le_max_right n n') _ _ hl'
      exact ⟨k + 1, readSeq_eq_some_iff.mpr
        ⟨a, r₁, c, r₂, hfirst, hr, .inr ⟨hclose, hcomma, l', hrest, rfl⟩⟩⟩

theorem brackets_iff :
    ReadsBy (brackets element close) s l r ↔ ∃ c r₁, skipSpace s = c :: r₁ ∧
      (c = close ∧ l = [] ∧ r = r₁ ∨ c ≠ close ∧ ReadsBy (seq element close) (c :: r₁) l r) := by
  unfold ReadsBy brackets readBrackets seq
  constructor
  · rintro ⟨n, hn⟩
    split at hn
    · cases hn
    · next c r₁ hs =>
      refine ⟨c, r₁, hs, ?_⟩
      split at hn
      · next hclose =>
        cases hn
        exact .inl ⟨hclose, rfl, rfl⟩
      · next hclose => exact .inr ⟨hclose, n, hn⟩
  · rintro ⟨c, r₁, hs, ⟨hclose, rfl, rfl⟩ | ⟨hclose, n, hn⟩⟩
    · refine ⟨0, ?_⟩
      rw [hs]
      exact if_pos hclose
    · refine ⟨n, ?_⟩
      rw [hs]
      exact (if_neg hclose).trans hn

end

/-- A value whose reader builds it from what another reader reads. -/
theorem reads_map_iff {α : Type} {element : ℕ → Reader α} {build : α → Json} {s s' r : List Char}
    {j : Json} (hbuild : ∀ n, readValue (n + 1) s = (element n s').map fun p => (build p.1, p.2)) :
    Reads s j r ↔ ∃ a, ReadsBy element s' a r ∧ j = build a := by
  constructor
  · rintro ⟨n, hn⟩
    cases n with
    | zero => cases hn
    | succ n =>
      rw [hbuild] at hn
      obtain ⟨p, hp, heq⟩ := Option.map_eq_some_iff.mp hn
      cases heq
      exact ⟨p.1, ⟨n, hp⟩, rfl⟩
  · rintro ⟨a, ⟨n, hn⟩, rfl⟩
    refine ⟨n + 1, ?_⟩
    rw [hbuild]
    exact Option.map_eq_some_iff.mpr ⟨_, hn, rfl⟩

theorem reads_arr_iff {s r : List Char} {j : Json} :
    Reads ('[' :: s) j r ↔ ∃ l, ReadsBy (brackets readValue ']') s l r ∧ j = .arr l :=
  reads_map_iff fun _ => rfl

theorem reads_obj_iff {s r : List Char} {j : Json} :
    Reads ('{' :: s) j r ↔ ∃ l, ReadsBy (brackets member '}') s l r ∧ j = .obj l :=
  reads_map_iff fun _ => rfl

theorem reads_member_iff {s r : List Char} {k : String} {j : Json} :
    ReadsBy member s (k, j) r ↔ ∃ s' r₁ r₂, s = '"' :: s' ∧ readString s' = some (k, r₁) ∧
      skipSpace r₁ = ':' :: r₂ ∧ Reads (skipSpace r₂) j r := by
  constructor
  · rintro ⟨n, hn⟩
    unfold member readMember at hn
    split at hn
    · next s' =>
      obtain ⟨⟨k', r₁⟩, hk, hn⟩ := Option.bind_eq_some_iff.mp hn
      unfold readMemberValue at hn
      split at hn
      · next r₂ hr =>
        obtain ⟨p, hp, heq⟩ := Option.map_eq_some_iff.mp hn
        cases heq
        exact ⟨s', r₁, r₂, rfl, hk, hr, n, hp⟩
      · cases hn
    · cases hn
  · rintro ⟨s', r₁, r₂, rfl, hk, hr, n, hn⟩
    refine ⟨n, Option.bind_eq_some_iff.mpr ⟨_, hk, ?_⟩⟩
    unfold readMemberValue
    rw [hr]
    exact Option.map_eq_some_iff.mpr ⟨_, hn, rfl⟩

-- ════════════════════════════════════════════════════════════════════════
-- Spelling
-- ════════════════════════════════════════════════════════════════════════

/-- The text is no continuation of a number. -/
def Ends (r : List Char) : Prop := ∀ c ∈ r.head?, isNumberChar c = false

/-- Wherever the piece of text stands, it is read as this element. -/
def Spells {α : Type} (element : ℕ → Reader α) (t : List Char) (a : α) : Prop :=
  ∀ r, Ends r → ReadsBy element (t ++ r) a r

/-- Wherever the piece of text stands, no element is read from it. -/
def Broken {α : Type} (element : ℕ → Reader α) (t : List Char) : Prop :=
  Starts t ∧ ∀ r a r', ¬ ReadsBy element (t ++ r) a r'

/-- The pieces after the first one, each with a comma and a blank before it. -/
def following (l : List (List Char)) : List Char := l.flatMap fun t => ',' :: ' ' :: t

/-- The pieces with a comma and a blank between them. -/
def separated : List (List Char) → List Char
  | [] => []
  | t :: l => t ++ following l

theorem ends_cons {c : Char} (h : isNumberChar c = false) (r : List Char) : Ends (c :: r) := by
  intro d hd
  cases hd
  exact h

theorem following_cons (t : List Char) (l : List (List Char)) (r : List Char) :
    following (t :: l) ++ r = ',' :: ' ' :: (t ++ (following l ++ r)) := by
  simp [following]

section

variable {α : Type} {element : ℕ → Reader α} {close : Char}

/-- A bracket that closes a sequence. -/
structure Closes (close : Char) : Prop where
  skip : isSpace close = false
  notNumber : isNumberChar close = false
  notComma : close ≠ ','
  notStart : ∀ s, ¬ Starts (close :: s)

theorem closes_arr : Closes ']' where
  skip := by decide
  notNumber := by decide
  notComma := by decide
  notStart := by
    rintro s ⟨c, s', ⟨⟩, -, harr, -⟩
    exact harr rfl

theorem closes_obj : Closes '}' where
  skip := by decide
  notNumber := by decide
  notComma := by decide
  notStart := by
    rintro s ⟨c, s', ⟨⟩, -, -, hobj⟩
    exact hobj rfl

theorem skipSpace_of_not {c : Char} (h : isSpace c = false) (s : List Char) :
    skipSpace (c :: s) = c :: s :=
  List.dropWhile_cons_of_neg (Bool.eq_false_iff.mp h)

theorem skipSpace_blank (s : List Char) : skipSpace (' ' :: s) = skipSpace s :=
  List.dropWhile_cons_of_pos (by decide)

/-- What comes after an element in a sequence does not continue a number. -/
theorem ends_following (hclose : Closes close) (l : List (List Char)) (r : List Char) :
    Ends (following l ++ close :: r) := by
  cases l with
  | nil => exact ends_cons hclose.notNumber r
  | cons t l =>
    rw [following_cons]
    exact ends_cons (by decide) _

/-- Elements with commas between them are read one after the other. -/
theorem spells_seq (helement : Elements element) (hclose : Closes close)
    {l : List (List Char × α)} (hl : ∀ e ∈ l, Spells element e.1 e.2) {t : List Char} {a : α}
    (ha : Spells element t a) (r : List Char) :
    ReadsBy (seq element close) (t ++ (following (l.map Prod.fst) ++ close :: r))
      (a :: l.map Prod.snd) r := by
  induction l generalizing t a with
  | nil =>
    have hfirst := ha _ (ends_following hclose [] r)
    exact (seq_iff helement).mpr ⟨a, _, close, r, hfirst, skipSpace_of_not hclose.skip r,
      .inl ⟨rfl, rfl, rfl⟩⟩
  | cons e l ih =>
    have hfirst := ha _ (ends_following hclose (e.1 :: l.map Prod.fst) r)
    have hrest := ih (fun e' he' => hl e' (List.mem_cons_of_mem _ he')) (hl e List.mem_cons_self)
    rw [following_cons] at hfirst
    rw [List.map_cons, following_cons]
    refine (seq_iff helement).mpr ⟨a, _, ',', _, hfirst, skipSpace_of_not (by decide) _,
      .inr ⟨hclose.notComma.symm, rfl, e.2 :: l.map Prod.snd, ?_, rfl⟩⟩
    obtain ⟨first, r₁, c, r₂, hstart, -⟩ := (seq_iff helement).mp hrest
    rw [skipSpace_blank, (hstart.starts helement).skipSpace]
    exact hrest

theorem spells_brackets (helement : Elements element) (hclose : Closes close)
    {l : List (List Char × α)} (hl : ∀ e ∈ l, Spells element e.1 e.2) (r : List Char) :
    ReadsBy (brackets element close) (separated (l.map Prod.fst) ++ close :: r)
      (l.map Prod.snd) r := by
  apply brackets_iff.mpr
  cases l with
  | nil => exact ⟨close, r, skipSpace_of_not hclose.skip r, .inl ⟨rfl, rfl, rfl⟩⟩
  | cons e l =>
    have hseq := spells_seq helement hclose (fun e' he' => hl e' (List.mem_cons_of_mem _ he'))
      (hl e List.mem_cons_self) r
    obtain ⟨first, r₁, c, r₂, hread, -⟩ := (seq_iff helement).mp hseq
    have hstart := hread.starts helement
    rw [List.map_cons, separated, List.append_assoc, hstart.skipSpace]
    obtain ⟨c, s, hs, -⟩ := id hstart
    refine ⟨c, s, hs, .inr ⟨?_, ?_⟩⟩
    · rintro rfl
      exact hclose.notStart s (hs ▸ hstart)
    · rw [← hs]
      exact hseq

theorem ends_following_append (l : List (List Char)) (t r : List Char) :
    Ends (following (l ++ [t]) ++ r) := by
  cases l with
  | nil =>
    rw [List.nil_append, following_cons]
    exact ends_cons (by decide) _
  | cons t' l =>
    rw [List.cons_append, following_cons]
    exact ends_cons (by decide) _

/-- After the first element of a sequence and a comma the rest of the sequence is read. -/
theorem reads_following (helement : Elements element) (hclose : Closes close) {first : List Char}
    {a : α} (ha : Spells element first a) {t s : List Char} {as : List α} {r : List Char}
    (h : ReadsBy (seq element close) (first ++ ',' :: ' ' :: (t ++ s)) as r)
    (hstart : Starts (t ++ s)) : ∃ as', ReadsBy (seq element close) (t ++ s) as' r := by
  obtain ⟨a', r₁, c, r₂, hread, hr, hrest⟩ := (seq_iff helement).mp h
  obtain ⟨-, rfl⟩ := hread.unique helement (ha _ (ends_cons (by decide) _))
  rw [skipSpace_of_not (by decide)] at hr
  cases hr
  rcases hrest with ⟨hcomma, -⟩ | ⟨-, -, as', has', -⟩
  · exact absurd hcomma.symm hclose.notComma
  · rw [skipSpace_blank, hstart.skipSpace] at has'
    exact ⟨as', has'⟩

/-- Where one element is broken, no sequence is read. -/
theorem broken_seq (helement : Elements element) (hclose : Closes close)
    {l : List (List Char × α)} (hl : ∀ e ∈ l, Spells element e.1 e.2) {t : List Char}
    (ht : Broken element t) {first : List Char} {a : α} (ha : Spells element first a)
    (r : List Char) (as : List α) (r' : List Char) :
    ¬ ReadsBy (seq element close) (first ++ (following (l.map Prod.fst ++ [t]) ++ r)) as r' := by
  induction l generalizing first a as r' with
  | nil =>
    rw [List.map_nil, List.nil_append, following_cons]
    intro h
    obtain ⟨as', has'⟩ := reads_following helement hclose ha h (ht.1.append _)
    obtain ⟨a', r₁, -, -, hbroken, -⟩ := (seq_iff helement).mp has'
    exact ht.2 _ _ _ hbroken
  | cons e l ih =>
    rw [List.map_cons, List.cons_append, following_cons]
    intro h
    have he := hl e List.mem_cons_self
    have hstart := (he _ (ends_following_append (l.map Prod.fst) t r)).starts helement
    obtain ⟨as', has'⟩ := reads_following helement hclose ha h hstart
    exact ih (fun e' he' => hl e' (List.mem_cons_of_mem _ he')) he _ _ has'

theorem broken_brackets (helement : Elements element) (hclose : Closes close)
    {l : List (List Char × α)} (hl : ∀ e ∈ l, Spells element e.1 e.2) {t : List Char}
    (ht : Broken element t) (more : List (List Char)) (r : List Char) (as : List α)
    (r' : List Char) :
    ¬ ReadsBy (brackets element close) (separated (l.map Prod.fst ++ t :: more) ++ r) as r' := by
  intro h
  obtain ⟨c, s, hs, hrest⟩ := brackets_iff.mp h
  cases l with
  | nil =>
    rw [List.map_nil, List.nil_append, separated, List.append_assoc,
      (ht.1.append _).skipSpace] at hs
    rcases hrest with ⟨rfl, -⟩ | ⟨-, hseq⟩
    · exact hclose.notStart s (hs ▸ ht.1.append _)
    · rw [← hs] at hseq
      obtain ⟨a, r₁, -, -, hread, -⟩ := (seq_iff helement).mp hseq
      exact ht.2 _ _ _ hread
  | cons e l =>
    have he := hl e List.mem_cons_self
    have hsplit : separated ((e :: l).map Prod.fst ++ t :: more) ++ r =
        e.1 ++ (following (l.map Prod.fst ++ [t]) ++ (following more ++ r)) := by
      simp [separated, following]
    have hstart := (he _ (ends_following_append (l.map Prod.fst) t (following more ++ r))).starts
      helement
    rw [hsplit, hstart.skipSpace] at hs
    rcases hrest with ⟨rfl, -⟩ | ⟨-, hseq⟩
    · exact hclose.notStart s (hs ▸ hstart)
    · rw [← hs] at hseq
      exact broken_seq helement hclose (fun e' he' => hl e' (List.mem_cons_of_mem _ he')) ht he _ _
        _ hseq

end

-- ════════════════════════════════════════════════════════════════════════
-- Tokens
-- ════════════════════════════════════════════════════════════════════════

theorem spells_null : Spells readValue "null".toList .null :=
  fun _ _ => ⟨1, rfl⟩

theorem spells_bool (b : Bool) : Spells readValue (toString b).toList (.bool b) := by
  cases b with
  | false => exact fun _ _ => ⟨1, rfl⟩
  | true => exact fun _ _ => ⟨1, rfl⟩

theorem isNumberChar_of_isDigit {c : Char} (h : c.isDigit = true) : isNumberChar c = true := by
  unfold isNumberChar
  rw [h]
  rfl

theorem isDigits_chars {s : List Char} (h : isDigits s = true) :
    ∀ c ∈ s, isNumberChar c = true := by
  intro c hc
  unfold isDigits at h
  rw [Bool.and_eq_true, List.all_eq_true] at h
  exact isNumberChar_of_isDigit (h.2 c hc)

theorem isExponent_chars {s : List Char} (h : isExponent s = true) :
    ∀ c ∈ s, isNumberChar c = true := by
  unfold isExponent at h
  split at h
  · exact List.forall_mem_cons.mpr ⟨by decide, isDigits_chars h⟩
  · exact List.forall_mem_cons.mpr ⟨by decide, isDigits_chars h⟩
  · exact isDigits_chars h

theorem splitFraction_chars {s : List Char} (hwhole : Decimal.Numeral (splitFraction s).1)
    (hfraction : (splitFraction s).2.all isDigits = true) :
    (∀ c ∈ s, isNumberChar c = true) ∧ s ≠ [] := by
  have hdigits : ∀ c ∈ (splitFraction s).1, isNumberChar c = true :=
    fun c hc => isNumberChar_of_isDigit (hwhole.digits c hc)
  have hne := hwhole.ne_nil
  unfold splitFraction at hdigits hne hfraction
  split at hdigits
  · next whole fraction hsplit =>
    rw [hsplit] at hfraction
    obtain ⟨c, hc, rfl⟩ := eq_of_splitOnce hsplit
    rw [List.forall_mem_append, List.forall_mem_cons, beq_iff_eq.mp hc]
    exact ⟨⟨hdigits, by decide, isDigits_chars hfraction⟩, by simp⟩
  · next hsplit =>
    rw [hsplit] at hne
    exact ⟨hdigits, hne⟩

theorem splitExponent_chars {s : List Char}
    (hmantissa : (∀ c ∈ (splitExponent s).1, isNumberChar c = true) ∧ (splitExponent s).1 ≠ [])
    (hexponent : (splitExponent s).2.all isExponent = true) :
    (∀ c ∈ s, isNumberChar c = true) ∧ s ≠ [] := by
  unfold splitExponent at hmantissa hexponent
  split at hmantissa
  · next mantissa exponent hsplit =>
    rw [hsplit] at hexponent
    obtain ⟨c, hc, rfl⟩ := eq_of_splitOnce hsplit
    rw [List.forall_mem_append, List.forall_mem_cons]
    refine ⟨⟨hmantissa.1, ?_, isExponent_chars hexponent⟩, by simp⟩
    rw [Bool.or_eq_true, beq_iff_eq, beq_iff_eq] at hc
    rcases hc with rfl | rfl
    · decide
    · decide
  · exact hmantissa

/-- A number is made of characters of numbers, and of at least one. -/
theorem IsNumber.chars {s : List Char} (h : IsNumber s) :
    (∀ c ∈ s, isNumberChar c = true) ∧ s ≠ [] := by
  have hunsigned := splitExponent_chars (splitFraction_chars h.1 h.2.1) h.2.2
  unfold unsigned at hunsigned
  split at hunsigned
  · exact ⟨List.forall_mem_cons.mpr ⟨by decide, hunsigned.1⟩, List.cons_ne_nil _ _⟩
  · exact hunsigned

theorem isNumber_of_number {s : List Char} {j : Json} (h : number s = some j) : IsNumber s := by
  unfold number at h
  split at h
  · assumption
  · cases h

/-- A number that is not continued is read as it is. -/
theorem readNumber_append {t r : List Char} {j : Json} (h : number t = some j) (hr : Ends r) :
    readNumber (t ++ r) = some (j, r) := by
  have hchars := (isNumber_of_number h).chars.1
  have hnone : r.takeWhile isNumberChar = [] ∧ r.dropWhile isNumberChar = r := by
    cases r with
    | nil => exact ⟨rfl, rfl⟩
    | cons c r =>
      have hc : ¬ isNumberChar c = true := Bool.eq_false_iff.mp (hr c rfl)
      exact ⟨List.takeWhile_cons_of_neg hc, List.dropWhile_cons_of_neg hc⟩
  rw [readNumber, List.takeWhile_append_of_pos hchars, List.dropWhile_append_of_pos hchars,
    hnone.1, hnone.2, List.append_nil, h, Option.map_some]

/-- A text that starts like no other value is read as a number. -/
theorem readValue_number {c : Char} (hc : c ∉ ['n', 't', 'f', '"', '[', '{']) (s : List Char)
    (n : ℕ) : readValue (n + 1) (c :: s) = readNumber (c :: s) := by
  have hne {d : Char} {t t' : List Char} (hd : d ∈ ['n', 't', 'f', '"', '[', '{']) :
      c :: t ≠ d :: t' := by
    intro heq
    rw [(List.cons.inj heq).1] at hc
    exact hc hd
  rw [readValue, readWith]
  · exact fun r h => hne (by decide) h
  · exact fun r h => hne (by decide) h
  · exact fun r h => hne (by decide) h
  · exact fun r h => hne (by decide) h
  · exact fun r h => hne (by decide) h
  · exact fun r h => hne (by decide) h

theorem not_mem_of_isNumberChar {c : Char} (hc : isNumberChar c = true) :
    c ∉ ['n', 't', 'f', '"', '[', '{'] := by
  intro hmem
  simp only [List.mem_cons, List.not_mem_nil, or_false] at hmem
  rcases hmem with rfl | rfl | rfl | rfl | rfl | rfl <;> exact absurd hc (by decide)

theorem spells_number {t : List Char} {j : Json} (h : number t = some j) :
    Spells readValue t j := by
  intro r hr
  have hread := readNumber_append h hr
  obtain ⟨hchars, hne⟩ := (isNumber_of_number h).chars
  obtain ⟨c, t', rfl⟩ := List.exists_cons_of_ne_nil hne
  refine ⟨1, ?_⟩
  rw [List.cons_append, readValue_number (not_mem_of_isNumberChar (hchars c List.mem_cons_self))]
  exact hread

/-- A text that starts like a number, but whose first characters are none, is broken. -/
theorem broken_number {c : Char} {t : List Char} (hstart : Starts (c :: t))
    (hc : c ∉ ['n', 't', 'f', '"', '[', '{'])
    (hnumber : ∀ r, number ((c :: (t ++ r)).takeWhile isNumberChar) = none) :
    Broken readValue (c :: t) := by
  refine ⟨hstart, fun r j r' ⟨n, hn⟩ => ?_⟩
  cases n with
  | zero => cases hn
  | succ n =>
    rw [List.cons_append, readValue_number hc, readNumber, hnumber] at hn
    cases hn

/-- There is neither a point nor an exponent among digits. -/
theorem not_mark_of_digits {s : List Char} (h : ∀ c ∈ s, c.isDigit = true) :
    (∀ c ∈ s, (c == 'e' || c == 'E') = false) ∧ ∀ c ∈ s, (c == '.') = false := by
  have hno {d : Char} (hd : d.isDigit = false) : ∀ c ∈ s, (c == d) = false := by
    intro c hc
    rw [beq_eq_false_iff_ne]
    rintro rfl
    rw [h c hc] at hd
    cases hd
  refine ⟨fun c hc => ?_, hno (by decide)⟩
  rw [hno (by decide) c hc, hno (by decide) c hc]
  rfl

theorem splitFraction_of_digits {s : List Char} (h : ∀ c ∈ s, c.isDigit = true) :
    splitFraction s = (s, none) := by
  rw [splitFraction, splitOnce_eq_none (not_mark_of_digits h).2]

theorem splitExponent_of_digits {s : List Char} (h : ∀ c ∈ s, c.isDigit = true) :
    splitExponent s = (s, none) := by
  rw [splitExponent, splitOnce_eq_none (not_mark_of_digits h).1]

/-- The decimal form of an integer is a number that stands for it. -/
theorem number_intChars (i : ℤ) : number (Decimal.intChars i) = some (.int i) := by
  obtain ⟨digits, hdigits, hunsigned⟩ :
      ∃ digits, Decimal.Numeral digits ∧ unsigned (Decimal.intChars i) = digits := by
    unfold Decimal.intChars
    split
    · refine ⟨_, Decimal.numeral_toDigits i.toNat, ?_⟩
      unfold unsigned
      split
      · next heq => exact absurd heq (Decimal.numeral_toDigits i.toNat).ne_minus
      · rfl
    · exact ⟨_, Decimal.numeral_toDigits (-i).toNat, rfl⟩
  have hexponent := splitExponent_of_digits hdigits.digits
  have hfraction := splitFraction_of_digits hdigits.digits
  have hnumber : IsNumber (Decimal.intChars i) := by
    unfold IsNumber
    rw [hunsigned, hexponent]
    dsimp only
    rw [hfraction]
    exact ⟨hdigits, rfl, rfl⟩
  have hinteger : isInteger (Decimal.intChars i) = true := by
    rw [isInteger, hunsigned, hexponent, hfraction]
    rfl
  rw [number, if_pos hnumber, if_pos hinteger, Decimal.intValue_intChars]

/-- The text is a string in quotes. -/
def StringToken (t : List Char) (s : String) : Prop :=
  ∃ t', t = '"' :: t' ∧ readString t' = some (s, [])

/-- What is after a string is not looked at. -/
theorem readPieces_append {s r : List Char} {p : List Piece × List Char}
    (h : readPieces s = some p) : readPieces (s ++ r) = some (p.1, p.2 ++ r) := by
  have hcons {piece : Piece} {s : List Char} {p : List Piece × List Char}
      (ih : ∀ {p}, readPieces s = some p → readPieces (s ++ r) = some (p.1, p.2 ++ r))
      (h : consPiece piece (readPieces s) = some p) :
      consPiece piece (readPieces (s ++ r)) = some (p.1, p.2 ++ r) := by
    obtain ⟨q, hq, rfl⟩ := Option.map_eq_some_iff.mp h
    rw [ih hq]
    rfl
  fun_induction readPieces s generalizing p with
  | case1 => cases h
  | case2 s =>
    cases h
    rfl
  | case3 a b c d s ih =>
    obtain ⟨n, hn, h⟩ := Option.bind_eq_some_iff.mp h
    exact Option.bind_eq_some_iff.mpr ⟨n, hn, hcons ih h⟩
  | case4 c s hu ih =>
    obtain ⟨c', hc', h⟩ := Option.bind_eq_some_iff.mp h
    have hne : c ≠ 'u' := by
      rintro rfl
      cases hc'
    rw [List.cons_append, List.cons_append, readPieces]
    · exact Option.bind_eq_some_iff.mpr ⟨c', hc', hcons ih h⟩
    · exact fun _ _ _ _ _ heq => absurd heq hne
  | case5 c s hquote hu hescape hbad => cases h
  | case6 c s hquote hu hescape hgood ih =>
    rw [List.cons_append, readPieces, if_neg hgood]
    · exact hcons ih h
    · exact hquote
    · exact fun _ _ _ _ _ heq => absurd (Or.inr heq) hgood
    · exact fun _ _ heq => absurd (Or.inr heq) hgood

theorem readString_append {s r r' : List Char} {k : String} (h : readString s = some (k, r)) :
    readString (s ++ r') = some (k, r ++ r') := by
  obtain ⟨p, hp, heq⟩ := Option.map_eq_some_iff.mp h
  cases heq
  rw [readString, readPieces_append hp, Option.map_some]

theorem spells_str {t : List Char} {k : String} (h : StringToken t k) :
    Spells readValue t (.str k) := by
  obtain ⟨t', rfl, ht⟩ := h
  intro r _
  exact ⟨1, Option.map_eq_some_iff.mpr ⟨(k, r), readString_append ht, rfl⟩⟩

/-- A member is spelled by a string, a colon and a blank, and its value. -/
theorem spells_member {t v : List Char} {k : String} {j : Json} (ht : StringToken t k)
    (hv : Spells readValue v j) : Spells member (t ++ (':' :: ' ' :: v)) (k, j) := by
  obtain ⟨t', rfl, ht⟩ := ht
  intro r hr
  have hread := hv r hr
  refine reads_member_iff.mpr ⟨t' ++ (':' :: ' ' :: v) ++ r, _, ' ' :: (v ++ r), rfl, ?_,
    skipSpace_of_not (by decide) _, ?_⟩
  · rw [List.append_assoc]
    exact readString_append ht
  · rw [skipSpace_blank, (hread.starts elements_readValue).skipSpace]
    exact hread

theorem broken_member {t v : List Char} {k : String} (ht : StringToken t k)
    (hv : Broken readValue v) : Broken member (t ++ (':' :: ' ' :: v)) := by
  obtain ⟨t', rfl, ht⟩ := ht
  refine ⟨⟨'"', _, rfl, by decide, by decide, by decide⟩, fun r ⟨k', j⟩ r' h => ?_⟩
  obtain ⟨s', r₁, r₂, hs, hk, hr, hread⟩ := reads_member_iff.mp h
  rw [List.append_assoc, List.cons_append, List.cons.injEq] at hs
  rw [← hs.2, readString_append ht] at hk
  cases hk
  rw [List.nil_append, List.cons_append, List.cons_append, skipSpace_of_not (by decide)] at hr
  cases hr
  rw [skipSpace_blank, (hv.1.append _).skipSpace] at hread
  exact hv.2 _ _ _ hread

theorem bracketed_append (c d : Char) (t r : List Char) :
    c :: (t ++ [d]) ++ r = c :: (t ++ d :: r) := by
  rw [List.cons_append, List.append_assoc, List.singleton_append]

theorem spells_arr {l : List (List Char × Json)} (hl : ∀ e ∈ l, Spells readValue e.1 e.2) :
    Spells readValue ('[' :: (separated (l.map Prod.fst) ++ [']'])) (.arr (l.map Prod.snd)) := by
  intro r _
  have hread := spells_brackets elements_readValue closes_arr hl r
  rw [bracketed_append]
  exact reads_arr_iff.mpr ⟨_, hread, rfl⟩

theorem spells_obj {l : List (List Char × String × Json)} (hl : ∀ e ∈ l, Spells member e.1 e.2) :
    Spells readValue ('{' :: (separated (l.map Prod.fst) ++ ['}'])) (.obj (l.map Prod.snd)) := by
  intro r _
  have hread := spells_brackets elements_member closes_obj hl r
  rw [bracketed_append]
  exact reads_obj_iff.mpr ⟨_, hread, rfl⟩

theorem broken_arr {l : List (List Char × Json)} (hl : ∀ e ∈ l, Spells readValue e.1 e.2)
    {t : List Char} (ht : Broken readValue t) (more : List (List Char)) :
    Broken readValue ('[' :: (separated (l.map Prod.fst ++ t :: more) ++ [']'])) := by
  refine ⟨⟨'[', _, rfl, by decide, by decide, by decide⟩, fun r j r' h => ?_⟩
  rw [bracketed_append] at h
  obtain ⟨as, hread, -⟩ := reads_arr_iff.mp h
  exact broken_brackets elements_readValue closes_arr hl ht more _ as r' hread

theorem broken_obj {l : List (List Char × String × Json)} (hl : ∀ e ∈ l, Spells member e.1 e.2)
    {t : List Char} (ht : Broken member t) (more : List (List Char)) :
    Broken readValue ('{' :: (separated (l.map Prod.fst ++ t :: more) ++ ['}'])) := by
  refine ⟨⟨'{', _, rfl, by decide, by decide, by decide⟩, fun r j r' h => ?_⟩
  rw [bracketed_append] at h
  obtain ⟨as, hread, -⟩ := reads_obj_iff.mp h
  exact broken_brackets elements_member closes_obj hl ht more _ as r' hread

-- ════════════════════════════════════════════════════════════════════════
-- Pieces that may be broken
-- ════════════════════════════════════════════════════════════════════════

/-- The piece is read as an element if this holds, and is broken if not. -/
def SpellsIff {α : Type} (element : ℕ → Reader α) (p : Prop) (t : List Char) : Prop :=
  (p ∧ ∃ a, Spells element t a) ∨ (¬ p ∧ Broken element t)

section

variable {α β : Type} {element : ℕ → Reader α} {R : β → Prop} {bs : List β}
  {ts : List (List Char)}

theorem SpellsIff.congr {p q : Prop} {t : List Char} (hpq : p ↔ q)
    (h : SpellsIff element p t) : SpellsIff element q t := by
  rwa [SpellsIff, ← hpq]

/-- Either all pieces are read, or there is a first broken one. -/
theorem spellsIff_all (h : List.Forall₂ (fun b t => SpellsIff element (R b) t) bs ts) :
    ((∀ b ∈ bs, R b) ∧ ∃ l : List (List Char × α), (∀ e ∈ l, Spells element e.1 e.2) ∧
      ts = l.map Prod.fst) ∨
    ((¬ ∀ b ∈ bs, R b) ∧ ∃ (l : List (List Char × α)) (t : List Char) (more : List (List Char)),
      (∀ e ∈ l, Spells element e.1 e.2) ∧ Broken element t ∧ ts = l.map Prod.fst ++ t :: more) := by
  induction h with
  | nil => exact .inl ⟨fun b hb => absurd hb List.not_mem_nil, [], fun e he => absurd he
      List.not_mem_nil, rfl⟩
  | cons hfirst _ ih =>
    rw [List.forall_mem_cons]
    rcases hfirst with ⟨hb, a, ha⟩ | ⟨hb, hbroken⟩
    · rcases ih with ⟨hbs, l, hl, rfl⟩ | ⟨hbs, l, t, more, hl, ht, rfl⟩
      · exact .inl ⟨⟨hb, hbs⟩, (_, a) :: l, List.forall_mem_cons.mpr ⟨ha, hl⟩, rfl⟩
      · exact .inr ⟨fun hall => hbs hall.2, (_, a) :: l, t, more,
          List.forall_mem_cons.mpr ⟨ha, hl⟩, ht, rfl⟩
    · exact .inr ⟨fun hall => hb hall.1, [], _, _, fun e he => absurd he List.not_mem_nil,
        hbroken, rfl⟩

/-- An array is read if all its elements are. -/
theorem spellsIff_arr (h : List.Forall₂ (fun b t => SpellsIff readValue (R b) t) bs ts) :
    SpellsIff readValue (∀ b ∈ bs, R b) ('[' :: (separated ts ++ [']'])) := by
  rcases spellsIff_all h with ⟨hall, l, hl, rfl⟩ | ⟨hnot, l, t, more, hl, ht, rfl⟩
  · exact .inl ⟨hall, _, spells_arr hl⟩
  · exact .inr ⟨hnot, broken_arr hl ht more⟩

/-- An object is read if all its members are. -/
theorem spellsIff_obj (h : List.Forall₂ (fun b t => SpellsIff member (R b) t) bs ts) :
    SpellsIff readValue (∀ b ∈ bs, R b) ('{' :: (separated ts ++ ['}'])) := by
  rcases spellsIff_all h with ⟨hall, l, hl, rfl⟩ | ⟨hnot, l, t, more, hl, ht, rfl⟩
  · exact .inl ⟨hall, _, spells_obj hl⟩
  · exact .inr ⟨hnot, broken_obj hl ht more⟩

/-- A member is read if its value is. -/
theorem spellsIff_member {p : Prop} {k : String} {t v : List Char} (ht : StringToken t k)
    (h : SpellsIff readValue p v) : SpellsIff member p (t ++ (':' :: ' ' :: v)) := by
  rcases h with ⟨hp, j, hv⟩ | ⟨hp, hv⟩
  · exact .inl ⟨hp, _, spells_member ht hv⟩
  · exact .inr ⟨hp, broken_member ht hv⟩

end

-- ════════════════════════════════════════════════════════════════════════
-- Writers of tokens
-- ════════════════════════════════════════════════════════════════════════

/-- A character of a string. -/
def escapeChar (c : Char) : List Char :=
  if c = '"' then ['\\', '"']
  else if c = '\\' then ['\\', '\\']
  else if c = '\n' then ['\\', 'n']
  else if c = '\r' then ['\\', 'r']
  else if c = '\t' then ['\\', 't']
  else if c.toNat = 8 then ['\\', 'b']
  else if c.toNat = 12 then ['\\', 'f']
  else if c.toNat < 32 then
    ['\\', 'u', '0', '0', (c.toNat / 16).digitChar, (c.toNat % 16).digitChar]
  else [c]

/-- A string in quotes, with escapes where they are needed. -/
def quote (s : String) : List Char := '"' :: (s.toList.flatMap escapeChar ++ ['"'])

theorem hexValue_digitChar {n : ℕ} (h : n < 16) : hexValue n.digitChar = some n := by
  revert n
  decide

/-- A code unit that is no surrogate is a character. -/
theorem decodePieces_unit {n : ℕ} (h : n < 32) (pieces : List Piece) :
    decodePieces (.unit n :: pieces) = Char.ofNat n :: decodePieces pieces := by
  have hhigh : isHighSurrogate n = false := by
    rw [isHighSurrogate, decide_eq_false (by omega)]
    rfl
  have hlow : isLowSurrogate n = false := by
    rw [isLowSurrogate, decide_eq_false (by omega)]
    rfl
  have hchar : charOfUnit n = Char.ofNat n := by
    rw [charOfUnit, hhigh, hlow]
    rfl
  rw [← hchar]
  cases pieces with
  | nil => rfl
  | cons piece pieces =>
    cases piece with
    | char c => rfl
    | unit lo =>
      show (if isHighSurrogate n && isLowSurrogate lo then _ else _) = _
      rw [hhigh, Bool.false_and, if_neg Bool.false_ne_true]

/-- A character of a string as writers spell it: as itself, behind a backslash, or a control
character by its number. -/
inductive CharText : List Char → Char → Prop
  | raw {c : Char} : ¬ (c.toNat < 32 ∨ c = '\\') → c ≠ '"' → CharText [c] c
  | escape {c d : Char} : unescape c = some d → CharText ['\\', c] d
  | control {a b c d : Char} {n : ℕ} : hexUnit a b c d = some n → n < 32 →
      CharText ['\\', 'u', a, b, c, d] (Char.ofNat n)

/-- The text is a string in quotes, spelled character by character. -/
def PlainToken (t : List Char) (s : String) : Prop :=
  ∃ l : List (List Char × Char), (∀ e ∈ l, CharText e.1 e.2) ∧
    t = '"' :: (l.flatMap Prod.fst ++ ['"']) ∧ s = String.ofList (l.map Prod.snd)

theorem charText_escapeChar (c : Char) : CharText (escapeChar c) c := by
  have hofNat : Char.ofNat c.toNat = c := Char.ofNat_toNat c
  unfold escapeChar
  split
  · next h =>
    rw [h]
    exact .escape rfl
  split
  · next h =>
    rw [h]
    exact .escape rfl
  split
  · next h =>
    rw [h]
    exact .escape rfl
  split
  · next h =>
    rw [h]
    exact .escape rfl
  split
  · next h =>
    rw [h]
    exact .escape rfl
  split
  · next h => exact .escape (by rw [← hofNat, h]; rfl)
  split
  · next h => exact .escape (by rw [← hofNat, h]; rfl)
  split
  · next h =>
    have hunit : hexUnit '0' '0' (c.toNat / 16).digitChar (c.toNat % 16).digitChar =
        some c.toNat := by
      rw [hexUnit, hexValue_digitChar (by omega), hexValue_digitChar (by omega)]
      show some (((0 * 16 + 0) * 16 + c.toNat / 16) * 16 + c.toNat % 16) = _
      congr 1
      omega
    have hcontrol := CharText.control hunit h
    rwa [hofNat] at hcontrol
  · next hquote hbackslash _ _ _ _ _ hlow => exact .raw (not_or.mpr ⟨hlow, hbackslash⟩) hquote

theorem plainToken_quote (s : String) : PlainToken (quote s) s := by
  refine ⟨s.toList.map fun c => (escapeChar c, c), ?_, ?_, ?_⟩
  · rintro e he
    obtain ⟨c, -, rfl⟩ := List.mem_map.mp he
    exact charText_escapeChar c
  · rw [List.flatMap_map]
    rfl
  · rw [List.map_map]
    simp [Function.comp_def]

/-- What a character is spelled as is read as the character. -/
theorem CharText.readPieces {t : List Char} {c : Char} (h : CharText t c) (s : List Char) :
    ∃ piece, readPieces (t ++ s) = consPiece piece (readPieces s) ∧
      ∀ pieces, decodePieces (piece :: pieces) = c :: decodePieces pieces := by
  cases h with
  | raw hc hquote =>
    refine ⟨.char c, ?_, fun _ => rfl⟩
    rw [List.singleton_append, JsonText.readPieces, if_neg hc]
    · exact hquote
    · exact fun _ _ _ _ _ heq => absurd (Or.inr heq) hc
    · exact fun _ _ heq => absurd (Or.inr heq) hc
  | @escape d _ hc =>
    refine ⟨.char c, ?_, fun _ => rfl⟩
    have hne : d ≠ 'u' := by
      rintro rfl
      cases hc
    rw [List.cons_append, List.singleton_append, JsonText.readPieces, hc, Option.bind_some]
    exact fun _ _ _ _ _ heq => absurd heq hne
  | @control a b c d n hunit hn =>
    refine ⟨.unit n, ?_, decodePieces_unit hn⟩
    show (hexUnit a b c d).bind (fun n => consPiece (.unit n) (JsonText.readPieces s)) = _
    rw [hunit, Option.bind_some]

theorem PlainToken.stringToken {t : List Char} {s : String} (h : PlainToken t s) :
    StringToken t s := by
  obtain ⟨l, hl, rfl, rfl⟩ := h
  refine ⟨_, rfl, ?_⟩
  have hpieces : ∃ pieces, JsonText.readPieces (l.flatMap Prod.fst ++ ['"']) = some (pieces, []) ∧
      decodePieces pieces = l.map Prod.snd := by
    induction l with
    | nil => exact ⟨[], rfl, rfl⟩
    | cons e l ih =>
      obtain ⟨he, hl⟩ := List.forall_mem_cons.mp hl
      obtain ⟨pieces, hread, hdecode⟩ := ih hl
      obtain ⟨piece, hpiece, hfirst⟩ := he.readPieces (l.flatMap Prod.fst ++ ['"'])
      refine ⟨piece :: pieces, ?_, by rw [hfirst, hdecode, List.map_cons]⟩
      rw [List.flatMap_cons, List.append_assoc, hpiece, hread]
      rfl
  obtain ⟨pieces, hread, hdecode⟩ := hpieces
  rw [readString, hread, Option.map_some, hdecode]

theorem stringToken_quote (s : String) : StringToken (quote s) s :=
  (plainToken_quote s).stringToken

/-- A multiple of a power of two, written out: the digits of the multiple and a power of ten. -/
def scaled (neg : Bool) (m : ℕ) (e : ℤ) : List Char :=
  let digits := Nat.toDigits 10 (m * 2 ^ e.toNat * 5 ^ (-e).toNat) ++
    'e' :: '-' :: Nat.toDigits 10 (-e).toNat
  if neg then '-' :: digits else digits

theorem splitOnce_exponent {s : List Char} (hs : ∀ c ∈ s, c.isDigit = true) (r : List Char) :
    splitOnce (fun c => c == 'e' || c == 'E') (s ++ 'e' :: r) = some (s, r) :=
  splitOnce_append (not_mark_of_digits hs).1 (by decide) r

theorem parseNumber_exponent {s : List Char} (hs : Decimal.Numeral s) (k : ℕ) :
    F64.parseNumber (s ++ 'e' :: '-' :: Nat.toDigits 10 k) =
      some ((digitsValue s : ℚ) * (10 : ℚ) ^ (-(k : ℤ))) := by
  have hnumeral := Decimal.numeral_toDigits k
  have hexponent : F64.parseExponent ('-' :: Nat.toDigits 10 k) = some (-(k : ℤ)) := by
    show (if Nat.toDigits 10 k ≠ [] ∧ (Nat.toDigits 10 k).all Char.isDigit = true then
      some (-(digitsValue (Nat.toDigits 10 k) : ℤ)) else none) = _
    rw [if_pos ⟨hnumeral.ne_nil, List.all_eq_true.mpr hnumeral.digits⟩,
      Decimal.digitsValue_toDigits]
  have hfraction : splitOnce (· == '.') s = none :=
    splitOnce_eq_none (not_mark_of_digits hs.digits).2
  have hdigits : s ++ [] ≠ [] ∧ (s ++ []).all Char.isDigit = true := by
    rw [List.append_nil]
    exact ⟨hs.ne_nil, List.all_eq_true.mpr hs.digits⟩
  unfold F64.parseNumber
  rw [splitOnce_exponent hs.digits]
  dsimp only
  rw [hexponent, hfraction]
  dsimp only [Option.getD_none, Option.map_some]
  rw [if_pos hdigits, List.append_nil, List.length_nil, Nat.cast_zero, sub_zero]

/-- A scaled number is read as the nearest double. -/
theorem number_scaled (neg : Bool) (m : ℕ) (e : ℤ) :
    number (scaled neg m e) = some (.float (F64.ofRat
      (if neg then -((m : ℚ) * (2 : ℚ) ^ e) else (m : ℚ) * (2 : ℚ) ^ e))) := by
  have hnumeral := Decimal.numeral_toDigits (m * 2 ^ e.toNat * 5 ^ (-e).toNat)
  have hpower := Decimal.numeral_toDigits (-e).toNat
  have hparse := parseNumber_exponent hnumeral (-e).toNat
  obtain ⟨c, l, hcons⟩ := List.exists_cons_of_ne_nil hnumeral.ne_nil
  have hfirst : Nat.toDigits 10 (m * 2 ^ e.toNat * 5 ^ (-e).toNat) ++
      'e' :: '-' :: Nat.toDigits 10 (-e).toNat =
      c :: (l ++ 'e' :: '-' :: Nat.toDigits 10 (-e).toNat) := by
    rw [hcons, List.cons_append]
  have hdigit : c.isDigit = true := hnumeral.digits c (hcons ▸ List.mem_cons_self)
  have hvalue : (((m * 2 ^ e.toNat * 5 ^ (-e).toNat : ℕ) : ℚ)) * (10 : ℚ) ^ (-((-e).toNat : ℤ)) =
      (m : ℚ) * (2 : ℚ) ^ e := by
    rcases Int.eq_nat_or_neg e with ⟨n, rfl | rfl⟩
    · simp
    · have hten : (10 : ℚ) ^ n = 2 ^ n * 5 ^ n := by
        rw [← mul_pow]
        norm_num
      rw [neg_neg, Int.toNat_natCast, Int.toNat_of_nonpos (by omega), zpow_neg, zpow_neg,
        zpow_natCast, zpow_natCast, hten]
      push_cast
      field_simp
  rw [Decimal.digitsValue_toDigits, hvalue] at hparse
  have hunsigned : unsigned (scaled neg m e) =
      Nat.toDigits 10 (m * 2 ^ e.toNat * 5 ^ (-e).toNat) ++
        'e' :: '-' :: Nat.toDigits 10 (-e).toNat := by
    unfold scaled
    cases neg with
    | true => rfl
    | false =>
      rw [if_neg Bool.false_ne_true, hfirst]
      unfold unsigned
      split
      · next heq =>
        rw [(List.cons.inj heq).1] at hdigit
        cases hdigit
      · rfl
  have hsplit : splitExponent (unsigned (scaled neg m e)) =
      (Nat.toDigits 10 (m * 2 ^ e.toNat * 5 ^ (-e).toNat),
        some ('-' :: Nat.toDigits 10 (-e).toNat)) := by
    rw [hunsigned, splitExponent, splitOnce_exponent hnumeral.digits]
  have hnumber : IsNumber (scaled neg m e) := by
    unfold IsNumber
    rw [hsplit]
    dsimp only
    rw [splitFraction_of_digits hnumeral.digits]
    refine ⟨hnumeral, rfl, ?_⟩
    show isDigits _ = true
    rw [isDigits, decide_eq_true hpower.ne_nil, Bool.true_and, List.all_eq_true]
    exact hpower.digits
  have hinteger : isInteger (scaled neg m e) = false := by
    rw [isInteger, hsplit]
    rfl
  rw [number, if_pos hnumber, hinteger, if_neg Bool.false_ne_true, scaled,
    Decimal.parse_signed hfirst hdigit hparse neg, Option.map_some]

/-- The decimal form of a double: a multiple of a power of two. -/
def doubleChars (q : ℚ) : List Char :=
  scaled (decide (q < 0)) (Rounding.roundEven (q / Rounding.unit 53 (-1074) q)).natAbs
    (Rounding.exponent 53 (-1074) q)

/-- The decimal form of a double stands for it. -/
theorem number_doubleChars {q : ℚ} (h : F64.ofRat q = .finite q) :
    number (doubleChars q) = some (.float (.finite q)) := by
  have hround : F64.round q = q := by
    unfold F64.ofRat at h
    split at h
    · cases h
    · exact F64.finite.inj h
  have hq : (Rounding.roundEven (q / Rounding.unit 53 (-1074) q) : ℚ) *
      (2 : ℚ) ^ Rounding.exponent 53 (-1074) q = q := hround
  rw [doubleChars, number_scaled]
  generalize Rounding.roundEven (q / Rounding.unit 53 (-1074) q) = n at hq ⊢
  have hpos : (0 : ℚ) < (2 : ℚ) ^ Rounding.exponent 53 (-1074) q := zpow_pos two_pos _
  rw [Nat.cast_natAbs, ← h]
  by_cases hneg : q < 0
  · have hn : n < 0 := by
      rw [← hq] at hneg
      exact_mod_cast neg_of_mul_neg_left hneg hpos.le
    rw [decide_eq_true hneg, if_pos rfl, abs_of_neg hn, Int.cast_neg, neg_mul, neg_neg, hq]
  · have hn : 0 ≤ n := by
      rw [← hq, not_lt] at hneg
      exact_mod_cast nonneg_of_mul_nonneg_left hneg hpos
    rw [decide_eq_false hneg, if_neg Bool.false_ne_true, abs_of_nonneg hn, hq]

-- ════════════════════════════════════════════════════════════════════════
-- Whole texts
-- ════════════════════════════════════════════════════════════════════════

theorem Denotes.unique {s : List Char} {j j' : Json} (h : Denotes s j) (h' : Denotes s j') :
    j = j' := by
  obtain ⟨r, hread, -⟩ := h
  obtain ⟨r', hread', -⟩ := h'
  exact (hread.unique elements_readValue hread').1

theorem Spells.denotes {t : List Char} {j : Json} (h : Spells readValue t j) : Denotes t j := by
  have hread := h [] (by rintro c ⟨⟩)
  rw [List.append_nil] at hread
  refine ⟨[], ?_, rfl⟩
  rw [(hread.starts elements_readValue).skipSpace]
  exact hread

theorem Broken.not_wellFormed {t : List Char} (h : Broken readValue t) : ¬ WellFormed t := by
  rintro ⟨j, r, hread, -⟩
  rw [h.1.skipSpace, ← List.append_nil t] at hread
  exact h.2 _ _ _ hread

theorem SpellsIff.wellFormed_iff {p : Prop} {t : List Char} (h : SpellsIff readValue p t) :
    WellFormed t ↔ p := by
  rcases h with ⟨hp, j, hj⟩ | ⟨hp, hbroken⟩
  · exact ⟨fun _ => hp, fun _ => ⟨j, hj.denotes⟩⟩
  · exact ⟨fun hwell => absurd hwell hbroken.not_wellFormed, fun h => absurd h hp⟩

end JsonText
