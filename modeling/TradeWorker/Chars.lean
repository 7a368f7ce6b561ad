import Mathlib.Data.List.DropRight

/-!
# Classes of characters

The classes that text methods and patterns are written in, over the whole of Unicode: what
counts as whitespace, what as a decimal digit, and the value of a run of digits. Then the
capitals of letters, and the stripping of a text by a class, at both ends.
-/

namespace Chars

/-- `c.isspace()`, and the class `\s`. -/
def isSpace (c : Char) : Bool :=
  (0x09 ≤ c.toNat && c.toNat ≤ 0x0D) || (0x1C ≤ c.toNat && c.toNat ≤ 0x20) ||
    (0x2000 ≤ c.toNat && c.toNat ≤ 0x200A) ||
      [0x85, 0xA0, 0x1680, 0x2028, 0x2029, 0x202F, 0x205F, 0x3000].contains c.toNat

/-- The zeros of the decimal digits; the nine others follow each. -/
def zeros : List Nat :=
  [0x30, 0x660, 0x6F0, 0x7C0, 0x966, 0x9E6, 0xA66, 0xAE6, 0xB66, 0xBE6, 0xC66, 0xCE6, 0xD66,
    0xDE6, 0xE50, 0xED0, 0xF20, 0x1040, 0x1090, 0x17E0, 0x1810, 0x1946, 0x19D0, 0x1A80, 0x1A90,
    0x1B50, 0x1BB0, 0x1C40, 0x1C50, 0xA620, 0xA8D0, 0xA900, 0xA9D0, 0xA9F0, 0xAA50, 0xABF0,
    0xFF10, 0x104A0, 0x10D30, 0x11066, 0x110F0, 0x11136, 0x111D0, 0x112F0, 0x11450, 0x114D0,
    0x11650, 0x116C0, 0x11730, 0x118E0, 0x11950, 0x11C50, 0x11D50, 0x11DA0, 0x11F50, 0x16A60,
    0x16AC0, 0x16B50, 0x1D7CE, 0x1D7D8, 0x1D7E2, 0x1D7EC, 0x1D7F6, 0x1E140, 0x1E2F0, 0x1E4F0,
    0x1E950, 0x1FBF0]

/-- What a decimal digit is worth. -/
def digit? (c : Char) : Option Nat :=
  (zeros.find? fun z => z ≤ c.toNat && c.toNat < z + 10).map (c.toNat - ·)

/-- The class `\d`. -/
def isDigit (c : Char) : Bool := (digit? c).isSome

/-- Runs of letters and numbers beyond ASCII: all up to the Cyrillic ones, and the main ones of
Armenian, Hebrew, kana, Han and Hangul and of the full-width forms. -/
def wordRuns : List (Nat × Nat) :=
  [(0xAA, 0xAA), (0xB2, 0xB3), (0xB5, 0xB5), (0xB9, 0xBA), (0xBC, 0xBE), (0xC0, 0xD6),
    (0xD8, 0xF6), (0xF8, 0x2C1), (0x2C6, 0x2D1), (0x2E0, 0x2E4), (0x2EC, 0x2EC), (0x2EE, 0x2EE),
    (0x370, 0x374), (0x376, 0x377), (0x37A, 0x37D), (0x37F, 0x37F), (0x386, 0x386),
    (0x388, 0x38A), (0x38C, 0x38C), (0x38E, 0x3A1), (0x3A3, 0x3F5), (0x3F7, 0x481),
    (0x48A, 0x52F), (0x531, 0x556), (0x560, 0x588), (0x5D0, 0x5EA), (0x3041, 0x3096),
    (0x30A1, 0x30FA), (0x3400, 0x4DBF), (0x4E00, 0x9FFF), (0xAC00, 0xD7A3), (0xFF10, 0xFF19),
    (0xFF21, 0xFF3A), (0xFF41, 0xFF5A)]

/-- `int(digits)`. -/
def natOf (digits : List Char) : Nat :=
  digits.foldl (fun n c => 10 * n + (digit? c).getD 0) 0

/-! ## Capitals -/

/-- Runs of small letters, and how far below them their capitals stand. -/
def smallRuns : List (Nat × Nat × Nat) :=
  [(0xE0, 0xF6, 0x20), (0xF8, 0xFE, 0x20), (0x3AC, 0x3AC, 0x26), (0x3AD, 0x3AF, 0x25),
    (0x3B1, 0x3C1, 0x20), (0x3C2, 0x3C2, 0x1F), (0x3C3, 0x3CB, 0x20), (0x3CC, 0x3CC, 0x40),
    (0x3CD, 0x3CE, 0x3F), (0x430, 0x44F, 0x20), (0x450, 0x45F, 0x50), (0x4CF, 0x4CF, 0xF),
    (0x561, 0x586, 0x30), (0x24D0, 0x24E9, 0x1A), (0xFF41, 0xFF5A, 0x20)]

/-- Runs in which each capital stands before its small letter. -/
def pairedRuns : List (Nat × Nat) :=
  [(0x100, 0x12F), (0x132, 0x137), (0x139, 0x148), (0x14A, 0x177), (0x179, 0x17E),
    (0x1CD, 0x1DC), (0x1DE, 0x1EF), (0x1F8, 0x21F), (0x222, 0x233), (0x246, 0x24F),
    (0x370, 0x373), (0x3D8, 0x3EF), (0x460, 0x481), (0x48A, 0x4BF), (0x4C1, 0x4CE),
    (0x4D0, 0x52F), (0x1E00, 0x1E95), (0x1EA0, 0x1EFF)]

/-- The letters whose capitals are several, or stand apart. -/
def otherCapitals : List (Nat × List Nat) :=
  [(0xB5, [0x39C]), (0xDF, [0x53, 0x53]), (0xFF, [0x178]), (0x131, [0x49]),
    (0x149, [0x2BC, 0x4E]), (0x17F, [0x53]), (0x1F0, [0x4A, 0x30C]),
    (0x390, [0x399, 0x308, 0x301]), (0x3B0, [0x3A5, 0x308, 0x301]), (0x1E96, [0x48, 0x331]),
    (0x1E97, [0x54, 0x308]), (0x1E98, [0x57, 0x30A]), (0x1E99, [0x59, 0x30A]),
    (0x1E9A, [0x41, 0x2BE]), (0x1E9B, [0x1E60]), (0xFB00, [0x46, 0x46]), (0xFB01, [0x46, 0x49]),
    (0xFB02, [0x46, 0x4C]), (0xFB03, [0x46, 0x46, 0x49]), (0xFB04, [0x46, 0x46, 0x4C]),
    (0xFB05, [0x53, 0x54]), (0xFB06, [0x53, 0x54])]

/-- `c.upper()`, for the common Latin, Greek and Cyrillic letters. No letter left out has an
ASCII letter in its capitals. -/
def capitals (c : Char) : List Char :=
  let n := c.toNat
  if n < 0x80 then [c.toUpper]
  else
    match smallRuns.find? fun run => run.1 ≤ n && n ≤ run.2.1 with
    | some (_, _, below) => [Char.ofNat (n - below)]
    | none =>
        match pairedRuns.find? fun run => run.1 ≤ n && n ≤ run.2 with
        | some (first, _) => [Char.ofNat (n - (n - first) % 2)]
        | none =>
            match otherCapitals.lookup n with
            | some codes => codes.map Char.ofNat
            | none => [c]

example : "ſßçışŉ€".toList.flatMap capitals = "SSSÇIŞʼN€".toList := by decide +kernel

/-! ## Stripping -/

/-- `s.strip(chars)`, by the class of the characters. -/
def strip (p : Char → Bool) (l : List Char) : List Char := (l.dropWhile p).rdropWhile p

section Strip

variable {p : Char → Bool}

/-- What stripping takes off the ends is of the class. -/
theorem strip_append (p : Char → Bool) (l : List Char) :
    ∃ before after, l = before ++ (strip p l ++ after) ∧ (∀ c ∈ before, p c = true) ∧
      ∀ c ∈ after, p c = true := by
  refine ⟨l.takeWhile p, (l.dropWhile p).rtakeWhile p, ?_, fun c hc => List.mem_takeWhile_imp hc,
    fun c hc => List.mem_rtakeWhile_imp hc⟩
  rw [strip, List.rdropWhile_append_rtakeWhile, List.takeWhile_append_dropWhile]

/-- Nothing else is lost. -/
theorem forall_mem_strip_iff {P : Char → Prop} (hclass : ∀ c, p c = true → P c) (l : List Char) :
    (∀ c ∈ strip p l, P c) ↔ ∀ c ∈ l, P c := by
  obtain ⟨before, after, hl, hbefore, hafter⟩ := strip_append p l
  constructor
  · intro h c hc
    rw [hl, List.mem_append, List.mem_append] at hc
    rcases hc with hc | hc | hc
    · exact hclass c (hbefore c hc)
    · exact h c hc
    · exact hclass c (hafter c hc)
  · intro h c hc
    refine h c ?_
    rw [hl]
    exact List.mem_append_right _ (List.mem_append_left _ hc)

theorem length_strip_le (p : Char → Bool) (l : List Char) :
    (strip p l).length ≤ l.length := by
  obtain ⟨before, after, hl, -⟩ := strip_append p l
  have hlength := congrArg List.length hl
  rw [List.length_append, List.length_append] at hlength
  omega

/-- Nothing of the class stands at either end. -/
structure Tidy (p : Char → Bool) (l : List Char) : Prop where
  head : ∀ c, l.head? = some c → p c = false
  last : ∀ c, l.getLast? = some c → p c = false

theorem Tidy.nil : Tidy p [] := by
  constructor <;> intro c h <;> cases h

/-- Such a text is not changed by stripping. -/
theorem Tidy.strip {l : List Char} (h : Tidy p l) : Chars.strip p l = l := by
  have hhead : l.dropWhile p = l := by
    cases l with
    | nil => rfl
    | cons c l => rw [List.dropWhile_cons_of_neg (by rw [h.head c rfl]; exact Bool.false_ne_true)]
  rw [Chars.strip, hhead]
  refine List.rdropWhile_eq_self_iff.mpr fun hne => ?_
  rw [h.last _ (List.getLast?_eq_some_getLast hne)]
  exact Bool.false_ne_true

theorem not_of_head?_dropWhile {c : Char} {l : List Char} (h : (l.dropWhile p).head? = some c) :
    p c = false := by
  have hnot := List.head?_dropWhile_not p l
  rw [h] at hnot
  exact hnot

theorem tidy_strip (l : List Char) : Tidy p (strip p l) := by
  constructor
  · intro c hc
    obtain ⟨after, hafter⟩ := List.rdropWhile_prefix p (l.dropWhile p)
    have hhead : (l.dropWhile p).head? = some c := by
      rw [strip] at hc
      rw [← hafter, List.head?_append, hc, Option.some_or]
    exact not_of_head?_dropWhile hhead
  · intro c hc
    have hne : (l.dropWhile p).rdropWhile p ≠ [] := by
      intro hnil
      rw [strip, hnil] at hc
      cases hc
    have hlast := List.rdropWhile_last_not p (l.dropWhile p) hne
    rw [strip, List.getLast?_eq_some_getLast hne] at hc
    obtain rfl := Option.some.inj hc
    simpa using hlast

/-- Stripping keeps the first character that is not of the class in front. -/
theorem head?_strip {c : Char} {l : List Char} (h : (l.dropWhile p).head? = some c) :
    (strip p l).head? = some c := by
  obtain ⟨rest, hrest⟩ := List.head?_eq_some_iff.mp h
  obtain ⟨after, hafter⟩ := List.rdropWhile_prefix p (l.dropWhile p)
  rw [strip]
  cases hkept : (l.dropWhile p).rdropWhile p with
  | nil =>
      have hall := List.rdropWhile_eq_nil_iff.mp hkept c (List.mem_of_head? h)
      rw [not_of_head?_dropWhile h] at hall
      cases hall
  | cons d kept =>
      rw [hkept, hrest] at hafter
      cases hafter
      rfl

/-- What is tidy at the front and at the back is tidy. -/
theorem Tidy.append {l l' : List Char} (h : Tidy p l) (h' : Tidy p l') (hne : l ≠ [])
    (hne' : l' ≠ []) (mid : List Char) : Tidy p (l ++ (mid ++ l')) := by
  constructor
  · intro c hc
    rw [List.head?_append_of_ne_nil _ hne] at hc
    exact h.head c hc
  · intro c hc
    rw [← List.append_assoc, List.getLast?_append_of_ne_nil _ hne'] at hc
    exact h'.last c hc

end Strip

end Chars
